import Lookout.CommandLine.Help
import Lookout.Display.Canvas
import Lookout.Poll.Turn
/-!
# The dashboard

The program that polls the picture of one channel and keeps account of the health of all configured
channels.
-/

namespace Lookout.CommandLine.Dashboard

/-! ## The command line -/

/-- The command line. -/
def grammar : Grammar where
  program := "channel_dashboard"
  about := "Poll still images for a channel and report channel health"
  parameters := [
    { name := "channel", operand := .text, envName := some "MONITOR_CHANNEL"
      purpose := "Channel to show. Defaults to the first configured channel" },
    { name := "width", operand := .signedWhole 0x100000000, fallback := some "1280"
      purpose := "Display container width; the image is fitted at 16:9" },
    { name := "height", operand := .signedWhole 0x100000000, fallback := some "720"
      purpose := "Display container height" },
    { name := "png", operand := .path
      purpose := "Write the displayed image to this PNG on exit" }]

/-- What the program is asked to do. -/
structure Options where
  /-- The channel to show. -/
  channel : Option ChannelId := none
  /-- The width of the container. -/
  width : Nat := 1280
  /-- The height of the container. -/
  height : Nat := 720
  /-- Where to keep the picture at the end. -/
  png : Option String := none
  deriving DecidableEq, Repr

/-- The options that were given. -/
def Options.ofValues (v : Values) : Options where
  channel := (v.value? "channel").map ChannelId.mk
  width := ((v.value? "width").bind (Text.signedWhole? 0x100000000)).getD 1280
  height := ((v.value? "height").bind (Text.signedWhole? 0x100000000)).getD 720
  png := v.value? "png"

/-! ## The work -/

/-- The message when there is no channel to show. -/
def noChannel : String := "no channel selected; pass --channel or set MONITOR_CHANNELS"

/-- The channel to show: the one of the command line, or else the first that is configured. -/
def Options.selection (o : Options) (c : Config) : Except Halt ChannelId :=
  match o.channel <|> c.dashboard.channels.head? with
  | some channel => .ok channel
  | none => .error (.failed noChannel)

/-- The size of the display. -/
def Options.displaySize (o : Options) : Nat × Nat :=
  let (width, height) := fitPicture (Float32.ofNat o.width) (Float32.ofNat o.height)
  (width.round.toUInt32.toNat, height.round.toUInt32.toNat)

/-- The poller with a display of the given size; it knows the configured channels. -/
def pollerFor (c : Config) (size : Nat × Nat) : Poller Canvas :=
  let poller : Poller Canvas :=
    { policy := c.dashboard.policy, display := { surface := .blank size.1 size.2 } }
  c.dashboard.channels.foldl Poller.register poller

/-- What gets the pictures. -/
def fetcherFor (c : Config) : Fetcher := { base := c.dashboard.baseUrl, timeout := c.dashboard.timeout }

/-- What there is to do: poll a channel with a poller and a fetcher. -/
structure Task where
  /-- The channel. -/
  channel : ChannelId
  /-- The poller. -/
  poller : Poller Canvas
  /-- What gets the pictures. -/
  fetcher : Fetcher
  /-- Where to keep the picture at the end. -/
  png : Option String

/-- What the program is started for. -/
def task (i : Invocation) : Except Fault (Except Halt Task) :=
  let read : Except Halt (Options × Config × ChannelId) := do
    let options := Options.ofValues (← grammar.values i.environment i.arguments)
    let config ← i.config
    return (options, config, ← options.selection config)
  match read with
  | .error halt => .ok (.error halt)
  | .ok (options, config, channel) =>
    let size := options.displaySize
    if octetLimit ≤ size.1 * size.2 * 4 then .error .displayTooLarge
    else .ok (.ok ⟨channel, pollerFor config size, fetcherFor config, options.png⟩)

/-- The worker for a task, after the channel was selected. -/
def Task.begin (t : Task) (now : Moment) : Worker Canvas :=
  let (ticket, poller) := t.poller.select t.channel
  { Worker.spawn poller with next := some ⟨ticket, now⟩ }

/-! ## Its result -/

/-- The account of the channels' health, one line for each. -/
def healthLines (w : Worker Canvas) : List String :=
  w.poller.health.snapshot.map fun (channel, health) => s!"{channel.path}: {health.name}"

/-- The report about a worker that was told to end. -/
def reportOf (w : Worker Canvas) : Report where
  exitCode := 0
  health := healthLines w
  file := w.poller.display.surface.fileIfDrawn

/-- How long it may take until the program sees that it was told to end. -/
def attention : Span := .ofMillis 250

/-- Let a worker go on until the program, which is told to end by the world, has seen that; for at
most `fuel` steps.  The `deadline` is there from the moment when it is told. -/
def watch {ω : Type} [Clock ω Float] [Net.Network ω] (told : ω → Bool) :
    Nat → Option Moment → Fetcher → Moment → Worker Canvas → ω → Worker Canvas × ω
  | 0, _, _, _, w, world => (w, world)
  | fuel + 1, deadline, f, now, w, world =>
    let deadline := deadline <|> if told world then some (now.after attention) else none
    if deadline.any (· < now) then (w, world)
    else
      let (w, f, now, world) := w.turn f now world
      watch told fuel deadline f now w world

/-- Run the program until it is told to end. -/
def run {ω : Type} [Clock ω Float] [Net.Network ω] (told : ω → Bool) (fuel : Nat)
    (i : Invocation) (world : ω) : Report × ω :=
  match task i with
  | .error fault => (.ofFault fault, world)
  | .ok (.error halt) => (halt.report, world)
  | .ok (.ok t) =>
    let (w, world) := watch told fuel none t.fetcher ⟨0⟩ (t.begin ⟨0⟩) world
    (reportOf w, world)

end Lookout.CommandLine.Dashboard
