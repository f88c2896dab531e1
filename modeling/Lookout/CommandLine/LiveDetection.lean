import Lookout.Capture.Camera
import Lookout.CommandLine.Help
import Lookout.Display.Canvas
import Lookout.Pipeline
/-!
# Live detection

The program that takes frames from a camera, has the detection service look at them and draws what
it finds.  It can list the cameras instead.
-/

namespace Lookout.CommandLine.LiveDetection

/-! ## The command line -/

/-- The words for the positions of the facing control. -/
def facingWords : List (String × FacingPreset) :=
  [("default", .any), ("front", .front), ("rear", .rear)]

/-- The command line. -/
def grammar : Grammar where
  program := "live_detect"
  about := "Stream camera frames through an HTTP object detector and draw the results"
  parameters := [
    { name := "device", operand := .text, envName := some "MONITOR_DEVICE_ID"
      purpose := "Exact camera device id (see the configured device list)" },
    { name := "facing", operand := .choice (facingWords.map (·.1)), fallback := some "default"
      purpose := "Camera facing preset" },
    { name := "frames", operand := .whole 0x10000000000000000
      purpose := "Stop after this many rendered frames" },
    { name := "png", operand := .path
      purpose := "Write the last composed surface to this PNG on exit" },
    { name := "list-devices", operand := .nothing
      purpose := "Print the configured video inputs and exit" }]

/-- What the program is asked to do. -/
structure Options where
  /-- The device to use. -/
  device : Option String := none
  /-- The position of the facing control. -/
  facing : FacingPreset := .any
  /-- How many frames to render at most. -/
  frames : Option Nat := none
  /-- Where to keep the last picture. -/
  png : Option String := none
  /-- Only list the devices. -/
  listDevices : Bool := false
  deriving DecidableEq, Repr

/-- The options that were given. -/
def Options.ofValues (v : Values) : Options where
  device := v.value? "device"
  facing := ((v.value? "facing").bind fun word => facingWords.lookup word).getD .any
  frames := (v.value? "frames").bind (Text.whole? 0x10000000000000000)
  png := v.value? "png"
  listDevices := v.has "list-devices"

/-! ## The work -/

/-- The request for a capture: the configured one under the facing control, for the device of the
command line or else for the configured one. -/
def Options.constraints (o : Options) (c : Config) : Constraints :=
  (o.facing.apply c.camera.constraints).withDevice (o.device <|> c.camera.constraints.deviceId)

/-- The list of the devices: name, label and address of each, between tabs. -/
def deviceList (c : Config) : String :=
  String.join (c.catalog.videoInputs.map fun d => s!"{d.id}\t{d.label}\t{d.url}\n")

/-- The configured font. -/
def loadFont (c : Config) (files : String → Except FileFault ByteArray) :
    Except FontError (Option Font) :=
  match c.fontPath with
  | none => .ok none
  | some path => (Font.load path (files path)).map some

/-- The pipeline of this program. -/
abbrev LivePipeline := Pipeline Canvas (Camera Float) Detector

/-- The pipeline for a configuration. -/
def pipelineFor (c : Config) (font : Option Font) : LivePipeline where
  catalog := c.catalog
  settings := { rate := c.camera.frameRate, format := c.camera.format }
  sourceOf := Camera.ofSettings
  detector := .ofSettings c.detection
  renderer := { surface := .blank 0 0 font }

/-- What there is to do. -/
inductive Task where
  /-- Print a text. -/
  | print (text : String)
  /-- Run a pipeline, which is first told to start a capture. -/
  | capture (pipeline : LivePipeline) (constraints : Constraints) (options : Options)

/-- What the program is started for. -/
def task (i : Invocation) : Except Halt Task := do
  let options := Options.ofValues (← grammar.values i.environment i.arguments)
  let config ← i.config
  if options.listDevices then return .print (deviceList config)
  let font ← (loadFont config i.files).mapError fun e => .failed e.message
  return .capture (pipelineFor config font) (options.constraints config) options

/-! ## Its result -/

/-- The commands that a capture begins with. -/
def commands (constraints : Constraints) : Pipeline.Inbox := .ofList [.start constraints]

/-- The report about a run that has ended; the last picture is kept even if the run broke off. -/
def reportOf (ending : Pipeline.RunEnd) (p : LivePipeline) : Report :=
  let file := p.renderer.surface.fileIfDrawn
  let rateText := p.renderer.readouts.fpsText
  match ending with
  | .failed e => { exitCode := 1, error := some e.message, file }
  | .finished n => { exitCode := 0, rendered := some n, rateText, file }
  | .unfinished n => { exitCode := 0, rendered := some n, rateText, file }

/-- Carry out a task; a capture makes at most `fuel` iterations. -/
def Task.run {ω : Type} [Clock ω Float] [Net.Network ω] (fuel : Nat) (t : Task) (w : ω) :
    Report × ω :=
  match t with
  | .print text => ({ exitCode := 0, output := text }, w)
  | .capture p constraints o =>
    match Pipeline.run o.frames fuel 0 p (commands constraints) w with
    | .error fault => (.ofFault fault, w)
    | .ok (ending, p, _, w) => (reportOf ending p, w)

/-- Run the program. -/
def run {ω : Type} [Clock ω Float] [Net.Network ω] (fuel : Nat) (i : Invocation) (w : ω) :
    Report × ω :=
  match task i with
  | .error halt => (halt.report, w)
  | .ok t => t.run fuel w

end Lookout.CommandLine.LiveDetection
