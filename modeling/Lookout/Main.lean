import Lookout.CommandLine.Dashboard
import Lookout.CommandLine.LiveDetection
import Lookout.Dialogue
import Lookout.Net.Wire
import Lookout.Time.SystemClock
import Std.Async.DNS
import Std.Async.Signal
import Std.Async.TCP
/-!
# The programs

The first argument names the program, the others are its own.  This module answers the questions of
a run: it reads files, the clock and the environment, exchanges requests with servers, and prints
what a report says.  An answer is received as a whole before it is used.
-/

namespace Lookout.Main

open CommandLine Std.Async

/-! ## Files and the environment -/

/-- Why a file could not be read. -/
def fileFault : IO.Error → FileFault
  | .noFileOrDirectory .. => .missing
  | .inappropriateType .. => .directory
  | e => .other (toString e)

/-- The contents of a file. -/
def readFile (path : String) : IO (Except FileFault ByteArray) := do
  try
    return .ok (← IO.FS.readBinFile path)
  catch e =>
    return .error (fileFault e)

/-- The variables that the programs look at. -/
def variableNames : List String :=
  ["MONITOR_CONFIG", "MONITOR_DETECT_URL", "MONITOR_CHANNEL_BASE_URL", "MONITOR_POLL_FPS",
    "MONITOR_RETRY_BACKOFF_MS", "MONITOR_CHANNELS", "MONITOR_FONT_PATH", "MONITOR_DEVICE_ID",
    "MONITOR_CHANNEL"]

/-- The environment. -/
def readEnvironment : IO Config.Environment := do
  let values ← variableNames.mapM fun name => return (name, ← IO.getEnv name)
  return { value := fun name => (values.lookup name).join }

/-- A look-up in files that were read; others are missing. -/
def lookIn (known : List (String × Except FileFault ByteArray)) (path : String) :
    Except FileFault ByteArray :=
  (known.lookup path).getD (.error .missing)

/-- What a program is started with: the file that the environment names is read, and then the one
that the configuration names. -/
def invocation (arguments : List String) : IO Invocation := do
  let environment ← readEnvironment
  let known ← (environment.value "MONITOR_CONFIG").toList.mapM fun path =>
    return (path, ← readFile path)
  let fontPath := (Config.load environment (lookIn known)).toOption.bind (·.fontPath)
  let fonts ← fontPath.toList.mapM fun path => return (path, ← readFile path)
  return ⟨arguments, environment, lookIn (known ++ fonts)⟩

/-! ## Servers -/

/-- The most octets of an answer that are received. -/
def receiveLimit : Nat := 64 * 1024 * 1024

/-- Receive until the server closes the connection. -/
partial def receiveAll (socket : TCP.Socket.Client) (received : ByteArray) : Async ByteArray := do
  if receiveLimit ≤ received.size then return received
  match ← socket.recv? 65536 with
  | some octets => receiveAll socket (received ++ octets)
  | none => return received

/-- The addresses of a host. -/
def addressesOf : Host → Async (Array Std.Net.IPAddr)
  | .ipv4 value =>
    let octet (shift : Nat) : UInt8 := (value >>> shift).toUInt8
    return #[.v4 ⟨#v[octet 24, octet 16, octet 8, octet 0]⟩]
  | .ipv6 pieces =>
    let piece (i : Nat) : UInt16 := (pieces[i]?.getD 0).toUInt16
    return #[.v6 ⟨#v[piece 0, piece 1, piece 2, piece 3, piece 4, piece 5, piece 6, piece 7]⟩]
  | .domain name => DNS.getAddrInfo name ""

/-- An address and a port. -/
def socketAddress (address : Std.Net.IPAddr) (port : UInt16) : Std.Net.SocketAddress :=
  match address with
  | .v4 addr => .v4 ⟨addr, port⟩
  | .v6 addr => .v6 ⟨addr, port⟩

/-- Send a request over a connection of its own and receive the answer. -/
def converse (r : Net.Request) : Async (Except Net.TransportFault Net.Response) := do
  match r.url.host with
  | none => return .error (.other "no host")
  | some host =>
    match (← addressesOf host)[0]? with
    | none => return .error (.other "Dns Failed: no address")
    | some address =>
      let socket ← TCP.Socket.Client.mk
      socket.connect (socketAddress address (r.url.port.getD 80).toUInt16)
      socket.send r.octets
      return Net.Response.ofOctets (← receiveAll socket .empty)

/-- Wait for a task, for a span at most. -/
partial def awaitUntil {α : Type} (clock : SystemClock) (limit : Span) (task : AsyncTask α) :
    IO (Option α) := do
  if ← IO.hasFinished task then return some (← task.block)
  else if limit.nanos ≤ (← clock.elapsed).nanos then return none
  else
    IO.sleep 2
    awaitUntil clock limit task

/-- How long a server may take if a request says nothing about that. -/
def patience : Span := .ofMillis 30000

/-- Exchange a request for an answer. -/
def exchange (r : Net.Request) : IO (Except Net.TransportFault Net.Response) := do
  if r.url.scheme ≠ "http" then return .error (.other "encrypted connections are not supported")
  try
    let task ← (converse r).toIO
    match ← awaitUntil (← SystemClock.start) (r.timeout.getD patience) task with
    | some answer => return answer
    | none => return .error (.other "Network Error: timed out")
  catch e =>
    return .error (.other (toString e))

/-! ## Runs -/

/-- Answer a question. -/
def answer (clock : SystemClock) : Dialogue.Question → IO Dialogue.Reply
  | .time => return .time (← clock.now)
  | .pause d => do
    SystemClock.sleep d
    return .paused
  | .exchange r => return .exchanged (← exchange r)

/-- Make a run, answering its questions until it has none. -/
partial def settle {α : Type} (clock : SystemClock) (run : Dialogue → α × Dialogue)
    (replies : Array Dialogue.Reply := #[]) : IO α := do
  let (a, d) := run ⟨replies.toList, none⟩
  match d.question with
  | none => return a
  | some q => settle clock run (replies.push (← answer clock q))

/-- Run with a task that finishes once the program is told to end. -/
def withInterruption {α : Type} (act : AsyncTask Int → IO α) : IO α := do
  let waiter ← Signal.Waiter.mk .sigint false
  let a ← act (← waiter.wait)
  waiter.stop
  return a

/-- Say something about what is going on. -/
def say (message : String) : IO Unit := IO.eprintln message

/-- An iteration of a pipeline, with the fault as an ordinary result. -/
def iterate (limit : Option Nat) (rendered : Nat) (p : LiveDetection.LivePipeline)
    (inbox : Pipeline.Inbox) (d : Dialogue) :
    Except Fault (Pipeline.RunEnd × LiveDetection.LivePipeline × Pipeline.Inbox) × Dialogue :=
  match Pipeline.run limit 1 rendered p inbox d with
  | .error fault => (.error fault, d)
  | .ok (ending, p, inbox, d) => (.ok (ending, p, inbox), d)

/-- Capture until the run ends. -/
partial def capture (clock : SystemClock) (interrupted : AsyncTask Int) (limit : Option Nat)
    (rendered : Nat) (p : LiveDetection.LivePipeline) (inbox : Pipeline.Inbox) : IO Report := do
  let stop := if ← IO.hasFinished interrupted then [.stop] else []
  let inbox := { inbox with queue := inbox.queue ++ stop }
  match ← settle clock (iterate limit rendered p inbox) with
  | .error fault => return .ofFault fault
  | .ok (.unfinished rendered, p, inbox) => capture clock interrupted limit rendered p inbox
  | .ok (ending, p, _) => return LiveDetection.reportOf ending p

/-- Keep the last picture, if there is one and somewhere to keep it. -/
def keepPicture (path : Option String) (r : Report) : IO Unit := do
  match path, r.file with
  | some path, some file =>
    try
      IO.FS.writeBinFile path file
      say s!"wrote the last picture to {path}"
    catch e => say (toString e)
  | some path, none => say s!"there is no picture; {path} not written"
  | none, _ => return

/-- The program that detects. -/
def liveDetection (arguments : List String) : IO Report := do
  match LiveDetection.task (← invocation arguments) with
  | .error halt => return halt.report
  | .ok (.print text) => return { exitCode := 0, output := text }
  | .ok (.capture p constraints options) =>
    let clock ← SystemClock.start
    let report ← withInterruption fun interrupted =>
      capture clock interrupted options.frames 0 p (LiveDetection.commands constraints)
    keepPicture options.png report
    return report

/-- Let a worker go on until the program is told to end. -/
partial def watch (clock : SystemClock) (interrupted : AsyncTask Int) (f : Fetcher)
    (w : Worker Canvas) : IO (Worker Canvas) := do
  if ← IO.hasFinished interrupted then return w
  let now : Moment := ⟨(← clock.elapsed).nanos⟩
  match w.phase with
  | .checking => watch clock interrupted f (w.check now)
  | .asleep due =>
    let isDue := due.any (· ≤ now)
    if !isDue then IO.sleep 20
    watch clock interrupted f (if isDue then w.wake else w)
  | .fetching ticket =>
    let (outcome, f) ← settle clock fun d =>
      let (outcome, f, d) := f.fetch ticket.channel d
      ((outcome, f), d)
    watch clock interrupted f (w.finish outcome ⟨(← clock.elapsed).nanos⟩)
  | _ => return w

/-- The program that watches channels. -/
def dashboard (arguments : List String) : IO Report := do
  match Dashboard.task (← invocation arguments) with
  | .error fault => return .ofFault fault
  | .ok (.error halt) => return halt.report
  | .ok (.ok t) =>
    let clock ← SystemClock.start
    let w ← withInterruption fun interrupted => do
      say "waiting for an interrupt (Ctrl-C)"
      watch clock interrupted t.fetcher (t.begin ⟨0⟩)
    let report := Dashboard.reportOf w
    keepPicture t.png report
    return report

/-- Print what a report says. -/
def present (r : Report) : IO UInt32 := do
  IO.print r.output
  IO.eprint r.complaint
  r.health.forM say
  match r.rendered with
  | some n => say s!"rendered {n} frames, last fps {r.rateText}"
  | none => pure ()
  match r.error with
  | some message => say s!"Error: {message}"
  | none => pure ()
  return r.exitCode.toUInt32

/-- The programs by their names. -/
def programs : List (String × (List String → IO Report)) :=
  [(LiveDetection.grammar.program, liveDetection), (Dashboard.grammar.program, dashboard)]

end Lookout.Main

/-- Run the program that the first argument names. -/
def main (arguments : List String) : IO UInt32 := do
  match arguments.head?.bind fun name => Lookout.Main.programs.lookup name with
  | some program => Lookout.Main.present (← program arguments.tail)
  | none =>
    let names := " | ".intercalate (Lookout.Main.programs.map (·.1))
    IO.eprintln s!"Usage: {names} [OPTIONS]"
    return 2
