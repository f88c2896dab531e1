import Lookout.CommandLine.Grammar
import Lookout.Fault
/-!
# What a command line answers

The texts for those who ask for help or for the version, and for those who made a mistake.
-/

namespace Lookout.CommandLine

/-- The name and the number of the release, which are those of all programs together. -/
def release : String := "live-monitor 0.1.0"

/-- The text for a version. -/
def versionText : String := s!"{release}\n"

/-- How the program is called. -/
def Grammar.usage (g : Grammar) : String := s!"Usage: {g.program} [OPTIONS]"

/-- An option in the list of options: how it is written, and what is said about it. -/
structure HelpRow where
  /-- How it is written. -/
  form : String
  /-- What is said about it. -/
  text : String

/-- What the values of an option come from, and what they may be. -/
def Parameter.remarks (p : Parameter) (env : Config.Environment) : List String :=
  let fromEnv := match p.envName with
    | some name => ["[env: " ++ name ++ "=" ++ (env.value name).getD "" ++ "]"]
    | none => []
  let fallback := match p.fallback with
    | some value => [s!"[default: {value}]"]
    | none => []
  let words := match p.operand with
    | .choice words => ["[possible values: " ++ ", ".intercalate words ++ "]"]
    | _ => []
  fromEnv ++ fallback ++ words

/-- The row of an option. -/
def Parameter.row (p : Parameter) (env : Config.Environment) : HelpRow :=
  ⟨s!"    {p.title}", " ".intercalate (p.purpose :: p.remarks env)⟩

/-- The rows of all options. -/
def Grammar.rows (g : Grammar) (env : Config.Environment) : List HelpRow :=
  g.parameters.map (·.row env)
    ++ [⟨"-h, --help", "Print help"⟩, ⟨"-V, --version", "Print version"⟩]

/-- The text for help: the columns are two blanks apart. -/
def Grammar.helpText (g : Grammar) (env : Config.Environment) : String :=
  let rows := g.rows env
  let width := (rows.map (·.form.length)).foldl max 0
  let line (r : HelpRow) : String :=
    let gap := String.ofList (List.replicate (width - r.form.length + 2) ' ')
    s!"  {r.form}{gap}{r.text}\n"
  s!"{g.about}\n\n{g.usage}\n\nOptions:\n{String.join (rows.map line)}"

/-- The wording of a mistake. -/
def Misuse.message : Misuse → String
  | .unexpected argument => s!"unexpected argument '{argument}' found"
  | .repeated p => s!"the argument '{p.title}' cannot be used multiple times"
  | .valueMissing p => s!"a value is required for '{p.title}' but none was supplied"
  | .valueUnneeded name value => s!"unexpected value '{value}' for '--{name}' found; no more were expected"
  | .valueRefused p value => s!"invalid value '{value}' for '{p.title}'"
  | .notText p => s!"invalid UTF-8 was detected in the value of '{p.title}'"

/-- The text for a mistake. -/
def Grammar.misuseText (g : Grammar) (fault : Misuse) : String :=
  s!"error: {fault.message}\n\n{g.usage}\n\nFor more information, try '--help'.\n"

/-- Why a program ends before its work begins. -/
inductive Halt where
  /-- It was only asked about itself. -/
  | answered (text : String)
  /-- It was called in a way it does not know. -/
  | misused (text : String)
  /-- It cannot do its work. -/
  | failed (message : String)
  deriving DecidableEq, Repr

/-- What a run of a program shows to those who called it. -/
structure Report where
  /-- The number it ends with. -/
  exitCode : Nat
  /-- What it printed. -/
  output : String := ""
  /-- What it printed about a mistake in the way it was called. -/
  complaint : String := ""
  /-- Why it could not do its work. -/
  error : Option String := none
  /-- How many frames it rendered. -/
  rendered : Option Nat := none
  /-- The frame rate that it last showed. -/
  rateText : String := ""
  /-- What it last said about the health of channels. -/
  health : List String := []
  /-- The file with the last picture. -/
  file : Option ByteArray := none

/-- The report of a program that ends before its work begins. -/
def Halt.report : Halt → Report
  | .answered text => { exitCode := 0, output := text }
  | .misused text => { exitCode := 2, complaint := text }
  | .failed message => { exitCode := 1, error := some message }

/-- The report of a program that stopped at once. -/
def Report.ofFault : Fault → Report := fun _ => { exitCode := 101 }

/-- Read a command line; a program that cannot or need not go on ends with a text. -/
def Grammar.values (g : Grammar) (env : Config.Environment) (arguments : List String) :
    Except Halt Values :=
  (g.read env arguments).mapError fun
    | .help => .answered (g.helpText env)
    | .version => .answered versionText
    | .misused fault => .misused (g.misuseText fault)

/-- What a program is started with. -/
structure Invocation where
  /-- Its arguments. -/
  arguments : List String
  /-- Its environment. -/
  environment : Config.Environment
  /-- What the files hold. -/
  files : String → Except FileFault ByteArray

/-- The configuration that a program is started with. -/
def Invocation.config (i : Invocation) : Except Halt Config :=
  (Config.load i.environment i.files).mapError fun e => .failed e.message

end Lookout.CommandLine
