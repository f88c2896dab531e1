import Lookout.Config.Basic
/-!
# Command lines

A program is described by the options it takes (`Grammar`).  Its arguments are read from left to
right, and the first of them that settles the matter does: a fault, or a request for help or for
the version.  An option may be given once, its value as the next argument or behind an equals sign.
Options that are not given take their values from the environment, and after that their defaults.
-/

namespace Lookout.CommandLine

/-! ## Options -/

/-- What an option takes. -/
inductive Operand where
  /-- Nothing: the option is given or not. -/
  | nothing
  /-- Any text. -/
  | text
  /-- The path of a file, which is not empty. -/
  | path
  /-- One of several words. -/
  | choice (words : List String)
  /-- A whole number below a bound. -/
  | whole (bound : Nat)
  /-- A whole number below a bound; zero may have a minus sign. -/
  | signedWhole (bound : Nat)
  deriving DecidableEq, Repr

/-- The value is of the kind that is taken. -/
def Operand.accepts (value : String) : Operand → Bool
  | .nothing => value.isEmpty
  | .text => true
  | .path => !value.isEmpty
  | .choice words => words.contains value
  | .whole bound => (Text.whole? bound value).isSome
  | .signedWhole bound => (Text.signedWhole? bound value).isSome

/-- An option. -/
structure Parameter where
  /-- Its name, without the dashes. -/
  name : String
  /-- What it takes. -/
  operand : Operand
  /-- What it is for. -/
  purpose : String
  /-- The variable of the environment that stands in for it. -/
  envName : Option String := none
  /-- The value it has otherwise. -/
  fallback : Option String := none
  deriving DecidableEq, Repr

/-- The option in a message: its name and what it takes. -/
def Parameter.title (p : Parameter) : String :=
  if p.operand = .nothing then s!"--{p.name}" else s!"--{p.name} <{p.name.toUpper}>"

/-- A program as its command line shows it. -/
structure Grammar where
  /-- The name it is called by. -/
  program : String
  /-- What it does. -/
  about : String
  /-- Its options. -/
  parameters : List Parameter

/-- The option of a name. -/
def Grammar.find? (g : Grammar) (name : String) : Option Parameter :=
  g.parameters.find? (·.name = name)

/-! ## Arguments -/

/-- An argument, by its form. -/
inductive Word where
  /-- Two dashes alone: no options follow. -/
  | stop
  /-- Two dashes and a name, and a value if there is an equals sign. -/
  | long (name : String) (value : Option String)
  /-- One dash and letters. -/
  | short (first : Char)
  /-- Anything else. -/
  | plain
  deriving DecidableEq, Repr

/-- The part of a text before the first equals sign, and the part after it if there is one. -/
def splitEquals : List Char → List Char × Option (List Char)
  | [] => ([], none)
  | c :: cs =>
    if c = '=' then ([], some cs)
    else
      let (name, value) := splitEquals cs
      (c :: name, value)

/-- The form of an argument. -/
def Word.of (argument : String) : Word :=
  match argument.toList with
  | ['-', '-'] => .stop
  | '-' :: '-' :: cs =>
    let (name, value) := splitEquals cs
    .long (String.ofList name) (value.map String.ofList)
  | '-' :: c :: _ => .short c
  | _ => .plain

/-- What is wrong with a command line. -/
inductive Misuse where
  /-- An argument that the program does not know. -/
  | unexpected (argument : String)
  /-- An option that was given before. -/
  | repeated (p : Parameter)
  /-- An option without the value it takes. -/
  | valueMissing (p : Parameter)
  /-- An option with a value although it takes none. -/
  | valueUnneeded (name : String) (value : String)
  /-- An option with a value of the wrong kind. -/
  | valueRefused (p : Parameter) (value : String)
  /-- An option whose variable is set, but not to a text. -/
  | notText (p : Parameter)
  deriving DecidableEq, Repr

/-- Why a command line is not carried out. -/
inductive Stop where
  /-- It asks for help. -/
  | help
  /-- It asks for the version. -/
  | version
  /-- Something is wrong with it. -/
  | misused (fault : Misuse)
  deriving DecidableEq, Repr

/-- The values of options, by their names; an option that takes nothing has the empty text. -/
structure Values where
  /-- The values, the last one first. -/
  entries : List (String × String) := []
  deriving DecidableEq, Repr

namespace Values

/-- The value of an option. -/
def value? (v : Values) (name : String) : Option String := v.entries.lookup name

/-- The option has a value. -/
def has (v : Values) (name : String) : Bool := (v.value? name).isSome

/-- Give an option a value. -/
def insert (v : Values) (name value : String) : Values := ⟨(name, value) :: v.entries⟩

/-- Give an option on the command line its value. -/
def give (v : Values) (p : Parameter) (value : String) : Except Stop Values :=
  if v.has p.name then .error (.misused (.repeated p))
  else if p.operand.accepts value then .ok (v.insert p.name value)
  else .error (.misused (.valueRefused p value))

end Values

namespace Grammar

/-- What an argument in the place of an option asks for. -/
inductive Request where
  /-- No more options. -/
  | stop
  /-- An option with its value. -/
  | give (p : Parameter) (value : String)
  /-- An option whose value is the next argument. -/
  | await (p : Parameter)

/-- The request of an argument whose name is the name of no option. -/
def standard (name : String) (value : Option String) (argument : String) : Except Stop Request :=
  if name = "help" ∨ name = "version" then
    match value with
    | some value => .error (.misused (.valueUnneeded name value))
    | none => .error (if name = "help" then .help else .version)
  else .error (.misused (.unexpected argument))

/-- The request of an argument in the place of an option. -/
def request (g : Grammar) (argument : String) : Except Stop Request :=
  match Word.of argument with
  | .plain => .error (.misused (.unexpected argument))
  | .stop => .ok .stop
  | .short c =>
    if c = 'h' then .error .help
    else if c = 'V' then .error .version
    else .error (.misused (.unexpected argument))
  | .long name value =>
    match g.find? name with
    | none => standard name value argument
    | some p =>
      match p.operand, value with
      | .nothing, none => .ok (.give p "")
      | .nothing, some value => .error (.misused (.valueUnneeded name value))
      | _, some value => .ok (.give p value)
      | _, none => .ok (.await p)

/-- Read the arguments after those that gave the options in `v`. -/
def readArguments (g : Grammar) (v : Values) : List String → Except Stop Values
  | [] => .ok v
  | a :: as =>
    match g.request a with
    | .error stop => .error stop
    | .ok .stop =>
      match as with
      | [] => .ok v
      | b :: _ => .error (.misused (.unexpected b))
    | .ok (.give p value) =>
      match v.give p value with
      | .error stop => .error stop
      | .ok v => g.readArguments v as
    | .ok (.await p) =>
      match as with
      | [] => .error (.misused (.valueMissing p))
      | b :: bs =>
        if Word.of b = .plain then
          match v.give p b with
          | .error stop => .error stop
          | .ok v => g.readArguments v bs
        else .error (.misused (.valueMissing p))

/-- Give an option that was not given the value of its variable. -/
def fillFromEnvironment (env : Config.Environment) (v : Values) (p : Parameter) :
    Except Stop Values :=
  match p.envName with
  | none => .ok v
  | some variableName =>
    if v.has p.name then .ok v
    else if env.isUnreadable variableName then .error (.misused (.notText p))
    else match env.value variableName with
      | none => .ok v
      | some value => v.give p value

/-- Give an option that has no value its default. -/
def fillFromDefault (v : Values) (p : Parameter) : Values :=
  match p.fallback with
  | none => v
  | some value => if v.has p.name then v else v.insert p.name value

/-- Read a command line in an environment. -/
def read (g : Grammar) (env : Config.Environment) (arguments : List String) :
    Except Stop Values := do
  let v ← g.readArguments {} arguments
  let v ← g.parameters.foldlM (fillFromEnvironment env) v
  return g.parameters.foldl fillFromDefault v

end Grammar

end Lookout.CommandLine
