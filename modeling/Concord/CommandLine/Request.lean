namespace Concord.CommandLine

/-! What the command line asks for.

A line holds options, a command and what the command is about.  Options for the base directory
and the configuration may stand before and after the command, and the one after it counts; at one
place an option is given once.  Behind a double dash everything is an operand.  The question for help
or for the version is answered where it is met, if nothing before it is misused.
-/

inductive Command where
  | compare (json : Bool)
  | lint (json : Bool)
  | validate (documents : List String) (schema? : Option String) (json : Bool)
deriving DecidableEq, Repr

structure Invocation where
  baseDir : String
  config? : Option String
  command : Command
deriving DecidableEq, Repr

inductive Request where
  | perform (invocation : Invocation)
  | version
  /-- How a line is written, or what may stand after the name of a command. -/
  | help (command? : Option String)
deriving DecidableEq, Repr

/-- What may be given at a place of the line: before a command, or after the name of one. -/
structure Level where
  command? : Option String
  switches : List String
  options : List String
  operands : Bool
  version : Bool

namespace Level

def commonOptions : List String := ["base-dir", "config"]

def top : Level where
  command? := none
  switches := []
  options := commonOptions
  operands := false
  version := true

def ofCommand? (name : String) : Option Level :=
  match name with
  | "compare" | "lint" =>
      some {
        command? := some name
        switches := ["json"]
        options := commonOptions
        operands := false
        version := false }
  | "validate" =>
      some {
        command? := some name
        switches := ["json"]
        options := "schema" :: commonOptions
        operands := true
        version := false }
  | _ => none

end Level

structure Given where
  switches : List String
  values : List (String × String)
  operands : List String

namespace Given

def nothing : Given := ⟨[], [], []⟩

/-- Every switch is given once. -/
def switch? (given : Given) (name : String) : Option Given :=
  if given.switches.contains name then none
  else some { given with switches := name :: given.switches }

/-- Every option is given once, with a value that is not empty. -/
def value? (given : Given) (name value : String) : Option Given :=
  if value = "" ∨ (given.values.lookup name).isSome then none
  else some { given with values := (name, value) :: given.values }

def operand? (given : Given) (text : String) : Option Given :=
  if text = "" then none else some { given with operands := given.operands ++ [text] }

end Given

/-- What ends the reading of a line before its end. -/
inductive Interruption where
  | question (request : Request)
  | misuse
deriving DecidableEq, Repr

abbrev Reading := Except Interruption

def orMisuse (given? : Option Given) : Reading Given :=
  match given? with
  | some given => .ok given
  | none => .error .misuse

/-- A name with the value that an equals sign puts behind it. -/
def cutValue (text : List Char) : String × Option String :=
  let name := String.ofList (text.takeWhile (· ≠ '='))
  match text.dropWhile (· ≠ '=') with
  | _ :: value => (name, some (String.ofList value))
  | [] => (name, none)

def isDashed (argument : String) : Bool :=
  match argument.toList with
  | '-' :: _ :: _ => true
  | _ => false

/-- Letters behind a single dash: as many calls for more words as one likes, or a question. -/
def readLetters (level : Level) : List Char → Reading Unit
  | [] => .ok ()
  | letter :: rest =>
      if letter = 'v' then readLetters level rest
      else if letter = 'h' then .error (.question (.help level.command?))
      else if letter = 'V' ∧ level.version then .error (.question .version)
      else .error .misuse

def readOperands (level : Level) (given : Given) (arguments : List String) : Reading Given :=
  if level.operands then arguments.foldlM (fun given text => orMisuse (given.operand? text)) given
  else if arguments.isEmpty then .ok given
  else .error .misuse

/-- Reads what is given at one place, up to an argument that `isCommand` holds of. -/
def readLevel (level : Level) (isCommand : String → Bool) :
    Given → List String → Reading (Given × List String)
  | given, [] => .ok (given, [])
  | given, "--" :: rest => do return (← readOperands level given rest, [])
  | given, argument :: rest =>
      match argument.toList with
      | '-' :: '-' :: text =>
          let (name, attached?) := cutValue text
          if level.options.contains name then
            match attached?, rest with
            | some value, rest => do
                readLevel level isCommand (← orMisuse (given.value? name value)) rest
            | none, value :: rest => do
                if isDashed value then .error .misuse
                else readLevel level isCommand (← orMisuse (given.value? name value)) rest
            | none, [] => .error .misuse
          else if attached?.isSome then .error .misuse
          else if name = "verbose" then readLevel level isCommand given rest
          else if name = "help" then .error (.question (.help level.command?))
          else if name = "version" ∧ level.version then .error (.question .version)
          else if level.switches.contains name then do
            readLevel level isCommand (← orMisuse (given.switch? name)) rest
          else .error .misuse
      | '-' :: letter :: letters => do
          readLetters level (letter :: letters)
          readLevel level isCommand given rest
      | _ =>
          if isCommand argument then .ok (given, argument :: rest)
          else if level.operands then do
            readLevel level isCommand (← orMisuse (given.operand? argument)) rest
          else .error .misuse

namespace Request

/-- The directory that documents are in if none is given. -/
def hereDirectory : String := "."

def commandOf? (name : String) (given : Given) : Option Command :=
  let json := given.switches.contains "json"
  match name with
  | "compare" => some (.compare json)
  | "lint" => some (.lint json)
  | "validate" =>
      if given.operands.isEmpty then none
      else some (.validate given.operands (given.values.lookup "schema") json)
  | _ => none

def invocation (before after : Given) (command : Command) : Invocation where
  baseDir :=
    ((after.values.lookup "base-dir").or (before.values.lookup "base-dir")).getD hereDirectory
  config? := (after.values.lookup "config").or (before.values.lookup "config")
  command := command

/-- Where a command can stand, one can also ask for help by this name. -/
def helpName : String := "help"

def isCommand (name : String) : Bool := name = helpName || (Level.ofCommand? name).isSome

/-- Help is given on the line as a whole or on one command, itself among them. -/
def readHelp : List String → Reading Request
  | [] => .ok (.help none)
  | [name] => if isCommand name then .ok (.help (some name)) else .error .misuse
  | _ => .error .misuse

def read (arguments : List String) : Reading Request := do
  match ← readLevel .top isCommand .nothing arguments with
  | (before, []) => return .perform (invocation before .nothing (.compare false))
  | (before, name :: rest) =>
      if name = helpName then readHelp rest
      else
        match Level.ofCommand? name with
        | none => .error .misuse
        | some level => do
            let (after, _) ← readLevel level (fun _ => false) .nothing rest
            match commandOf? name after with
            | some command => return .perform (invocation before after command)
            | none => .error .misuse

def ofArguments? (arguments : List String) : Option Request :=
  match read arguments with
  | .ok request | .error (.question request) => some request
  | .error .misuse => none

end Request

end Concord.CommandLine
