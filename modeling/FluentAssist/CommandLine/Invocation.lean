import FluentAssist.CommandLine.Argument
import FluentAssist.Files.Path
import FluentAssist.Settings.File

/-!
# Invocations

What the program can be told to do on its command line.
-/

set_option autoImplicit false

namespace FluentAssist.CommandLine

/-- The form of results. -/
inductive Format
  | text
  | json
  deriving DecidableEq, Repr

/-- The form of a name. -/
def Format.ofName? (name : Text) : Option Format :=
  if name = "text".toList then some .text
  else if name = "json".toList then some .json
  else none

/-- A place in a file. Lines and columns are counted from one. -/
structure Place where
  file : Path
  line : Nat
  column : Nat
  deriving DecidableEq, Repr

/-- What the program does. -/
inductive Command
  | serve
  | complete (place : Place) (max : Nat)
  | context (place : Place)
  | hover (place : Place)
  | companion (file : Path)
  | preview (url : Option Text)
  | stats
  deriving DecidableEq, Repr

/-- A command and what holds for every command. -/
structure Invocation where
  /-- The directory of the knowledge base. -/
  assets : Option Path
  /-- The settings file. -/
  config : Option Path
  format : Format
  command : Command
  deriving DecidableEq, Repr

/-- A line or column: a number below `2 ^ 32`. A zero may have a minus sign. -/
def number? : Text → Option Nat
  | '-' :: digits => if !digits.isEmpty && digits.all (· = '0') then some 0 else none
  | text => (Settings.digits? 10 text).filter (· < wordSize32)

/-- A number of results. -/
def count? (text : Text) : Option Nat := Settings.digits? 10 text

/-- The number of results that are shown unless told otherwise. -/
def defaultCount : Nat := 50

/-- The place of a path; a path is never empty. -/
def pathSlot (name : String) : Slot where
  name := name
  accepts path := !path.isEmpty

/-- The word of a command that works on a file. -/
def fileSlot : Slot := pathSlot "FILE"

/-- The options that name a place in a file. -/
def placeOptions : List Slot :=
  [⟨"line", some 'l', fun v => (number? v).isSome⟩,
    ⟨"column", some 'c', fun v => (number? v).isSome⟩]

/-- The names of the commands. -/
def commandNames : List String :=
  ["serve", "complete", "context", "hover", "companion", "preview", "stats"]

/-- The command that explains the others. -/
def helpName : String := "help"

/-- What comes before a command. -/
def mainGrammar : Grammar where
  options := [pathSlot "assets", pathSlot "config",
    ⟨"format", some 'f', fun v => (Format.ofName? v).isSome⟩]
  commands := helpName :: commandNames
  tellsVersion := true

/-- What comes after the name of a command. -/
def grammarOf (name : String) : Grammar :=
  if name = "complete" then
    ⟨placeOptions ++ [⟨"max", none, fun v => (count? v).isSome⟩], some fileSlot, [], false⟩
  else if name = "context" ∨ name = "hover" then ⟨placeOptions, some fileSlot, [], false⟩
  else if name = "companion" then ⟨[], some fileSlot, [], false⟩
  else if name = "preview" then ⟨[⟨"url", none, fun _ => true⟩], none, [], false⟩
  else {}

/-- The place that the values of a command name. -/
def placeOf? (values : Reading) : Option Place := do
  return ⟨Path.ofText (← values.get? fileSlot.name), ← (values.get? "line").bind number?,
    ← (values.get? "column").bind number?⟩

/-- The command of a name and its values, if none is missing. -/
def commandOf? (name : String) (values : Reading) : Option Command :=
  match name with
  | "serve" => some .serve
  | "complete" => do
    return .complete (← placeOf? values) (((values.get? "max").bind count?).getD defaultCount)
  | "context" => (placeOf? values).map .context
  | "hover" => (placeOf? values).map .hover
  | "companion" => (values.get? fileSlot.name).map fun file => .companion (Path.ofText file)
  | "preview" => some (.preview (values.get? "url"))
  | "stats" => some .stats
  | _ => none

/-- Explains a command; only one can be explained. -/
def explain : List Text → Stop
  | [] => .help
  | [name] => if mainGrammar.commands.contains (String.ofList name) then .help else .misuse
  | _ => .misuse

/-- Reads a command. Without one the program serves. -/
def readCommand : Option (String × List Text) → Except Stop Command
  | none => .ok .serve
  | some (name, rest) =>
    if name = helpName then .error (explain rest)
    else do
      match commandOf? name (← Reading.readAll (grammarOf name) rest) with
      | some command => .ok command
      | none => .error .misuse

/-- The directory of the knowledge base: an option counts before the environment. -/
def assetsOf (values : Reading) (environment : Option Text) : Except Stop (Option Path) :=
  match values.get? "assets", environment with
  | some path, _ => .ok (some (Path.ofText path))
  | none, some [] => .error .misuse
  | none, path => .ok (path.map Path.ofText)

/-- Reads the arguments of the program. The environment may name the directory of the knowledge
base. -/
def Invocation.parse (environment : Option Text) (arguments : List Text) :
    Except Stop Invocation := do
  let (values, rest) ← Reading.read mainGrammar {} arguments
  let command ← readCommand rest
  let values ← values.settle
  return {
    assets := ← assetsOf values environment
    config := (values.get? "config").map Path.ofText
    format := ((values.get? "format").bind Format.ofName?).getD .text
    command := command }

end FluentAssist.CommandLine
