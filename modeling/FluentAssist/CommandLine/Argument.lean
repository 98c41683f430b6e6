import FluentAssist.Text.Search

/-!
# Reading arguments

The arguments of a command are options with a value, words, and the flags for help and for the
version. They are read from left to right. An option has its value attached (`--line=3`, `-l3`,
`-l=3`) or in the next argument, and that one must not look like an option itself. After `--` every
argument is a word.

An attached value is checked at once. A value in an argument of its own is checked when the next
option, flag or word of the same command is read, or at the end; so a question for help that comes
after a wrong value is answered only if a command stands in between.
-/

set_option autoImplicit false

namespace FluentAssist.CommandLine

/-- Why reading ends without an invocation. -/
inductive Stop
  | help
  | version
  | misuse
  deriving DecidableEq, Repr

/-- A named place for one value. -/
structure Slot where
  name : String
  /-- The letter that may stand for the name of an option. -/
  letter : Option Char := none
  /-- Which values the place takes. -/
  accepts : Text → Bool := fun _ => true

/-- What a command understands. -/
structure Grammar where
  options : List Slot := []
  /-- The place of its only word. -/
  word : Option Slot := none
  /-- The commands that may follow. -/
  commands : List String := []
  /-- Whether it tells its version. -/
  tellsVersion : Bool := false

/-- The shapes of an argument. -/
inductive Argument
  | divider
  | long (name : Text) (value : Option Text)
  | short (letter : Char) (value : Option Text)
  | word
  deriving DecidableEq, Repr

/-- The value attached to a letter; an equals sign before it does not count. -/
def attached? : Text → Option Text
  | [] => none
  | '=' :: value => some value
  | value => some value

/-- The shape of an argument. -/
def Argument.of : Text → Argument
  | ['-', '-'] => .divider
  | '-' :: '-' :: rest =>
    match Text.splitOnce? '=' rest with
    | some (name, value) => .long name (some value)
    | none => .long rest none
  | '-' :: letter :: rest => .short letter (attached? rest)
  | _ => .word

/-- The values that have been read. -/
structure Reading where
  /-- The values that have been checked, by the names of their places. -/
  settled : List (String × Text) := []
  /-- The last place, and its value if it has been read. -/
  pending : Option (Slot × Option Text) := none

namespace Reading

/-- The value of a place. -/
def get? (reading : Reading) (name : String) : Option Text := reading.settled.lookup name

/-- Whether the next argument may be the value of an option. -/
def isAwaiting (reading : Reading) : Bool :=
  match reading.pending with
  | some (_, none) => true
  | _ => false

/-- Checks the last value: there has to be one, of the right form and for a new place. -/
def settle (reading : Reading) : Except Stop Reading :=
  match reading.pending with
  | none => .ok reading
  | some (_, none) => .error .misuse
  | some (slot, some value) =>
    if slot.accepts value && (reading.get? slot.name).isNone then
      .ok ⟨reading.settled ++ [(slot.name, value)], none⟩
    else .error .misuse

/-- Starts an option. -/
def option (reading : Reading) (slot : Slot) : Option Text → Except Stop Reading
  | none => do return { ← reading.settle with pending := some (slot, none) }
  | some value => do settle { ← reading.settle with pending := some (slot, some value) }

/-- A flag ends reading, unless what was read before is wrong. -/
def flag (reading : Reading) (stop : Stop) : Except Stop Reading := do
  let _ ← reading.settle
  .error stop

/-- Takes a word. -/
def place (grammar : Grammar) (reading : Reading) (word : Text) : Except Stop Reading :=
  match grammar.word with
  | none => .error .misuse
  | some slot => do
    let reading ← reading.settle
    if (reading.get? slot.name).isSome then .error .misuse
    else return { reading with pending := some (slot, some word) }

/-- Takes a value or a word. -/
def fill (grammar : Grammar) (reading : Reading) (word : Text) : Except Stop Reading :=
  match reading.pending with
  | some (slot, none) => .ok { reading with pending := some (slot, some word) }
  | _ => reading.place grammar word

/-- Takes an option or flag by its name. -/
def long (grammar : Grammar) (reading : Reading) (name : Text) (value : Option Text) :
    Except Stop Reading :=
  match grammar.options.find? (·.name.toList = name) with
  | some slot => reading.option slot value
  | none =>
    if value.isSome then .error .misuse
    else if name = "help".toList then reading.flag .help
    else if grammar.tellsVersion && name = "version".toList then reading.flag .version
    else .error .misuse

/-- Takes an option or flag by its letter. -/
def short (grammar : Grammar) (reading : Reading) (letter : Char) (value : Option Text) :
    Except Stop Reading :=
  match grammar.options.find? (·.letter = some letter) with
  | some slot => reading.option slot value
  | none =>
    if letter = 'h' then reading.flag .help
    else if grammar.tellsVersion && letter = 'V' then reading.flag .version
    else .error .misuse

/-- Reads arguments up to the name of a command. The result has that name and what follows. -/
def read (grammar : Grammar) :
    Reading → List Text → Except Stop (Reading × Option (String × List Text))
  | reading, [] => .ok (reading, none)
  | reading, argument :: rest =>
    let name := String.ofList argument
    if !reading.isAwaiting && grammar.commands.contains name then .ok (reading, some (name, rest))
    else
      match Argument.of argument with
      | .divider => do return (← rest.foldlM (place grammar) reading, none)
      | .long name value => do read grammar (← reading.long grammar name value) rest
      | .short letter value => do read grammar (← reading.short grammar letter value) rest
      | .word => do read grammar (← reading.fill grammar argument) rest

/-- Reads all arguments of a command that no other command may follow. -/
def readAll (grammar : Grammar) (arguments : List Text) : Except Stop Reading := do
  (← read grammar {} arguments).1.settle

end Reading

end FluentAssist.CommandLine
