import FluentAssist.Json.Value
import FluentAssist.Json.Shortest

/-!
# Writing JSON

`Json.compact` writes a value without blanks, `Json.pretty` with one member per line and two blanks
per level, both in the order of the members. `Json.sorted` puts members into ascending order of
their keys, which is the form of messages on the wire.
-/

set_option autoImplicit false

namespace FluentAssist.Json

/-- A control character as a four-digit escape. -/
def controlEscape (c : Char) : Text :=
  let digits := Nat.toDigits 16 c.toNat
  ['\\', 'u'] ++ List.replicate (4 - digits.length) '0' ++ digits

/-- One character inside a string. -/
def stringChar (c : Char) : Text :=
  if c = '"' then ['\\', '"']
  else if c = '\\' then ['\\', '\\']
  else if c = '\x08' then ['\\', 'b']
  else if c = '\x0c' then ['\\', 'f']
  else if c = '\n' then ['\\', 'n']
  else if c = '\r' then ['\\', 'r']
  else if c = '\t' then ['\\', 't']
  else if c.toNat < 32 then controlEscape c
  else [c]

/-- A string in quotes, followed by `rest`. -/
def stringOnto (s : String) (rest : Text) : Text :=
  '"' :: s.toList.foldr (fun c tail => stringChar c ++ tail) ('"' :: rest)

/-- The text of a number. -/
def Number.text : Number → Text
  | .int i => (toString i).toList
  | .real bits => realText bits

/-- The text of a value that is neither an array nor an object, followed by `rest`. -/
def scalarOnto : Json → Text → Text
  | .null, rest => "null".toList ++ rest
  | .bool true, rest => "true".toList ++ rest
  | .bool false, rest => "false".toList ++ rest
  | .num n, rest => n.text ++ rest
  | .str s, rest => stringOnto s rest
  | .arr _, rest => rest
  | .obj _, rest => rest

mutual

/-- The compact text of a value, followed by `rest`. -/
def compactOnto : Json → Text → Text
  | .arr items, rest => '[' :: compactItems true items rest
  | .obj members, rest => '\x7b' :: compactMembers true members rest
  | scalar, rest => scalarOnto scalar rest

/-- Items separated by commas and the closing bracket. -/
def compactItems : Bool → List Json → Text → Text
  | _, [], rest => ']' :: rest
  | first, item :: items, rest =>
    (if first then [] else [',']) ++ compactOnto item (compactItems false items rest)

/-- Members separated by commas and the closing brace. -/
def compactMembers : Bool → List (String × Json) → Text → Text
  | _, [], rest => '\x7d' :: rest
  | first, (key, value) :: members, rest =>
    (if first then [] else [',']) ++
      stringOnto key (':' :: compactOnto value (compactMembers false members rest))

end

/-- The compact text of a value. -/
def compact (value : Json) : Text := compactOnto value []

/-- A line break and the indentation of a level. -/
def indent (level : Nat) : Text := '\n' :: List.replicate (2 * level) ' '

mutual

/-- The indented text of a value at a level, followed by `rest`. -/
def prettyOnto (level : Nat) : Json → Text → Text
  | .arr [], rest => '[' :: ']' :: rest
  | .arr items, rest => '[' :: prettyItems level true items rest
  | .obj [], rest => '\x7b' :: '\x7d' :: rest
  | .obj members, rest => '\x7b' :: prettyMembers level true members rest
  | scalar, rest => scalarOnto scalar rest

/-- Items on lines of their own and the closing bracket. -/
def prettyItems (level : Nat) : Bool → List Json → Text → Text
  | _, [], rest => indent level ++ ']' :: rest
  | first, item :: items, rest =>
    (if first then [] else [',']) ++ indent (level + 1) ++
      prettyOnto (level + 1) item (prettyItems level false items rest)

/-- Members on lines of their own and the closing brace. -/
def prettyMembers (level : Nat) : Bool → List (String × Json) → Text → Text
  | _, [], rest => indent level ++ '\x7d' :: rest
  | first, (key, value) :: members, rest =>
    (if first then [] else [',']) ++ indent (level + 1) ++
      stringOnto key
        (':' :: ' ' :: prettyOnto (level + 1) value (prettyMembers level false members rest))

end

/-- The indented text of a value. -/
def pretty (value : Json) : Text := prettyOnto 0 value []

mutual

/-- A value with the members of all its objects in ascending order of their keys. -/
def sorted : Json → Json
  | .arr items => .arr (sortedItems items)
  | .obj members => .obj ((sortedMembers members).mergeSort (fun a b => a.1 ≤ b.1))
  | scalar => scalar

/-- Every item in sorted form. -/
def sortedItems : List Json → List Json
  | [] => []
  | item :: items => sorted item :: sortedItems items

/-- Every member with its value in sorted form. -/
def sortedMembers : List (String × Json) → List (String × Json)
  | [] => []
  | (key, value) :: members => (key, sorted value) :: sortedMembers members

end

end FluentAssist.Json
