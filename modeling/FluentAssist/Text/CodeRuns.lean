import FluentAssist.Text.Digits
import FluentAssist.Text.Ranges

/-!
# Tables of code points as text

Large tables of code points are written as words of hexadecimal numbers. `low-high` is a range,
`low~high` every other code point of it, and a word may end in an equals sign and the numbers, with
dots between them, that the table gives for its code points.
-/

set_option autoImplicit false

namespace FluentAssist.Text

/-- The parts of a text between separators. -/
def partsBy (isSeparator : Char → Bool) : Text → List Text
  | [] => [[]]
  | c :: rest =>
    match partsBy isSeparator rest with
    | part :: parts => if isSeparator c then [] :: part :: parts else (c :: part) :: parts
    | [] => [[c]]

/-- Code points `first, first + step, …` up to `last` with the numbers given for them. -/
structure CodeRun where
  first : Nat
  last : Nat
  step : Nat
  codes : List Nat
  deriving DecidableEq, Repr

namespace CodeRun

/-- Whether a code point belongs to the run. -/
def holds (run : CodeRun) (code : Nat) : Bool :=
  run.first ≤ code && code ≤ run.last && (code - run.first) % run.step == 0

/-- A word of a table. -/
def ofWord? (word : Text) : Option CodeRun := do
  let bounds := word.takeWhile (· != '=')
  let codes ← match word.dropWhile (· != '=') with
    | _ :: numbers => (partsBy (· == '.') numbers).mapM (readBase? 16)
    | [] => some []
  let step := if bounds.contains '~' then 2 else 1
  match ← (partsBy (fun c => c == '-' || c == '~') bounds).mapM (readBase? 16) with
  | [only] => some ⟨only, only, 1, codes⟩
  | [first, last] => some ⟨first, last, step, codes⟩
  | _ => none

/-- The runs of a table. -/
def ofString (table : String) : List CodeRun :=
  (partsBy (fun c => c == ' ' || c == '\n') table.toList).filterMap ofWord?

/-- The first run of a table that holds a code point. -/
def find? (table : List CodeRun) (code : Nat) : Option CodeRun := List.find? (·.holds code) table

end CodeRun

/-- The ranges of a table. -/
def Ranges.ofString (table : String) : Ranges :=
  (CodeRun.ofString table).map fun run => (run.first, run.last)

end FluentAssist.Text
