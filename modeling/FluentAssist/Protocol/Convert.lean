import FluentAssist.Completion.Candidate
import FluentAssist.Hover
import FluentAssist.Text.Position

/-!
# Candidates and hover texts on the wire

An editor addresses a document by positions and takes completion items and hovers as values in
which absent parts are left out.
-/

set_option autoImplicit false

namespace FluentAssist.Protocol

/-- A position as a value. -/
def position (at_ : Position) : Json :=
  .obj [("line", .ofNat at_.line), ("character", .ofNat at_.character)]

/-- A range as a value. -/
def range (between : PositionRange) : Json :=
  .obj [("start", position between.start), ("end", position between.stop)]

/-- Markdown as a value. -/
def markdown (text : Text) : Json :=
  .obj [("kind", .str "markdown"), ("value", .ofText text)]

/-- The number of a category. -/
def kindNumber : CandidateKind → Nat
  | .method => 2
  | .function => 3
  | .field => 5
  | .property => 10
  | .value => 12
  | .event => 23

/-- A priority as a text that sorts by it: five digits or more. -/
def sortText (priority : Nat) : Text :=
  let digits := Nat.toDigits 10 priority
  List.replicate (5 - digits.length) '0' ++ digits

/-- The number of an insertion's format: one for plain text, two for a snippet. -/
def insertFormat : Option Insertion → Nat
  | some (.snippet _) => 2
  | some (.text _) => 1
  | none => 1

/-- A member, unless it is absent. -/
def member? (key : String) : Option Json → List (String × Json)
  | some value => [(key, value)]
  | none => []

/-- A candidate as a completion item. With a range it is a text edit; without one the editor
chooses what is replaced. -/
def completionItem (text : Text) (candidate : Candidate) : Json :=
  let newText := candidate.insertText
  .obj (
    [("label", .str candidate.label)] ++
    member? "labelDetails"
      (candidate.description.map fun d => .obj [("description", .str d)]) ++
    member? "kind" (candidate.kind.map fun kind => .ofNat (kindNumber kind)) ++
    member? "detail" (candidate.description.map .str) ++
    member? "documentation" (candidate.documentation.map markdown) ++
    [("sortText", .ofText (sortText candidate.sortPriority))] ++
    member? "insertText"
      (if candidate.range.isNone && candidate.insert.isSome then some (.ofText newText)
      else none) ++
    [("insertTextFormat", .ofNat (insertFormat candidate.insert))] ++
    member? "textEdit"
      (candidate.range.map fun span =>
        .obj [("range", range (Text.positionRange text span)), ("newText", .ofText newText)]))

/-- A hover text as a hover. -/
def hover (text : Text) (info : HoverInfo) : Json :=
  .obj [
    ("contents", markdown info.contents),
    ("range", range (Text.positionRange text info.range))]

end FluentAssist.Protocol
