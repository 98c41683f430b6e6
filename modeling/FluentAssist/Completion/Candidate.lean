import FluentAssist.Cursor.Context

/-!
# Completion candidates

A candidate is a label with what an editor shows beside it and what it does when the candidate is
accepted.
-/

set_option autoImplicit false

namespace FluentAssist

/-- The visual category of a candidate. -/
inductive CandidateKind
  | function
  | property
  | value
  | event
  | method
  | field
  deriving DecidableEq, Repr

/-- The name of a category. -/
def CandidateKind.name : CandidateKind → String
  | .function => "Function"
  | .property => "Property"
  | .value => "Value"
  | .event => "Event"
  | .method => "Method"
  | .field => "Field"

/-- All categories. -/
def CandidateKind.all : List CandidateKind :=
  [.function, .property, .value, .event, .method, .field]

/-- The category of a name. -/
def CandidateKind.ofName? (name : String) : Option CandidateKind :=
  CandidateKind.all.find? (·.name = name)

/-- The category of the members of an attribute collection. -/
def AttributeKind.candidateKind : AttributeKind → CandidateKind
  | .props => .property
  | .slots => .field
  | .events => .event
  | .methods => .method

/-- What is inserted when a candidate is accepted. -/
inductive Insertion
  | text (value : Text)
  /-- Text with tab stops, placeholders and choices. -/
  | snippet (value : Text)
  deriving DecidableEq, Repr

/-- A completion candidate. -/
structure Candidate where
  label : String
  /-- A short type or signature. -/
  description : Option String := none
  kind : Option CandidateKind := none
  /-- The part of the document that is replaced; without one the editor replaces its own word. -/
  range : Option Span := none
  insert : Option Insertion := none
  documentation : Option Text := none
  /-- The place among the candidates. It is a number of 32 bits at run time; lists of more than
  `2 ^ 32` candidates are left out. -/
  sortPriority : Nat := 0
  deriving DecidableEq, Repr

/-- The text that is inserted: the label unless something else is given. -/
def Candidate.insertText (candidate : Candidate) : Text :=
  match candidate.insert with
  | some (.text value) => value
  | some (.snippet value) => value
  | none => candidate.label.toList

/-- Numbers candidates in their order. -/
def numbered (candidates : List Candidate) : List Candidate :=
  candidates.mapIdx fun i candidate => { candidate with sortPriority := i }

/-- Numbering leaves the labels as they are. -/
theorem labels_numbered (candidates : List Candidate) :
    (numbered candidates).map (·.label) = candidates.map (·.label) := by
  apply List.ext_getElem
  · simp [numbered]
  · intro i _ _
    simp [numbered]

/-- An insertion as a value. -/
def Insertion.toJson : Insertion → Json
  | .text value => .obj [("Text", .ofText value)]
  | .snippet value => .obj [("Snippet", .ofText value)]

/-- A candidate as a value. -/
def Candidate.toJson (candidate : Candidate) : Json :=
  .obj [
    ("label", .str candidate.label),
    ("description", .ofOption .str candidate.description),
    ("kind", .ofOption (fun k => .str k.name) candidate.kind),
    ("range", .ofOption Span.toJson candidate.range),
    ("insert", .ofOption Insertion.toJson candidate.insert),
    ("documentation", .ofOption .ofText candidate.documentation),
    ("sort_priority", .ofNat candidate.sortPriority)]

end FluentAssist
