import FluentAssist.Completion.Documentation
import FluentAssist.Completion.Snippet
import FluentAssist.Knowledge.Base
import FluentAssist.Style.Position

/-!
# Assembling candidates

What is offered for a context, given the name of the element's component when it is known. Names
are offered when they contain the word at the cursor, in the order of their table. A word with an
equals sign asks for the values of the prop before it.
-/

set_option autoImplicit false

namespace FluentAssist.Completion

/-- The props whose value is an icon name. -/
def iconProps : List String := ["icon", "icon-right"]

/-- The part of the document that accepted candidates replace: the word, if there is one. -/
def wordRange (context : Context) : Option Span :=
  if context.word.isEmpty then none else some context.wordSpan

/-- The entries of a list that contain a word. -/
def matching (word : Text) (entries : List String) : List String :=
  entries.filter fun entry => word.isEmpty || Text.contains entry.toList word

/-- Plain candidates for the entries of a list that contain a word. -/
def plainCandidates (entries : List String) (word : Text) (range : Option Span)
    (kind : Option CandidateKind) : List Candidate :=
  numbered ((matching word entries).map fun entry =>
    { label := entry, range := range, kind := kind })

/-- What is inserted for an attribute: for a slot with a variable part a placeholder, for a prop
that takes a value a choice of its values, else the name. -/
def insertionOf (name : String) (attr : Attribute) : AttributeKind → Option Insertion
  | .slots =>
    (Text.splitOnce? '[' name.toList).map fun (head, tail) =>
      .snippet (Snippet.ofParts [.text head, .placeholder ('[' :: tail)]).written
  | .props =>
    if attr.isBoolean then none
    else
      some (.snippet
        (Snippet.ofParts [.text (name.toList ++ ['=']), .choice attr.literalValues]).written)
  | .events => none
  | .methods => none

/-- The candidate of a documented attribute. -/
def attributeCandidate (name : String) (attr : Attribute) (kind : AttributeKind)
    (context : Context) : Candidate :=
  { label := name
    description := attr.signature
    kind := some kind.candidateKind
    range := wordRange context
    insert := insertionOf name attr kind
    documentation := some (Documentation.ofAttribute attr) }

/-- The attributes of a component that are shown for a word. -/
def shownAttributes (word : Text) (attributes : List (String × Attribute)) :
    List (String × Attribute) :=
  attributes.filter fun (name, attr) =>
    !attr.internal && (word.isEmpty || Text.contains name.toList word)

/-- The values of the prop `key`: icon names for icon props, else its accepted values. -/
def valuesOf? (kb : KnowledgeBase) (kind : AttributeKind) (component : Option Component)
    (key : String) : Option (List String) :=
  if iconProps.contains key then some kb.icons
  else
    (component.bind fun c => (c.attributes kind).get? key).map fun attr =>
      attr.literalValues.map String.ofList

/-- The part of the document after the equals sign of a word, unless it is empty. -/
def valueRange (context : Context) (key : Text) : Option Span :=
  let start := context.wordSpan.start + Text.bytes key + 1
  if start < context.wordSpan.stop then some ⟨start, context.wordSpan.stop⟩ else none

/-- Candidates for the value of the prop `key`. -/
def valueCandidates (kb : KnowledgeBase) (context : Context) (kind : AttributeKind)
    (component : Option Component) (key : Text) : List Candidate :=
  numbered (((valuesOf? kb kind component (String.ofList key)).getD []).map fun value =>
    { label := value, kind := some .value, range := valueRange context key })

/-- Candidates from one attribute collection. -/
def attributeCandidates (kb : KnowledgeBase) (context : Context) (kind : AttributeKind)
    (className : Option String) : List Candidate :=
  let component := className.bind kb.component?
  match Text.splitOnce? '=' context.word with
  | some (key, _) => valueCandidates kb context kind component key
  | none =>
    match component with
    | some component =>
      numbered ((shownAttributes context.word (component.attributes kind).entries).map
        fun (name, attr) => attributeCandidate name attr kind context)
    | none =>
      plainCandidates (kb.generic.get kind) context.word (wordRange context)
        (some kind.candidateKind)

/-- Candidates for an inline style; they need a string literal around the cursor. -/
def styleCandidates (context : Context) : List Candidate :=
  match context.surround, context.surroundSpan with
  | some literal, some span => Style.candidates (Style.locate literal context.offset span.start)
  | _, _ => []

/-- The candidates for a context. -/
def assemble (kb : KnowledgeBase) (context : Context) (className : Option String) :
    List Candidate :=
  match context.kind with
  | .icons => kb.icons.map fun icon => { label := icon }
  | .classes =>
    if context.surround.isNone then []
    else plainCandidates kb.utilityClasses context.word (wordRange context) none
  | .style => styleCandidates context
  | .props => attributeCandidates kb context .props className
  | .slots => attributeCandidates kb context .slots className
  | .events => attributeCandidates kb context .events className
  | .methods => attributeCandidates kb context .methods className

/-- Attributes are completed from their collection. -/
theorem assemble_of_attributeKind? {context : Context} {kind : AttributeKind}
    (hkind : context.kind.attributeKind? = some kind) (kb : KnowledgeBase)
    (className : Option String) :
    assemble kb context className = attributeCandidates kb context kind className := by
  unfold assemble
  cases hcontext : context.kind <;> rw [hcontext] at hkind <;> cases hkind <;> rfl

/-- All else is completed without the component. -/
theorem assemble_of_no_attributeKind {kb kb' : KnowledgeBase} {context : Context}
    (hkind : context.kind.attributeKind? = none) (hicons : kb'.icons = kb.icons)
    (hclasses : kb'.utilityClasses = kb.utilityClasses) (className className' : Option String) :
    assemble kb' context className' = assemble kb context className := by
  unfold assemble
  cases hcontext : context.kind with
  | icons => rw [hicons]
  | classes => rw [hclasses]
  | style => rfl
  | _ => rw [hcontext] at hkind; cases hkind

/-- The element functions that contain a partial name. -/
def uiFunctions (kb : KnowledgeBase) (context : UiContext) : List Candidate :=
  plainCandidates kb.uiFunctions context.word
    (if context.word.isEmpty then none else some context.wordSpan) (some .function)

end FluentAssist.Completion
