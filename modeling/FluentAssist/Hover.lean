import FluentAssist.Completion.Assemble

/-!
# Hover texts

What is shown for the word under the cursor: the documentation of an attribute, when the element's
component is known, or the name of an icon.
-/

set_option autoImplicit false

namespace FluentAssist

/-- A hover text in markdown and the part of the document it describes. -/
structure HoverInfo where
  contents : Text
  range : Span
  deriving DecidableEq, Repr

namespace Hover

/-- The hover text of an icon name. -/
def ofIcon? (kb : KnowledgeBase) (name : Text) (range : Span) : Option HoverInfo :=
  if kb.isIcon (String.ofList name) then
    some ⟨"**".toList ++ name ++ "**\n\nMaterial icon \x60".toList ++ name ++ ['\x60'], range⟩
  else none

/-- The hover text of an attribute: its name, its signature and its documentation. -/
def attributeText (name : Text) (attr : Attribute) : Text :=
  let heading := "**".toList ++ name ++ "**".toList
  let signature := match attr.signature with
    | some signature => "\n\n\x60".toList ++ signature.toList ++ ['\x60']
    | none => []
  let body := Documentation.ofAttribute attr
  heading ++ signature ++ (if body.isEmpty then [] else '\n' :: '\n' :: body)

/-- The hover text of a shown attribute of a known component. -/
def ofAttribute? (kb : KnowledgeBase) (context : Context) (kind : AttributeKind)
    (className : Option String) (name : Text) : Option HoverInfo := do
  let attr ← kb.attribute? (← className) kind (String.ofList name)
  if attr.internal then none
  else
    let start := context.wordSpan.start
    return ⟨attributeText name attr, ⟨start, start + Text.bytes name⟩⟩

/-- The hover text at a context. In a word with an equals sign, the value of an icon prop is an
icon name; elsewhere the part before the equals sign names the attribute. -/
def at? (kb : KnowledgeBase) (context : Context) (className : Option String) :
    Option HoverInfo :=
  if context.word.isEmpty then none
  else if context.kind = .icons then ofIcon? kb context.word context.wordSpan
  else
    match context.kind.attributeKind? with
    | none => none
    | some kind =>
      match Text.splitOnce? '=' context.word with
      | none => ofAttribute? kb context kind className context.word
      | some (name, value) =>
        let valueStart := context.wordSpan.start + Text.bytes name + 1
        if valueStart ≤ context.offset &&
            Completion.iconProps.contains (String.ofList name) then
          ofIcon? kb value ⟨valueStart, context.wordSpan.stop⟩
        else ofAttribute? kb context kind className name

end Hover

/-- A hover text as a value. -/
def HoverInfo.toJson (info : HoverInfo) : Json :=
  .obj [("contents", .ofText info.contents), ("range", info.range.toJson)]

end FluentAssist
