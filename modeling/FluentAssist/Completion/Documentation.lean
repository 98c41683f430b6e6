import FluentAssist.Knowledge.Attribute

/-!
# Documentation of attributes

The documentation of an attribute is markdown: its description as literal prose, then its examples
and its accepted values as lists.
-/

set_option autoImplicit false

namespace FluentAssist.Documentation

/-- Characters that markdown would read as markup. -/
def isMarkup (c : Char) : Bool :=
  "\\\x60*_\x7b\x7d[]()#+-!~<>".toList.contains c

/-- One character of prose: markup is escaped, and a line break starts a new paragraph. -/
def proseChar (c : Char) : Text :=
  if isMarkup c then ['\\', c] else if c = '\n' then ['\n', '\n'] else [c]

/-- Prose that renders literally. -/
def escapeMarkdown (text : Text) : Text := text.flatMap proseChar

/-- A text in which no hash sign starts a heading. -/
def escapeHash (text : Text) : Text :=
  text.flatMap fun c => if c = '#' then ['\\', '#'] else [c]

/-- What stands between two sections. -/
def separator : Text := "\n\n---\n\n".toList

/-- The items of a list, one per line. -/
def listItems (items : List String) : Text :=
  items.flatMap fun item => " - ".toList ++ escapeHash item.toList ++ ['\n']

/-- The section of examples. -/
def exampleSection : Option (List String) → Text
  | none => []
  | some items => separator ++ "Examples:\n".toList ++ listItems items

/-- The section of accepted values. -/
def valueSection : Option (List String) → Text
  | none => []
  | some items => separator ++ "Values:\n\n".toList ++ listItems items ++ ['\n']

/-- The documentation of an attribute. -/
def ofAttribute (attr : Attribute) : Text :=
  escapeMarkdown attr.description.toList ++ exampleSection attr.examples ++
    valueSection attr.acceptedLiterals

end FluentAssist.Documentation
