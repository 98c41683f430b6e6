import FluentAssist.Text.LowerCase
import FluentAssist.Text.Search

/-!
# From element classes to components

An element class is looked up in a map; for a class that is not listed the component's name is
guessed by the library's naming convention.
-/

set_option autoImplicit false

namespace FluentAssist.ClassName

/-- What component names start with. -/
def libraryMark : Text := ['Q']

/-- Words that component names abbreviate. -/
def abbreviations : List (String × String) := [("Button", "Btn"), ("Image", "Img")]

/-- The component name that the naming convention gives: the library's mark before the class name,
the first occurrence of each long word abbreviated, all in lower case. -/
def guess (name : Text) : Text :=
  Text.lower (abbreviations.foldl
    (fun text (long, short) => Text.replaceFirst long.toList short.toList text)
    (libraryMark ++ name))

/-- The component of an element class. -/
def component (classMap : List (String × String)) (name : Text) : String :=
  match classMap.lookup (String.ofList name) with
  | some mapped => mapped
  | none => String.ofList (guess name)

end FluentAssist.ClassName
