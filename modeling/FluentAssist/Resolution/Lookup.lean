import FluentAssist.Cursor.Kind
import FluentAssist.Resolution.ClassName
import FluentAssist.Resolution.Pattern
import FluentAssist.Text.Position
import FluentAssist.Url.Basic

/-!
# Looking up the class of an element

The class of the element that a builder call is made on is read from hover texts of a type
analysis. Up to three places around the start of the call are asked about, each with a question of
its own: the accessor or event method of the call, the element itself, and what made the element.
The first answer with a class name decides.

`Lookup.uncached` is the rule: the class when every question is asked and answered.
-/

set_option autoImplicit false

namespace FluentAssist

/-- One version of a document. -/
structure Snapshot where
  uri : Url
  version : Int
  text : Text
  deriving DecidableEq, Repr

namespace Lookup

/-- The questions of a lookup. -/
inductive Stage
  /-- The accessor of an element's classes, props or style. -/
  | accessor
  /-- The event method. -/
  | eventMethod
  /-- The element itself. -/
  | receiver
  /-- What made the element. -/
  | declaration
  deriving DecidableEq, Repr

namespace Stage

/-- The place of a question, in characters from the start of the call. -/
def shift : Stage → Int
  | .accessor => 1
  | .eventMethod => 1
  | .receiver => -1
  | .declaration => -3

/-- The class name in the hover text that answers a question. -/
def extract? : Stage → Text → Option Text
  | .accessor => Pattern.accessorOwner?
  | .eventMethod => Pattern.eventOwner?
  | .receiver => Pattern.variableType?
  | .declaration => Pattern.declaredClass?

end Stage

/-- The question about the method of the call; some kinds have none. -/
def methodStage? : ContextKind → Option Stage
  | .classes => some .accessor
  | .props => some .accessor
  | .style => some .accessor
  | .events => some .eventMethod
  | .methods => none
  | .slots => none
  | .icons => none

/-- The questions of a lookup in the order in which they are asked. -/
def stages (kind : ContextKind) : List Stage :=
  (methodStage? kind).toList ++ [.receiver, .declaration]

/-- The position that is some characters away from an offset. -/
def positionNear (text : Text) (offset : Nat) (shift : Int) : Position :=
  Text.positionAt text (Text.shiftChars text offset shift)

/-- The position that a question is asked about. -/
def positionOf (text : Text) (offset : Nat) (stage : Stage) : Position :=
  positionNear text offset stage.shift

/-- The class name that the first answered question with a name gives. `hover` answers a question
about a position; nothing means that there is no hover text. -/
def name? (hover : Position → Option Text) (text : Text) (offset : Nat) (kind : ContextKind) :
    Option Text :=
  (stages kind).findSome? fun stage =>
    (hover (positionOf text offset stage)).bind stage.extract?

/-- The component of the element that the call at an offset is made on, when every question is
asked anew. -/
def uncached (classMap : List (String × String)) (hover : Position → Option Text) (text : Text)
    (offset : Nat) (kind : ContextKind) : Option String :=
  (name? hover text offset kind).map (ClassName.component classMap)

end Lookup

end FluentAssist
