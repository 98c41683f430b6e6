import FluentAssist.Cursor.Kind
import FluentAssist.Knowledge.Attribute

/-!
# The knowledge base

The tables that completion and hover read: components with their attributes, generic attribute
names for elements of unknown component, utility classes, icons, element functions, and the map
from element classes to components. Every table keeps the order of its source, and what is found by
its name stands once under it.
-/

set_option autoImplicit false

namespace FluentAssist

/-- A component and its attribute collections. -/
structure Component where
  internal : Bool := false
  props : Table Attribute := {}
  slots : Table Attribute := {}
  events : Table Attribute := {}
  methods : Table Attribute := {}
  mixins : List String := []
  metadata : Option Json := none
  deriving Repr, BEq

/-- The attribute collection of a kind. -/
def Component.attributes (component : Component) : AttributeKind → Table Attribute
  | .props => component.props
  | .slots => component.slots
  | .events => component.events
  | .methods => component.methods

/-- Attribute names that are offered when the component is not known. -/
structure GenericLists where
  props : List String := []
  slots : List String := []
  events : List String := []
  methods : List String := []
  deriving DecidableEq, Repr

/-- The generic names of a kind. -/
def GenericLists.get (lists : GenericLists) : AttributeKind → List String
  | .props => lists.props
  | .slots => lists.slots
  | .events => lists.events
  | .methods => lists.methods

/-- All tables. -/
structure KnowledgeBase where
  /-- Components by name. -/
  components : Table Component := {}
  generic : GenericLists := {}
  utilityClasses : List String := []
  icons : List String := []
  /-- The names of the element functions. -/
  uiFunctions : List String := []
  /-- From an element class to the name of its component. -/
  classMap : Table String := {}
  deriving Repr, BEq

namespace KnowledgeBase

/-- The component of a name. -/
def component? (kb : KnowledgeBase) (name : String) : Option Component := kb.components.get? name

/-- An attribute of a component. -/
def attribute? (kb : KnowledgeBase) (className : String) (kind : AttributeKind) (name : String) :
    Option Attribute :=
  (kb.component? className).bind fun component => (component.attributes kind).get? name

/-- Whether a name is an icon. -/
def isIcon (kb : KnowledgeBase) (name : String) : Bool := kb.icons.contains name

/-- The sizes of the tables, with their names. -/
def stats (kb : KnowledgeBase) : List (String × Nat) := [
  ("components", kb.components.size),
  ("icons", kb.icons.length),
  ("utility_classes", kb.utilityClasses.length),
  ("ui_functions", kb.uiFunctions.length),
  ("mapped_classes", kb.classMap.size)]

end KnowledgeBase

end FluentAssist
