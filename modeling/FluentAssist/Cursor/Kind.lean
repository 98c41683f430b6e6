/-!
# What is being typed

A builder call on an element takes one kind of argument: utility classes, props, an inline style,
an event name, a method name or a slot name. Icon names are typed in keyword arguments. Four of
these kinds are backed by an attribute collection of the element's component.
-/

set_option autoImplicit false

namespace FluentAssist

/-- The attribute collections of a component. -/
inductive AttributeKind
  | props
  | slots
  | events
  | methods
  deriving DecidableEq, Repr

/-- The name of an attribute collection. -/
def AttributeKind.name : AttributeKind → String
  | .props => "props"
  | .slots => "slots"
  | .events => "events"
  | .methods => "methods"

/-- All attribute collections. -/
def AttributeKind.all : List AttributeKind := [.props, .slots, .events, .methods]

/-- The attribute collection of a name. -/
def AttributeKind.ofName? (name : String) : Option AttributeKind :=
  AttributeKind.all.find? (·.name = name)

/-- What kind of value is being typed at the cursor. -/
inductive ContextKind
  | classes
  | props
  | style
  | events
  | methods
  | slots
  | icons
  deriving DecidableEq, Repr

namespace ContextKind

/-- The name of a kind. -/
def name : ContextKind → String
  | .classes => "classes"
  | .props => "props"
  | .style => "style"
  | .events => "events"
  | .methods => "methods"
  | .slots => "slots"
  | .icons => "icons"

/-- All kinds. -/
def all : List ContextKind := [.classes, .props, .style, .events, .methods, .slots, .icons]

/-- The kind of a name. -/
def ofName? (name : String) : Option ContextKind := all.find? (·.name = name)

/-- The attribute collection behind a kind, if there is one. -/
def attributeKind? : ContextKind → Option AttributeKind
  | .props => some .props
  | .slots => some .slots
  | .events => some .events
  | .methods => some .methods
  | .classes => none
  | .style => none
  | .icons => none

end ContextKind

/-- The builder methods whose argument list is recognised. -/
inductive BuilderMethod
  | props
  | classes
  | style
  | on
  | runMethod
  | addSlot
  | defaultProps
  | defaultClasses
  | defaultStyle
  | defaultStyles
  deriving DecidableEq, Repr

namespace BuilderMethod

/-- The name of a builder method in a program. -/
def name : BuilderMethod → String
  | .props => "props"
  | .classes => "classes"
  | .style => "style"
  | .on => "on"
  | .runMethod => "run_method"
  | .addSlot => "add_slot"
  | .defaultProps => "default_props"
  | .defaultClasses => "default_classes"
  | .defaultStyle => "default_style"
  | .defaultStyles => "default_styles"

/-- All builder methods. -/
def all : List BuilderMethod :=
  [.props, .classes, .style, .on, .runMethod, .addSlot, .defaultProps, .defaultClasses,
    .defaultStyle, .defaultStyles]

/-- The builder method of a name. -/
def ofName? (name : String) : Option BuilderMethod := all.find? (·.name = name)

/-- The kind of argument a builder method takes. -/
def kind : BuilderMethod → ContextKind
  | .props => .props
  | .classes => .classes
  | .style => .style
  | .on => .events
  | .runMethod => .methods
  | .addSlot => .slots
  | .defaultProps => .props
  | .defaultClasses => .classes
  | .defaultStyle => .style
  | .defaultStyles => .style

end BuilderMethod

end FluentAssist
