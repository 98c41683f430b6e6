/-!
# Style properties and their values

The properties that are offered inside an inline style, in the order in which they are offered,
and the keyword values of those that have a list of their own.
-/

set_option autoImplicit false

namespace FluentAssist.Style

/-- The properties on offer. -/
def properties : List String := [
  "align-content", "align-items", "align-self", "animation", "background", "background-color",
  "background-image", "background-position", "background-repeat", "background-size", "border",
  "border-color", "border-radius", "border-style", "border-width", "bottom", "box-shadow",
  "box-sizing", "color", "cursor", "display", "flex", "flex-basis", "flex-direction", "flex-flow",
  "flex-grow", "flex-shrink", "flex-wrap", "font", "font-family", "font-size", "font-style",
  "font-weight", "gap", "grid", "grid-area", "grid-auto-columns", "grid-auto-flow",
  "grid-auto-rows", "grid-column", "grid-row", "grid-template", "grid-template-areas",
  "grid-template-columns", "grid-template-rows", "height", "justify-content", "left",
  "letter-spacing", "line-height", "list-style", "margin", "margin-bottom", "margin-left",
  "margin-right", "margin-top", "max-height", "max-width", "min-height", "min-width", "opacity",
  "overflow", "overflow-x", "overflow-y", "padding", "padding-bottom", "padding-left",
  "padding-right", "padding-top", "pointer-events", "position", "right", "text-align",
  "text-decoration", "text-overflow", "text-transform", "top", "transform", "transition",
  "user-select", "vertical-align", "visibility", "white-space", "width", "word-break", "z-index"]

/-- The values that almost every property accepts. -/
def commonValues : List String := [
  "inherit", "initial", "unset", "revert", "auto", "none"]

/-- The keyword values of single properties. -/
def propertyValues : List (String × List String) := [
  ("align-items", ["stretch", "flex-start", "center", "flex-end", "baseline"]),
  ("align-self", ["auto", "stretch", "flex-start", "center", "flex-end", "baseline"]),
  ("box-sizing", ["content-box", "border-box"]),
  ("cursor", ["pointer", "default", "text", "move", "not-allowed", "grab", "wait"]),
  ("display", ["block", "inline", "inline-block", "flex", "grid", "none"]),
  ("flex-direction", ["row", "row-reverse", "column", "column-reverse"]),
  ("flex-wrap", ["nowrap", "wrap", "wrap-reverse"]),
  ("font-weight", ["normal", "bold", "lighter", "bolder", "100", "300", "400", "500", "700"]),
  ("justify-content",
    ["flex-start", "center", "flex-end", "space-between", "space-around", "space-evenly"]),
  ("overflow", ["visible", "hidden", "scroll", "auto"]),
  ("overflow-x", ["visible", "hidden", "scroll", "auto"]),
  ("overflow-y", ["visible", "hidden", "scroll", "auto"]),
  ("pointer-events", ["auto", "none"]),
  ("position", ["static", "relative", "absolute", "fixed", "sticky"]),
  ("text-align", ["left", "center", "right", "justify"]),
  ("text-decoration", ["none", "underline", "line-through", "overline"]),
  ("text-overflow", ["clip", "ellipsis"]),
  ("text-transform", ["none", "uppercase", "lowercase", "capitalize"]),
  ("user-select", ["auto", "none", "text", "all"]),
  ("visibility", ["visible", "hidden", "collapse"]),
  ("white-space", ["normal", "nowrap", "pre", "pre-wrap", "pre-line"])]

/-- The keyword values of a property, known by its exact lower-case name; the common values if it
has no list of its own. -/
def valuesFor (property : String) : List String :=
  (propertyValues.lookup property).getD commonValues

end FluentAssist.Style
