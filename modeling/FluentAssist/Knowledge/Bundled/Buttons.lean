import FluentAssist.Knowledge.Base

/-!
# Bundled components: buttons

The attributes of buttons and other controls that are pressed or dragged.
-/

set_option autoImplicit false

namespace FluentAssist.Bundled

/-- The attributes of the component `qbtn`. -/
def qbtn : Component where
  props := .ofList [
    ("type", {
      valueType := some ["String"]
      description := "1) Define the button native type attribute (submit, reset, button) or 2) render component with <a> tag so you can access events even if disable or 3) Use 'href' prop and specify 'type' as a media tag"
      defaultValue := some (.str "'button'")
      acceptedLiterals := some ["'a'", "'submit'", "'button'", "'reset'", "'image/png'", "'href=\"https://quasar.dev\" target=\"_blank\"'"]
      category := some "general" }),
    ("to", {
      valueType := some ["String", "Object"]
      description := "Equivalent to Vue Router <router-link> 'to' property; Superseded by 'href' prop if used"
      examples := some ["to=\"/home/dashboard\""]
      category := some "navigation" }),
    ("href", {
      valueType := some ["String"]
      description := "Native <a> link href attribute; Has priority over the 'to' and 'replace' props"
      examples := some ["href=\"https://quasar.dev\""]
      category := some "navigation" }),
    ("target", {
      valueType := some ["String"]
      description := "Native <a> link target attribute; Use it only with 'to' or 'href' props"
      examples := some ["target=\"_blank\""]
      category := some "navigation" }),
    ("label", {
      valueType := some ["String", "Number"]
      description := "The text that will be shown on the button"
      examples := some ["label=\"Button Label\""]
      category := some "content" }),
    ("icon", {
      valueType := some ["String"]
      description := "Icon name following Quasar convention; Make sure you have the icon library installed unless you are using 'img:' prefix"
      examples := some ["icon=\"map\"", "icon=\"ion-add\"", "icon=\"img:https://cdn.quasar.dev/logo-v2/svg/logo.svg\""]
      category := some "content" }),
    ("icon-right", {
      valueType := some ["String"]
      description := "Icon name following Quasar convention; Make sure you have the icon library installed unless you are using 'img:' prefix"
      examples := some ["icon-right=\"map\""]
      category := some "content" }),
    ("outline", {
      valueType := some ["Boolean"]
      description := "Use 'outline' design"
      category := some "style" }),
    ("flat", {
      valueType := some ["Boolean"]
      description := "Use 'flat' design"
      category := some "style" }),
    ("unelevated", {
      valueType := some ["Boolean"]
      description := "Remove shadow"
      category := some "style" }),
    ("rounded", {
      valueType := some ["Boolean"]
      description := "Applies a more prominent border-radius for a squared shape button"
      category := some "style" }),
    ("push", {
      valueType := some ["Boolean"]
      description := "Use 'push' design"
      category := some "style" }),
    ("square", {
      valueType := some ["Boolean"]
      description := "Removes border-radius so borders are squared"
      category := some "style" }),
    ("glossy", {
      valueType := some ["Boolean"]
      description := "Applies a glossy effect"
      category := some "style" }),
    ("fab", {
      valueType := some ["Boolean"]
      description := "Makes button size and shape to fit a Floating Action Button"
      category := some "style" }),
    ("fab-mini", {
      valueType := some ["Boolean"]
      description := "Makes button size and shape to fit a small Floating Action Button"
      category := some "style" }),
    ("padding", {
      valueType := some ["String"]
      description := "Apply custom padding (vertical [horizontal]); Size in CSS units, including unit name or standard size name (none|xs|sm|md|lg|xl); Also removes the min width and height when set"
      examples := some ["padding=\"16px\"", "padding=\"10px 5px\"", "padding=\"xs\""]
      category := some "style" }),
    ("color", {
      valueType := some ["String"]
      description := "Color name for component from the Quasar Color Palette"
      examples := some ["primary", "teal-10", "#ff0000"]
      category := some "style" }),
    ("text-color", {
      valueType := some ["String"]
      description := "Overrides text color (if needed); Color name from the Quasar Color Palette"
      examples := some ["primary", "teal-10", "#ff0000"]
      category := some "style" }),
    ("no-caps", {
      valueType := some ["Boolean"]
      description := "Avoid turning label text into caps (which happens by default)"
      category := some "content" }),
    ("no-wrap", {
      valueType := some ["Boolean"]
      description := "Avoid label text wrapping"
      category := some "content" }),
    ("dense", {
      valueType := some ["Boolean"]
      description := "Dense mode; occupies less space"
      category := some "style" }),
    ("ripple", {
      valueType := some ["Boolean", "Object"]
      description := "Configure material ripple (disable it by setting it to 'false' or supply a config object)"
      defaultValue := some (.str "true")
      examples := some ["ripple=\"false\"", "ripple=\"\x7b early: true, center: true, color: 'teal', keyCodes: [] \x7d\""]
      category := some "style" }),
    ("tabindex", {
      valueType := some ["Number", "String"]
      description := "Tabindex HTML attribute value"
      category := some "general"
      internal := true }),
    ("align", {
      valueType := some ["String"]
      description := "Label or content alignment"
      defaultValue := some (.str "'center'")
      acceptedLiterals := some ["'left'", "'right'", "'center'", "'around'", "'between'", "'evenly'"]
      category := some "content" }),
    ("stack", {
      valueType := some ["Boolean"]
      description := "Stack icon and label vertically instead of on same line (like it is by default)"
      category := some "content" }),
    ("stretch", {
      valueType := some ["Boolean"]
      description := "When used on flexbox parent, button will stretch to parent's height"
      category := some "content" }),
    ("loading", {
      valueType := some ["Boolean", "null"]
      description := "Put button into loading state (displays a QSpinner -- can be overridden by using a 'loading' slot)"
      category := some "behavior|state" }),
    ("disable", {
      valueType := some ["Boolean"]
      description := "Put component in disabled mode"
      category := some "state" }),
    ("round", {
      valueType := some ["Boolean"]
      description := "Makes a circle shaped button"
      category := some "style" }),
    ("percentage", {
      valueType := some ["Number"]
      description := "Percentage (0.0 < x < 100.0); To be used along 'loading' prop; Display a progress bar on the background"
      category := some "behavior" }),
    ("dark-percentage", {
      valueType := some ["Boolean"]
      description := "Progress bar on the background should have dark color; To be used along with 'percentage' and 'loading' props"
      category := some "behavior" }),
    ("size", {
      valueType := some ["String"]
      description := "Size in CSS units, including unit name or standard size name (xs|sm|md|lg|xl)"
      acceptedLiterals := some ["'xs'", "'sm'", "'md'", "'lg'", "'xl'"]
      examples := some ["size=\"16px\"", "size=\"2rem\"", "size=\"xs\""]
      category := some "style" })]
  slots := .ofList [
    ("default", {
      description := "Use for custom content, instead of relying on 'icon' and 'label' props" }),
    ("loading", { description := "Override the default QSpinner when in 'loading' state" })]
  events := .ofList [
    ("click", {
      description := "Emitted when the component is clicked"
      parameters := .named (.ofList [("evt", .obj [("type", .str "Event"), ("desc", .str "JS event object; If you are using route navigation ('to'/'replace' props) and you want to cancel navigation then call evt.preventDefault() synchronously in your event handler")]), ("go", .obj [("type", .str "Function"), ("desc", .str "Available ONLY if you are using route navigation ('to'/'replace' props); When you need to control the time at which the component should trigger the route navigation then call evt.preventDefault() synchronously and then call this function at your convenience")])]) })]
  methods := .ofList [
    ("click", {
      description := "Emulate click on QBtn"
      parameters := .named (.ofList [("evt", .obj [("type", .str "Event"), ("required", .bool false), ("desc", .str "JS event object")])])
      result := .void })]
  mixins := ["composables/private.use-btn/use-btn.json"]
  metadata := some (.obj [("docsUrl", .str "https://v2.quasar.dev/vue-components/button")])

/-- The attributes of the component `qtoggle`. -/
def qtoggle : Component where
  props := .ofList [
    ("label", {
      valueType := some ["String"]
      description := "Label to display along the component"
      examples := some ["label=\"I agree with the Terms and Conditions\""]
      category := some "label" }),
    ("left-label", {
      valueType := some ["Boolean"]
      description := "Label (if any specified) should be displayed on the left side of the component"
      category := some "label" }),
    ("icon", {
      valueType := some ["String"]
      description := "Icon name following Quasar convention"
      examples := some ["icon=\"map\""]
      category := some "content" }),
    ("checked-icon", {
      valueType := some ["String"]
      description := "The icon to be used when the toggle is on"
      examples := some ["checked-icon=\"visibility\""]
      category := some "content" }),
    ("unchecked-icon", {
      valueType := some ["String"]
      description := "The icon to be used when the toggle is off"
      examples := some ["unchecked-icon=\"visibility_off\""]
      category := some "content" }),
    ("color", {
      valueType := some ["String"]
      description := "Color name for component from the Quasar Color Palette"
      examples := some ["primary", "teal-10", "#ff0000"]
      category := some "style" }),
    ("keep-color", {
      valueType := some ["Boolean"]
      description := "Should the color (if specified any) be kept when the component is unticked/ off?"
      category := some "behavior" }),
    ("size", {
      valueType := some ["String"]
      description := "Size in CSS units, including unit name or standard size name (xs|sm|md|lg|xl)"
      acceptedLiterals := some ["'xs'", "'sm'", "'md'", "'lg'", "'xl'"]
      category := some "style" }),
    ("dense", {
      valueType := some ["Boolean"]
      description := "Dense mode; occupies less space"
      category := some "style" }),
    ("disable", {
      valueType := some ["Boolean"]
      description := "Put component in disabled mode"
      category := some "state" })]
  slots := .ofList [
    ("default", {
      description := "Default slot can be used as label, unless 'label' prop is specified; Suggestion: string" })]
  events := .ofList [
    ("update:model-value", {
      description := "Emitted when the component needs to change the model; Is also used by v-model"
      parameters := .named (.ofList [("value", .obj [("type", .str "Any")]), ("evt", .obj [("type", .str "Event")])]) })]
  methods := .ofList [
    ("toggle", {
      description := "Toggle the state (of the model)"
      parameters := .void
      result := .void })]
  metadata := some (.obj [("docsUrl", .str "https://v2.quasar.dev/vue-components/toggle")])

/-- The attributes of the component `qslider`. -/
def qslider : Component where
  props := .ofList [
    ("min", {
      valueType := some ["Number"]
      description := "Minimum value of the model; Set track's minimum value"
      defaultValue := some (.str "0")
      category := some "model" }),
    ("max", {
      valueType := some ["Number"]
      description := "Maximum value of the model; Set track's maximum value"
      defaultValue := some (.str "100")
      category := some "model" }),
    ("step", {
      valueType := some ["Number"]
      description := "Specify step amount between valid values (> 0.0); When step equals to 0 it defines infinite granularity"
      defaultValue := some (.str "1")
      category := some "model" }),
    ("snap", {
      valueType := some ["Boolean"]
      description := "Snap on valid values, rather than sliding freely; Suggestion: use with 'step' prop"
      category := some "behavior" }),
    ("vertical", {
      valueType := some ["Boolean"]
      description := "Display in vertical direction"
      category := some "behavior" }),
    ("reverse", {
      valueType := some ["Boolean"]
      description := "Work in reverse (changes direction)"
      category := some "behavior" }),
    ("label", {
      valueType := some ["Boolean"]
      description := "Popup a label when user clicks/taps on the slider thumb and moves it"
      category := some "content" }),
    ("label-always", {
      valueType := some ["Boolean"]
      description := "Always display the label"
      category := some "content" }),
    ("markers", {
      valueType := some ["Boolean", "Number"]
      description := "Display markers on the track, one for each possible value for the model or using a custom step (when specifying a Number)"
      examples := some ["markers", "markers=\"5\""]
      category := some "content" }),
    ("color", {
      valueType := some ["String"]
      description := "Color name for component from the Quasar Color Palette"
      examples := some ["primary", "teal-10", "#ff0000"]
      category := some "style" }),
    ("track-size", {
      valueType := some ["String"]
      description := "Track size (including CSS unit)"
      defaultValue := some (.str "'4px'")
      examples := some ["track-size=\"35px\""]
      category := some "style" }),
    ("thumb-size", {
      valueType := some ["String"]
      description := "Thumb size (including CSS unit)"
      defaultValue := some (.str "'20px'")
      examples := some ["thumb-size=\"35px\""]
      category := some "style" }),
    ("disable", {
      valueType := some ["Boolean"]
      description := "Put component in disabled mode"
      category := some "state" })]
  slots := .ofList [
    ("marker-label-group", { description := "What to display as marker labels" })]
  events := .ofList [
    ("update:model-value", {
      description := "Emitted on lazy model value change (after user slides then releases the thumb)"
      parameters := .named (.ofList [("value", .obj [("type", .str "Any"), ("desc", .str "New model value")])]) }),
    ("change", {
      description := "Emitted on lazy model value change (after user slides then releases the thumb)"
      parameters := .named (.ofList [("value", .obj [("type", .str "Any"), ("desc", .str "New model value")])]) }),
    ("pan", {
      description := "Triggered when user starts panning on the component"
      parameters := .named (.ofList [("phase", .obj [("type", .str "String")])]) })]
  metadata := some (.obj [("docsUrl", .str "https://v2.quasar.dev/vue-components/slider")])

end FluentAssist.Bundled
