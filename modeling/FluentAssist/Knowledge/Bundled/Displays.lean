import FluentAssist.Knowledge.Base

/-!
# Bundled components: displays

The attributes of elements that show content.
-/

set_option autoImplicit false

namespace FluentAssist.Bundled

/-- The attributes of the component `qimg`. -/
def qimg : Component where
  props := .ofList [
    ("src", {
      valueType := some ["String"]
      description := "Path to image"
      examples := some ["src=\"(public folder) src=\\\"img/something.png\\\"\""]
      category := some "model" }),
    ("srcset", {
      valueType := some ["String"]
      description := "Same syntax as <img> srcset attribute"
      category := some "model" }),
    ("sizes", {
      valueType := some ["String"]
      description := "Same syntax as <img> sizes attribute"
      category := some "model" }),
    ("alt", {
      valueType := some ["String"]
      description := "Specifies an alternate text for the image, if the image cannot be displayed"
      examples := some ["alt=\"Two cats\""]
      category := some "content" }),
    ("ratio", {
      valueType := some ["String", "Number"]
      description := "Aspect ratio for the content; If value is a String, then avoid using a computational statement (like '16/9') and instead specify the String value of the result directly (eg. '1.7777')"
      examples := some ["ratio=\"1\"", "ratio=\"1.7777\""]
      category := some "style" }),
    ("fit", {
      valueType := some ["String"]
      description := "How the image will fit into the container; Equivalent of the object-fit prop; Can be coordinated with 'position' prop"
      defaultValue := some (.str "'cover'")
      acceptedLiterals := some ["'cover'", "'fill'", "'contain'", "'none'", "'scale-down'"]
      category := some "style" }),
    ("position", {
      valueType := some ["String"]
      description := "The alignment of the image into the container; Equivalent of the object-position CSS prop"
      defaultValue := some (.str "'50% 50%'")
      examples := some ["position=\"0 0\"", "position=\"20px 50px\""]
      category := some "style" }),
    ("loading", {
      valueType := some ["String"]
      description := "Lazy or immediate load; Same syntax as <img> loading attribute"
      defaultValue := some (.str "'lazy'")
      acceptedLiterals := some ["'eager'", "'lazy'"]
      category := some "behavior" }),
    ("spinner-color", {
      valueType := some ["String"]
      description := "Color name for default Spinner (unless using a 'loading' slot)"
      examples := some ["primary", "teal-10", "#ff0000"]
      category := some "style" }),
    ("no-spinner", {
      valueType := some ["Boolean"]
      description := "Do not display the default spinner while waiting for the image to be loaded; It is overriden by the 'loading' slot when one is present"
      category := some "behavior" }),
    ("no-transition", {
      valueType := some ["Boolean"]
      description := "Disable default transition when switching between old and new image"
      category := some "behavior" }),
    ("img-class", {
      valueType := some ["String", "Array", "Object"]
      description := "Class definitions to be attributed to the container of image; Does not apply to the caption"
      examples := some ["img-class=\"my-special-class\""]
      category := some "style" })]
  slots := .ofList [
    ("default", { description := "Default slot can be used for captions. See examples" }),
    ("loading", {
      description := "While image is loading, this slot is being displayed on top of the component; Suggestions: a spinner or text" }),
    ("error", {
      description := "Optional slot to be used when image could not be loaded; make sure you assign a min-height and min-width to the component through CSS" })]
  events := .ofList [
    ("load", {
      description := "Emitted when image has been loaded by the browser"
      parameters := .named (.ofList [("src", .obj [("type", .str "String"), ("desc", .str "URL of image that has been loaded")])]) }),
    ("error", {
      description := "Emitted when browser could not load the image"
      parameters := .named (.ofList [("src", .obj [("type", .str "Error")])]) })]
  metadata := some (.obj [("docsUrl", .str "https://v2.quasar.dev/vue-components/img")])

/-- The attributes of the component `qcard`. -/
def qcard : Component where
  props := .ofList [
    ("dark", {
      valueType := some ["Boolean", "null"]
      description := "Notify the component that the background is a dark color"
      category := some "style" }),
    ("square", {
      valueType := some ["Boolean"]
      description := "Removes border-radius so borders are squared"
      category := some "style" }),
    ("flat", {
      valueType := some ["Boolean"]
      description := "Applies a 'flat' design (no default shadow)"
      category := some "style" }),
    ("bordered", {
      valueType := some ["Boolean"]
      description := "Applies a default border to the component"
      category := some "style" }),
    ("tag", {
      valueType := some ["String"]
      description := "HTML tag to render"
      defaultValue := some (.str "'div'")
      examples := some ["tag=\"form\"", "tag=\"a\""]
      category := some "content" })]
  slots := .ofList [
    ("default", { description := "This is where content goes" })]
  metadata := some (.obj [("docsUrl", .str "https://v2.quasar.dev/vue-components/card")])

/-- The attributes of the component `qicon`. -/
def qicon : Component where
  props := .ofList [
    ("tag", {
      valueType := some ["String"]
      description := "HTML tag to render, unless no icon is supplied or it's an svg icon"
      defaultValue := some (.str "'i'")
      examples := some ["tag=\"div\""]
      category := some "content" }),
    ("name", {
      valueType := some ["String"]
      description := "Icon name following Quasar convention; Make sure you have the icon library installed unless you are using 'img:' prefix; If 'none' (String) is used as value then no icon is rendered (but screen real estate will still be used for it)"
      examples := some ["name=\"map\"", "name=\"ion-add\""]
      category := some "model" }),
    ("size", {
      valueType := some ["String"]
      description := "Size in CSS units, including unit name or standard size name (xs|sm|md|lg|xl)"
      acceptedLiterals := some ["'xs'", "'sm'", "'md'", "'lg'", "'xl'"]
      examples := some ["size=\"16px\""]
      category := some "style" }),
    ("color", {
      valueType := some ["String"]
      description := "Color name for component from the Quasar Color Palette"
      examples := some ["primary", "teal-10", "#ff0000"]
      category := some "style" }),
    ("left", {
      valueType := some ["Boolean"]
      description := "Useful if icon is on the left side of something: applies a standard margin on the right side of Icon"
      category := some "content" }),
    ("right", {
      valueType := some ["Boolean"]
      description := "Useful if icon is on the right side of something: applies a standard margin on the left side of Icon"
      category := some "content" })]
  slots := .ofList [
    ("default", { description := "Suggestion: QTooltip" })]
  metadata := some (.obj [("docsUrl", .str "https://v2.quasar.dev/vue-components/icon")])

/-- The attributes of the component `qtable`. -/
def qtable : Component where
  props := .ofList [
    ("rows", {
      valueType := some ["Array"]
      description := "Rows of data to display"
      category := some "general"
      internal := true }),
    ("row-key", {
      valueType := some ["String", "Function"]
      description := "Property of each row that defines the unique key of each row (the result must be a primitive, not Object, Array, etc)"
      defaultValue := some (.str "'id'")
      examples := some ["row-key=\"name\""]
      category := some "general" }),
    ("title", {
      valueType := some ["String"]
      description := "Table title"
      category := some "content" }),
    ("dense", {
      valueType := some ["Boolean"]
      description := "Dense mode; Connect with $q.screen for responsive behavior"
      category := some "style" }),
    ("flat", {
      valueType := some ["Boolean"]
      description := "Applies a 'flat' design (no default shadow)"
      category := some "style" }),
    ("bordered", {
      valueType := some ["Boolean"]
      description := "Applies a default border to the component"
      category := some "style" }),
    ("separator", {
      valueType := some ["String"]
      description := "Use a separator/border between rows, columns or all cells"
      defaultValue := some (.str "'horizontal'")
      acceptedLiterals := some ["'horizontal'", "'vertical'", "'cell'", "'none'"]
      category := some "content" }),
    ("wrap-cells", {
      valueType := some ["Boolean"]
      description := "Wrap text within table cells"
      category := some "content" }),
    ("virtual-scroll", {
      valueType := some ["Boolean"]
      description := "Use virtual scroll for the table rows"
      category := some "virtual-scroll" }),
    ("hide-header", {
      valueType := some ["Boolean"]
      description := "Hide table header layer"
      category := some "header" }),
    ("hide-bottom", {
      valueType := some ["Boolean"]
      description := "Hide table bottom layer regardless of what it has to display"
      category := some "bottom" }),
    ("selection", {
      valueType := some ["String"]
      description := "Selection type"
      defaultValue := some (.str "'none'")
      acceptedLiterals := some ["'single'", "'multiple'", "'none'"]
      category := some "selection" }),
    ("loading", {
      valueType := some ["Boolean"]
      description := "Put Table into 'loading' state; Notify the user something is happening behind the scenes"
      category := some "behavior" })]
  slots := .ofList [
    ("body", { description := "Slot to define how a body row looks like; Suggestion: QTr + Td" }),
    ("body-cell", {
      description := "Slot to define how all body cells look like; Suggestion: QTd" }),
    ("body-cell-[name]", {
      description := "Slot to define how a specific column cell looks like; replace '[name]' with column name (from columns definition object)" }),
    ("header", { description := "Slot to define how header looks like; Suggestion: QTr + QTh" }),
    ("header-cell-[name]", {
      description := "Slot to define how a specific header cell looks like; replace '[name]' with column name (from columns definition object)" }),
    ("top", { description := "Slot to define how table top looks like" }),
    ("bottom", { description := "Slot to define how table bottom looks like" }),
    ("no-data", {
      description := "Slot to define how the bottom will look like when there is no data to display" })]
  events := .ofList [
    ("row-click", {
      description := "Emitted when user clicks/taps on a row; Is not emitted when using body/row/item scoped slots"
      parameters := .named (.ofList [("evt", .obj [("type", .str "Event")]), ("row", .obj [("type", .str "Object")]), ("index", .obj [("type", .str "Number")])]) }),
    ("request", {
      description := "Emitted when a server request is triggered"
      parameters := .named (.ofList [("requestProp", .obj [("type", .str "Object")])]) }),
    ("selection", {
      description := "Emitted when user selects/unselects row(s)"
      parameters := .named (.ofList [("details", .obj [("type", .str "Object")])]) }),
    ("update:pagination", {
      description := "Used by Vue on 'v-model:pagination' prop for updating its value"
      parameters := .named (.ofList [("newPagination", .obj [("type", .str "Object")])]) })]
  methods := .ofList [
    ("requestServerInteraction", {
      description := "Trigger a server request (emits 'request' event)"
      parameters := .named (.ofList [("props", .obj [("type", .str "Object")])])
      result := .void }),
    ("setExpanded", {
      description := "Sets the expanded rows keys array; Especially useful if the component is not using an 'expanded' v-model"
      parameters := .named (.ofList [("expanded", .obj [("type", .str "Array")])])
      result := .void }),
    ("clearSelection", {
      description := "Clears user selection (emits 'update:selected' with empty array)"
      parameters := .void
      result := .void }),
    ("scrollTo", {
      description := "Scroll the table to the row with the specified index in page (0 based)"
      parameters := .named (.ofList [("index", .obj [("type", .arr [.str "String", .str "Number"])]), ("edge", .obj [("type", .str "String")])])
      result := .void }),
    ("firstPage", {
      description := "Navigates to first page"
      parameters := .void
      result := .void }),
    ("lastPage", {
      description := "Navigates to last page"
      parameters := .void
      result := .void })]
  metadata := some (.obj [("docsUrl", .str "https://v2.quasar.dev/vue-components/table")])

/-- The attributes of the component `qchatmessage`. -/
def qchatmessage : Component where
  props := .ofList [
    ("sent", {
      valueType := some ["Boolean"]
      description := "Render as a sent message (so from current user)"
      category := some "content" }),
    ("name", {
      valueType := some ["String"]
      description := "Author's name"
      examples := some ["name=\"John Doe\""]
      category := some "content" }),
    ("avatar", {
      valueType := some ["String"]
      description := "URL to the avatar image of the author"
      category := some "content" }),
    ("stamp", {
      valueType := some ["String"]
      description := "Creation timestamp"
      examples := some ["stamp=\"13:55\""]
      category := some "content" }),
    ("bg-color", {
      valueType := some ["String"]
      description := "Color name (from the Quasar Color Palette) for chat bubble background"
      examples := some ["primary", "teal-10", "#ff0000"]
      category := some "style" }),
    ("text-color", {
      valueType := some ["String"]
      description := "Color name (from the Quasar Color Palette) for chat bubble text"
      examples := some ["primary", "teal-10", "#ff0000"]
      category := some "style" })]
  slots := .ofList [
    ("default", { description := "Slot for message" }),
    ("avatar", { description := "Slot for avatar; Suggestion: QAvatar, img" }),
    ("stamp", { description := "Slot for stamp" }),
    ("name", { description := "Slot for name" })]

end FluentAssist.Bundled
