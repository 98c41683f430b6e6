import FluentAssist.Knowledge.Base

/-!
# Bundled components: fields

The attributes of fields that take text, choices or files.
-/

set_option autoImplicit false

namespace FluentAssist.Bundled

/-- The attributes of the component `qinput`. -/
def qinput : Component where
  props := .ofList [
    ("label", {
      valueType := some ["String"]
      description := "A text label that will float up above the input field, once the field gets focus"
      examples := some ["label=\"Username\""]
      category := some "behavior" }),
    ("stack-label", {
      valueType := some ["Boolean"]
      description := "Label will be always shown above the field regardless of field content"
      category := some "behavior" }),
    ("hint", {
      valueType := some ["String"]
      description := "Helper (hint) text which gets placed below your wrapped form component"
      examples := some ["hint=\"Please enter your name\""]
      category := some "content" }),
    ("filled", {
      valueType := some ["Boolean"]
      description := "Use 'filled' design for the field"
      category := some "style" }),
    ("outlined", {
      valueType := some ["Boolean"]
      description := "Use 'outlined' design for the field"
      category := some "style" }),
    ("borderless", {
      valueType := some ["Boolean"]
      description := "Use 'borderless' design for the field"
      category := some "style" }),
    ("standout", {
      valueType := some ["Boolean", "String"]
      description := "Use 'standout' design for the field; Specifies classes to be applied when focused (overriding default ones)"
      examples := some ["standout", "standout=\"bg-primary text-white\""]
      category := some "style" }),
    ("dense", {
      valueType := some ["Boolean"]
      description := "Dense mode; occupies less space"
      category := some "style" }),
    ("clearable", {
      valueType := some ["Boolean"]
      description := "Appends clearable icon when a value (not undefined or null) is set; When clicked, model becomes null"
      category := some "behavior" }),
    ("color", {
      valueType := some ["String"]
      description := "Color name for component from the Quasar Color Palette"
      examples := some ["primary", "teal-10", "#ff0000"]
      category := some "style" }),
    ("bg-color", {
      valueType := some ["String"]
      description := "Color name for component from the Quasar Color Palette"
      examples := some ["primary", "teal-10", "#ff0000"]
      category := some "style" }),
    ("dark", {
      valueType := some ["Boolean", "null"]
      description := "Notify the component that the background is a dark color"
      category := some "style" }),
    ("rounded", {
      valueType := some ["Boolean"]
      description := "Applies a small standard border-radius for a squared shape of the component"
      category := some "style" }),
    ("square", {
      valueType := some ["Boolean"]
      description := "Remove border-radius so borders are squared; Overrides 'rounded' prop"
      category := some "style" }),
    ("loading", {
      valueType := some ["Boolean"]
      description := "Signals the user a process is in progress by displaying a spinner"
      category := some "behavior|state" }),
    ("disable", {
      valueType := some ["Boolean"]
      description := "Put component in disabled mode"
      category := some "state" }),
    ("readonly", {
      valueType := some ["Boolean"]
      description := "Put component in readonly mode"
      category := some "state" }),
    ("autofocus", {
      valueType := some ["Boolean"]
      description := "Focus field on initial component render"
      category := some "behavior" }),
    ("for", {
      valueType := some ["String"]
      description := "Used to specify the 'id' of the control and also the 'for' attribute of the label that wraps it"
      category := some "behavior" }),
    ("model-value", {
      valueType := some ["Any"]
      description := "Model of the component; Either use this property (along with a listener for 'update:model-value' event) OR use v-model directive"
      category := some "model"
      internal := true }),
    ("type", {
      valueType := some ["String"]
      description := "Input type"
      defaultValue := some (.str "'text'")
      acceptedLiterals := some ["'text'", "'password'", "'textarea'", "'email'", "'search'", "'tel'", "'file'", "'number'", "'url'", "'time'", "'date'", "'datetime-local'"]
      category := some "general" }),
    ("mask", {
      valueType := some ["String"]
      description := "Custom mask or one of the predefined mask names"
      examples := some ["mask=\"date\"", "mask=\"(###) ### - ####\""]
      category := some "behavior" }),
    ("fill-mask", {
      valueType := some ["Boolean", "String"]
      description := "Fills string with specified characters (or underscore if value is not string) to fill mask's length"
      examples := some ["fill-mask", "fill-mask=\"#\""]
      category := some "behavior" }),
    ("debounce", {
      valueType := some ["String", "Number"]
      description := "Debounce amount (in milliseconds) when updating model"
      examples := some ["debounce=\"500\""]
      category := some "model" }),
    ("maxlength", {
      valueType := some ["String", "Number"]
      description := "Specify a max length of model"
      examples := some ["maxlength=\"12\""]
      category := some "model" }),
    ("autogrow", {
      valueType := some ["Boolean"]
      description := "Make field autogrow along with its content (uses a textarea)"
      category := some "content" }),
    ("input-class", {
      valueType := some ["String", "Array", "Object"]
      description := "Class definitions to be attributed to the underlying input tag"
      examples := some ["input-class=\"text-right\""]
      category := some "style" }),
    ("counter", {
      valueType := some ["Boolean"]
      description := "Show an automatic counter on bottom right"
      category := some "content" }),
    ("prefix", {
      valueType := some ["String"]
      description := "Prefix"
      examples := some ["prefix=\"$\""]
      category := some "content" }),
    ("suffix", {
      valueType := some ["String"]
      description := "Suffix"
      examples := some ["suffix=\"@gmail.com\""]
      category := some "content" })]
  slots := .ofList [
    ("prepend", { description := "Prepend inner field; Suggestions: QIcon, QBtn" }),
    ("append", { description := "Append to inner field; Suggestions: QIcon, QBtn" }),
    ("before", { description := "Prepend outer field; Suggestions: QIcon, QBtn" }),
    ("after", { description := "Append outer field; Suggestions: QIcon, QBtn" }),
    ("label", { description := "Slot for label; Used only if 'label' prop is not set" }),
    ("hint", { description := "Slot for hint text; Suggestion: <div>My hint</div>" }),
    ("counter", { description := "Slot for counter text; Enabled only if 'counter' prop is set" }),
    ("loading", {
      description := "Override default spinner when component is in loading mode; Use in conjunction with 'loading' prop" })]
  events := .ofList [
    ("update:model-value", {
      description := "Emitted when the model changes, only when used with 'v-model'"
      parameters := .named (.ofList [("value", .obj [("type", .arr [.str "String", .str "Number", .str "null"]), ("desc", .str "New model value")])]) }),
    ("focus", {
      description := "Emitted when component gets focused"
      parameters := .named (.ofList [("evt", .obj [("type", .str "Event"), ("desc", .str "JS event object")])]) }),
    ("blur", {
      description := "Emitted when component loses focus"
      parameters := .named (.ofList [("evt", .obj [("type", .str "Event"), ("desc", .str "JS event object")])]) }),
    ("clear", {
      description := "When using the 'clearable' property, this event is emitted when the clear icon is clicked"
      parameters := .named (.ofList [("value", .obj [("type", .str "Any"), ("desc", .str "The previous value before clearing it")])]) }),
    ("keydown", {
      description := "Emitted on native keydown"
      parameters := .named (.ofList [("evt", .obj [("type", .str "Event"), ("desc", .str "JS event object")])]) })]
  methods := .ofList [
    ("focus", { description := "Focus underlying input tag", parameters := .void }),
    ("blur", { description := "Lose focus on underlying input tag", parameters := .void }),
    ("select", { description := "Select input text", parameters := .void }),
    ("resetValidation", {
      description := "Reset validation status"
      parameters := .void
      result := .void }),
    ("validate", {
      description := "Trigger a validation"
      parameters := .named (.ofList [("value", .obj [("type", .str "Any"), ("required", .bool false), ("desc", .str "Optional value to validate against")])])
      result := .named (.ofList [("type", .arr [.str "Boolean", .str "Promise<boolean>"]), ("desc", .str "True/false if no async rules, otherwise a Promise with the outcome")]) }),
    ("getNativeElement", {
      description := "Get the native input/textarea DOM Element"
      parameters := .void
      result := .named (.ofList [("type", .str "Element"), ("desc", .str "The underlying native input/textarea DOM Element")]) })]
  metadata := some (.obj [("docsUrl", .str "https://v2.quasar.dev/vue-components/input")])

/-- The attributes of the component `qselect`. -/
def qselect : Component where
  props := .ofList [
    ("label", {
      valueType := some ["String"]
      description := "A text label that will float up above the input field, once the field gets focus"
      examples := some ["label=\"Username\""]
      category := some "behavior" }),
    ("stack-label", {
      valueType := some ["Boolean"]
      description := "Label will be always shown above the field regardless of field content"
      category := some "behavior" }),
    ("hint", {
      valueType := some ["String"]
      description := "Helper (hint) text which gets placed below your wrapped form component"
      examples := some ["hint=\"Please enter your name\""]
      category := some "content" }),
    ("filled", {
      valueType := some ["Boolean"]
      description := "Use 'filled' design for the field"
      category := some "style" }),
    ("outlined", {
      valueType := some ["Boolean"]
      description := "Use 'outlined' design for the field"
      category := some "style" }),
    ("borderless", {
      valueType := some ["Boolean"]
      description := "Use 'borderless' design for the field"
      category := some "style" }),
    ("standout", {
      valueType := some ["Boolean", "String"]
      description := "Use 'standout' design for the field; Specifies classes to be applied when focused (overriding default ones)"
      examples := some ["standout", "standout=\"bg-primary text-white\""]
      category := some "style" }),
    ("dense", {
      valueType := some ["Boolean"]
      description := "Dense mode; occupies less space"
      category := some "style" }),
    ("clearable", {
      valueType := some ["Boolean"]
      description := "Appends clearable icon when a value (not undefined or null) is set; When clicked, model becomes null"
      category := some "behavior" }),
    ("color", {
      valueType := some ["String"]
      description := "Color name for component from the Quasar Color Palette"
      examples := some ["primary", "teal-10", "#ff0000"]
      category := some "style" }),
    ("bg-color", {
      valueType := some ["String"]
      description := "Color name for component from the Quasar Color Palette"
      examples := some ["primary", "teal-10", "#ff0000"]
      category := some "style" }),
    ("dark", {
      valueType := some ["Boolean", "null"]
      description := "Notify the component that the background is a dark color"
      category := some "style" }),
    ("rounded", {
      valueType := some ["Boolean"]
      description := "Applies a small standard border-radius for a squared shape of the component"
      category := some "style" }),
    ("square", {
      valueType := some ["Boolean"]
      description := "Remove border-radius so borders are squared; Overrides 'rounded' prop"
      category := some "style" }),
    ("loading", {
      valueType := some ["Boolean"]
      description := "Signals the user a process is in progress by displaying a spinner"
      category := some "behavior|state" }),
    ("disable", {
      valueType := some ["Boolean"]
      description := "Put component in disabled mode"
      category := some "state" }),
    ("readonly", {
      valueType := some ["Boolean"]
      description := "Put component in readonly mode"
      category := some "state" }),
    ("autofocus", {
      valueType := some ["Boolean"]
      description := "Focus field on initial component render"
      category := some "behavior" }),
    ("for", {
      valueType := some ["String"]
      description := "Used to specify the 'id' of the control and also the 'for' attribute of the label that wraps it"
      category := some "behavior" }),
    ("model-value", {
      valueType := some ["Any"]
      description := "Model of the component; Either use this property (along with a listener for 'update:model-value' event) OR use v-model directive"
      category := some "model"
      internal := true }),
    ("multiple", {
      valueType := some ["Boolean"]
      description := "Allow multiple selection; Model must be Array"
      category := some "model|selection" }),
    ("use-chips", {
      valueType := some ["Boolean"]
      description := "Use QChip to show what is currently selected"
      category := some "selection" }),
    ("use-input", {
      valueType := some ["Boolean"]
      description := "Use an input tag where users can type"
      category := some "model|behavior" }),
    ("emit-value", {
      valueType := some ["Boolean"]
      description := "Update model with the value of the selected option instead of the whole option"
      category := some "model" }),
    ("map-options", {
      valueType := some ["Boolean"]
      description := "Try to map labels of model from 'options' Array; has a small performance penalty"
      category := some "model" }),
    ("options-dense", {
      valueType := some ["Boolean"]
      description := "Dense mode for options list; occupies less space"
      category := some "options" }),
    ("behavior", {
      valueType := some ["String"]
      description := "Overrides the default dynamic mode of showing as menu on desktop and dialog on mobiles"
      defaultValue := some (.str "'default'")
      acceptedLiterals := some ["'default'", "'menu'", "'dialog'"]
      category := some "behavior" }),
    ("input-debounce", {
      valueType := some ["Number", "String"]
      description := "Debounce the input model update with an amount of milliseconds"
      defaultValue := some (.str "500")
      examples := some ["input-debounce=\"0\""]
      category := some "behavior" })]
  slots := .ofList [
    ("option", { description := "Customize how options are rendered" }),
    ("selected", { description := "Override default selection slot" }),
    ("selected-item", { description := "Override default selection slot; Suggestion: QChip" }),
    ("no-option", {
      description := "What should the menu display after filtering options and none are left to be displayed" }),
    ("prepend", { description := "Prepend inner field; Suggestions: QIcon, QBtn" }),
    ("append", { description := "Append to inner field; Suggestions: QIcon, QBtn" })]
  events := .ofList [
    ("update:model-value", {
      description := "Emitted when the model changes"
      parameters := .named (.ofList [("value", .obj [("type", .str "Any"), ("desc", .str "New model value")])]) }),
    ("filter", {
      description := "Emitted when user wants to filter a value"
      parameters := .named (.ofList [("inputValue", .obj [("type", .str "String")]), ("doneFn", .obj [("type", .str "Function")]), ("abortFn", .obj [("type", .str "Function")])]) }),
    ("popup-show", {
      description := "Emitted when the select options menu or dialog is shown"
      parameters := .named (.ofList [("evt", .obj [("type", .str "Event"), ("desc", .str "JS event object")])]) }),
    ("popup-hide", {
      description := "Emitted when the select options menu or dialog is hidden"
      parameters := .named (.ofList [("evt", .obj [("type", .str "Event"), ("desc", .str "JS event object")])]) }),
    ("add", {
      description := "Emitted when an option is selected"
      parameters := .named (.ofList [("details", .obj [("type", .str "Object")])]) }),
    ("remove", {
      description := "Emitted when an option is removed from selection"
      parameters := .named (.ofList [("details", .obj [("type", .str "Object")])]) })]
  methods := .ofList [
    ("showPopup", { description := "Opens the menu or dialog", parameters := .void }),
    ("hidePopup", { description := "Hides the menu or dialog", parameters := .void }),
    ("removeAtIndex", {
      description := "Remove selected option located at specific index"
      parameters := .named (.ofList [("index", .obj [("type", .str "Number")])])
      result := .void }),
    ("add", {
      description := "Adds option to model"
      parameters := .named (.ofList [("opt", .obj [("type", .str "Any")]), ("unique", .obj [("type", .str "Boolean")])])
      result := .void }),
    ("toggleOption", {
      description := "Add/remove option from model"
      parameters := .named (.ofList [("opt", .obj [("type", .str "Any")]), ("keepOpen", .obj [("type", .str "Boolean")])])
      result := .void })]
  metadata := some (.obj [("docsUrl", .str "https://v2.quasar.dev/vue-components/select")])

/-- The attributes of the component `quploader`. -/
def quploader : Component where
  props := .ofList [
    ("label", {
      valueType := some ["String"]
      description := "Label for the uploader"
      examples := some ["label=\"Upload photos\""]
      category := some "content" }),
    ("multiple", {
      valueType := some ["Boolean"]
      description := "Allow multiple file uploads"
      category := some "behavior" }),
    ("accept", {
      valueType := some ["String"]
      description := "Comma separated list of unique file type specifiers. Maps to 'accept' attribute of native input type=file element"
      examples := some ["accept=\".jpg, .pdf, image/*\""]
      category := some "behavior" }),
    ("max-file-size", {
      valueType := some ["Number", "String"]
      description := "Maximum size of individual file in bytes"
      category := some "behavior" }),
    ("max-files", {
      valueType := some ["Number", "String"]
      description := "Maximum number of files to contain"
      category := some "behavior" }),
    ("auto-upload", {
      valueType := some ["Boolean"]
      description := "Upload files immediately when added"
      category := some "upload" }),
    ("hide-upload-btn", {
      valueType := some ["Boolean"]
      description := "Don't show the upload button"
      category := some "upload" }),
    ("flat", {
      valueType := some ["Boolean"]
      description := "Applies a 'flat' design (no default shadow)"
      category := some "style" }),
    ("bordered", {
      valueType := some ["Boolean"]
      description := "Applies a default border to the component"
      category := some "style" })]
  slots := .ofList [
    ("header", { description := "Slot for custom header" }),
    ("list", { description := "Slot for custom list" })]
  events := .ofList [
    ("added", {
      description := "Emitted when files are added into the list of files to be uploaded"
      parameters := .named (.ofList [("files", .obj [("type", .str "Array")])]) }),
    ("removed", {
      description := "Emitted after files are removed from the list of files to be uploaded"
      parameters := .named (.ofList [("files", .obj [("type", .str "Array")])]) }),
    ("uploaded", {
      description := "Emitted when file or batch of files is uploaded"
      parameters := .named (.ofList [("info", .obj [("type", .str "Object")])]) }),
    ("failed", {
      description := "Emitted when file or batch of files has encountered error while uploading"
      parameters := .named (.ofList [("info", .obj [("type", .str "Object")])]) })]
  methods := .ofList [
    ("pickFiles", {
      description := "Trigger file pick; Must be called as a direct consequence of user interaction (eg. in a click handler), due to browsers security policy"
      parameters := .named (.ofList [("evt", .obj [("type", .str "Event")])])
      result := .void }),
    ("upload", {
      description := "Start uploading (same as clicking the upload button)"
      parameters := .void
      result := .void }),
    ("reset", {
      description := "Resets uploader to default; Empties queue, aborts current uploads"
      parameters := .void
      result := .void }),
    ("removeQueuedFiles", {
      description := "Removes files that are waiting for upload"
      parameters := .void
      result := .void })]
  metadata := some (.obj [("docsUrl", .str "https://v2.quasar.dev/vue-components/uploader")])

end FluentAssist.Bundled
