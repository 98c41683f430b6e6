import FluentAssist.Knowledge.Base

/-!
# Bundled name lists

Generic attribute names, utility classes, icons and element functions, each in the order in which
they are offered, and the map from element classes to components.
-/

set_option autoImplicit false

namespace FluentAssist.Bundled

/-- Attribute names for elements of unknown component. -/
def generic : GenericLists where
  props := [
    "accept", "align", "alt", "auto-upload", "autofocus", "autogrow", "avatar", "behavior",
    "bg-color", "bordered", "borderless", "checked-icon", "clearable", "color", "counter", "dark",
    "dark-percentage", "debounce", "dense", "disable", "emit-value", "fab", "fab-mini",
    "fill-mask", "filled", "fit", "flat", "for", "glossy", "hide-bottom", "hide-header",
    "hide-upload-btn", "hint", "href", "icon", "icon-right", "img-class", "input-class",
    "input-debounce", "keep-color", "label", "label-always", "left", "left-label", "loading",
    "map-options", "markers", "mask", "max", "max-file-size", "max-files", "maxlength", "min",
    "multiple", "name", "no-caps", "no-spinner", "no-transition", "no-wrap", "options-dense",
    "outline", "outlined", "padding", "percentage", "position", "prefix", "push", "ratio",
    "readonly", "reverse", "right", "ripple", "round", "rounded", "row-key", "selection", "sent",
    "separator", "size", "sizes", "snap", "spinner-color", "square", "src", "srcset", "stack",
    "stack-label", "stamp", "standout", "step", "stretch", "suffix", "tag", "target",
    "text-color", "thumb-size", "title", "to", "track-size", "type", "unchecked-icon",
    "unelevated", "use-chips", "use-input", "vertical", "virtual-scroll", "wrap-cells"]
  slots := [
    "after", "append", "avatar", "before", "body", "body-cell", "body-cell-[name]", "bottom",
    "counter", "default", "error", "header", "header-cell-[name]", "hint", "label", "list",
    "loading", "marker-label-group", "name", "no-data", "no-option", "option", "prepend",
    "selected", "selected-item", "stamp", "top"]
  events := [
    "add", "added", "blur", "change", "clear", "click", "error", "failed", "filter", "focus",
    "keydown", "load", "pan", "popup-hide", "popup-show", "remove", "removed", "request",
    "row-click", "selection", "update:model-value", "update:pagination", "uploaded"]
  methods := [
    "add", "blur", "clearSelection", "click", "firstPage", "focus", "getNativeElement",
    "hidePopup", "lastPage", "pickFiles", "removeAtIndex", "removeQueuedFiles",
    "requestServerInteraction", "reset", "resetValidation", "scrollTo", "select", "setExpanded",
    "showPopup", "toggle", "toggleOption", "upload", "validate"]

/-- Utility classes. -/
def utilityClasses : List String := [
  "flex", "inline-flex", "grid", "hidden", "block", "inline-block", "contents", "flex-row",
  "flex-row-reverse", "flex-col", "flex-col-reverse", "flex-wrap", "flex-nowrap", "flex-1",
  "flex-auto", "flex-none", "grow", "shrink-0", "items-start", "items-end", "items-center",
  "items-baseline", "items-stretch", "justify-start", "justify-end", "justify-center",
  "justify-between", "justify-around", "justify-evenly", "self-auto", "self-start", "self-end",
  "self-center", "self-stretch", "p-0", "px-0", "py-0", "pt-0", "pb-0", "pl-0", "pr-0", "m-0",
  "mx-0", "my-0", "mt-0", "mb-0", "ml-0", "mr-0", "gap-0", "p-0.5", "px-0.5", "py-0.5", "pt-0.5",
  "pb-0.5", "pl-0.5", "pr-0.5", "m-0.5", "mx-0.5", "my-0.5", "mt-0.5", "mb-0.5", "ml-0.5",
  "mr-0.5", "gap-0.5", "p-1", "px-1", "py-1", "pt-1", "pb-1", "pl-1", "pr-1", "m-1", "mx-1",
  "my-1", "mt-1", "mb-1", "ml-1", "mr-1", "gap-1", "p-2", "px-2", "py-2", "pt-2", "pb-2", "pl-2",
  "pr-2", "m-2", "mx-2", "my-2", "mt-2", "mb-2", "ml-2", "mr-2", "gap-2", "p-3", "px-3", "py-3",
  "pt-3", "pb-3", "pl-3", "pr-3", "m-3", "mx-3", "my-3", "mt-3", "mb-3", "ml-3", "mr-3", "gap-3",
  "p-4", "px-4", "py-4", "pt-4", "pb-4", "pl-4", "pr-4", "m-4", "mx-4", "my-4", "mt-4", "mb-4",
  "ml-4", "mr-4", "gap-4", "p-5", "px-5", "py-5", "pt-5", "pb-5", "pl-5", "pr-5", "m-5", "mx-5",
  "my-5", "mt-5", "mb-5", "ml-5", "mr-5", "gap-5", "p-6", "px-6", "py-6", "pt-6", "pb-6", "pl-6",
  "pr-6", "m-6", "mx-6", "my-6", "mt-6", "mb-6", "ml-6", "mr-6", "gap-6", "p-8", "px-8", "py-8",
  "pt-8", "pb-8", "pl-8", "pr-8", "m-8", "mx-8", "my-8", "mt-8", "mb-8", "ml-8", "mr-8", "gap-8",
  "p-10", "px-10", "py-10", "pt-10", "pb-10", "pl-10", "pr-10", "m-10", "mx-10", "my-10", "mt-10",
  "mb-10", "ml-10", "mr-10", "gap-10", "p-12", "px-12", "py-12", "pt-12", "pb-12", "pl-12",
  "pr-12", "m-12", "mx-12", "my-12", "mt-12", "mb-12", "ml-12", "mr-12", "gap-12", "p-16",
  "px-16", "py-16", "pt-16", "pb-16", "pl-16", "pr-16", "m-16", "mx-16", "my-16", "mt-16",
  "mb-16", "ml-16", "mr-16", "gap-16", "w-full", "w-screen", "w-auto", "w-1/2", "w-1/3", "w-2/3",
  "w-1/4", "w-3/4", "h-full", "h-screen", "h-auto", "min-h-screen", "max-w-screen-md",
  "max-w-screen-lg", "text-xs", "text-sm", "text-base", "text-lg", "text-xl", "text-2xl",
  "text-3xl", "text-4xl", "text-left", "text-center", "text-right", "font-thin", "font-light",
  "font-normal", "font-medium", "font-semibold", "font-bold", "italic", "underline",
  "line-through", "uppercase", "lowercase", "capitalize", "truncate", "text-gray-100",
  "bg-gray-100", "border-gray-100", "text-gray-300", "bg-gray-300", "border-gray-300",
  "text-gray-500", "bg-gray-500", "border-gray-500", "text-gray-700", "bg-gray-700",
  "border-gray-700", "text-gray-900", "bg-gray-900", "border-gray-900", "text-red-100",
  "bg-red-100", "border-red-100", "text-red-300", "bg-red-300", "border-red-300", "text-red-500",
  "bg-red-500", "border-red-500", "text-red-700", "bg-red-700", "border-red-700", "text-red-900",
  "bg-red-900", "border-red-900", "text-orange-100", "bg-orange-100", "border-orange-100",
  "text-orange-300", "bg-orange-300", "border-orange-300", "text-orange-500", "bg-orange-500",
  "border-orange-500", "text-orange-700", "bg-orange-700", "border-orange-700", "text-orange-900",
  "bg-orange-900", "border-orange-900", "text-yellow-100", "bg-yellow-100", "border-yellow-100",
  "text-yellow-300", "bg-yellow-300", "border-yellow-300", "text-yellow-500", "bg-yellow-500",
  "border-yellow-500", "text-yellow-700", "bg-yellow-700", "border-yellow-700", "text-yellow-900",
  "bg-yellow-900", "border-yellow-900", "text-green-100", "bg-green-100", "border-green-100",
  "text-green-300", "bg-green-300", "border-green-300", "text-green-500", "bg-green-500",
  "border-green-500", "text-green-700", "bg-green-700", "border-green-700", "text-green-900",
  "bg-green-900", "border-green-900", "text-teal-100", "bg-teal-100", "border-teal-100",
  "text-teal-300", "bg-teal-300", "border-teal-300", "text-teal-500", "bg-teal-500",
  "border-teal-500", "text-teal-700", "bg-teal-700", "border-teal-700", "text-teal-900",
  "bg-teal-900", "border-teal-900", "text-blue-100", "bg-blue-100", "border-blue-100",
  "text-blue-300", "bg-blue-300", "border-blue-300", "text-blue-500", "bg-blue-500",
  "border-blue-500", "text-blue-700", "bg-blue-700", "border-blue-700", "text-blue-900",
  "bg-blue-900", "border-blue-900", "text-indigo-100", "bg-indigo-100", "border-indigo-100",
  "text-indigo-300", "bg-indigo-300", "border-indigo-300", "text-indigo-500", "bg-indigo-500",
  "border-indigo-500", "text-indigo-700", "bg-indigo-700", "border-indigo-700", "text-indigo-900",
  "bg-indigo-900", "border-indigo-900", "text-purple-100", "bg-purple-100", "border-purple-100",
  "text-purple-300", "bg-purple-300", "border-purple-300", "text-purple-500", "bg-purple-500",
  "border-purple-500", "text-purple-700", "bg-purple-700", "border-purple-700", "text-purple-900",
  "bg-purple-900", "border-purple-900", "text-pink-100", "bg-pink-100", "border-pink-100",
  "text-pink-300", "bg-pink-300", "border-pink-300", "text-pink-500", "bg-pink-500",
  "border-pink-500", "text-pink-700", "bg-pink-700", "border-pink-700", "text-pink-900",
  "bg-pink-900", "border-pink-900", "text-white", "text-black", "bg-white", "bg-black",
  "bg-transparent", "border", "border-0", "border-2", "border-4", "rounded", "rounded-none",
  "rounded-sm", "rounded-md", "rounded-lg", "rounded-xl", "rounded-full", "shadow", "shadow-sm",
  "shadow-md", "shadow-lg", "shadow-xl", "shadow-none", "opacity-0", "opacity-50", "opacity-100",
  "absolute", "relative", "fixed", "sticky", "static", "inset-0", "top-0", "bottom-0", "left-0",
  "right-0", "z-10", "z-50", "overflow-auto", "overflow-hidden", "overflow-scroll",
  "cursor-pointer", "select-none", "transition", "duration-300", "hover:bg-gray-100",
  "dark:bg-gray-800", "sm:flex", "md:flex", "lg:flex"]

/-- Icon names. -/
def icons : List String := [
  "home", "menu", "search", "settings", "close", "check", "add", "remove", "delete", "edit",
  "save", "refresh", "arrow_back", "arrow_forward", "arrow_upward", "arrow_downward",
  "expand_more", "expand_less", "chevron_left", "chevron_right", "more_vert", "more_horiz",
  "favorite", "favorite_border", "star", "star_border", "info", "warning", "error", "help",
  "visibility", "visibility_off", "lock", "lock_open", "person", "people", "account_circle",
  "logout", "login", "mail", "phone", "chat", "notifications", "calendar_today", "schedule",
  "event", "alarm", "cloud", "cloud_upload", "cloud_download", "upload", "download",
  "attach_file", "folder", "folder_open", "description", "image", "photo_camera", "videocam",
  "mic", "volume_up", "volume_off", "play_arrow", "pause", "stop", "skip_next", "skip_previous",
  "shopping_cart", "payment", "local_shipping", "map", "place", "navigation", "language",
  "public", "dark_mode", "light_mode", "palette", "brush", "code", "terminal", "bug_report",
  "build", "dashboard", "analytics", "bar_chart", "pie_chart", "trending_up", "trending_down",
  "filter_list", "sort", "tune", "print", "share", "link", "content_copy", "content_paste",
  "undo", "redo", "thumb_up", "thumb_down", "done_all", "fullscreen", "fullscreen_exit",
  "open_in_new", "sync", "wifi", "bluetooth", "battery_full", "power_settings_new",
  "rocket_launch", "celebration", "sentiment_satisfied", "water_drop"]

/-- The functions of the element module. -/
def uiFunctions : List String := [
  "aggrid", "audio", "avatar", "badge", "button", "button_group", "card", "card_actions",
  "card_section", "carousel", "carousel_slide", "chart", "chat_message", "checkbox", "chip",
  "circular_progress", "code", "codemirror", "color_input", "color_picker", "colors", "column",
  "context_menu", "dark_mode", "date", "dialog", "download", "drawer", "dropdown_button",
  "echart", "editor", "element", "expansion", "footer", "fullscreen", "grid", "header",
  "highchart", "html", "icon", "image", "input", "interactive_image", "item", "item_label",
  "item_section", "joystick", "json_editor", "keyboard", "knob", "label", "leaflet",
  "left_drawer", "line_plot", "linear_progress", "link", "link_target", "list", "log", "markdown",
  "matplotlib", "menu", "menu_item", "mermaid", "navigate", "notification", "notify", "number",
  "page", "page_sticky", "page_title", "pagination", "plotly", "pyplot", "query", "radio",
  "range", "rating", "refreshable", "restructured_text", "right_drawer", "row", "run_javascript",
  "scene", "scroll_area", "select", "separator", "skeleton", "slide_item", "slider", "space",
  "spinner", "splitter", "step", "stepper", "stepper_navigation", "switch", "tab", "tab_panel",
  "tab_panels", "table", "tabs", "textarea", "time", "timeline", "timeline_entry", "timer",
  "toggle", "tooltip", "tree", "upload", "video"]

/-- The components of element classes. -/
def classMap : Table String := .ofList [
  ("Button", "qbtn"), ("Input", "qinput"), ("Textarea", "qinput"), ("Number", "qinput"),
  ("Select", "qselect"), ("Image", "qimg"), ("Card", "qcard"), ("Icon", "qicon"),
  ("Table", "qtable"), ("Slider", "qslider"), ("Upload", "quploader"), ("Switch", "qtoggle"),
  ("ChatMessage", "qchatmessage"), ("Checkbox", "qcheckbox"), ("Radio", "qoptiongroup"),
  ("Toggle", "qbtntoggle"), ("Avatar", "qavatar"), ("Badge", "qbadge"), ("Chip", "qchip"),
  ("Expansion", "qexpansionitem"), ("Knob", "qknob"), ("Spinner", "qspinner"),
  ("Tooltip", "qtooltip"), ("Menu", "qmenu"), ("Dialog", "qdialog"), ("Tabs", "qtabs"),
  ("Tab", "qtab"), ("Stepper", "qstepper"), ("Timeline", "qtimeline"), ("Splitter", "qsplitter"),
  ("ScrollArea", "qscrollarea"), ("Drawer", "qdrawer"), ("LeftDrawer", "qdrawer"),
  ("RightDrawer", "qdrawer"), ("Header", "qheader"), ("Footer", "qfooter"),
  ("LinearProgress", "qlinearprogress"), ("CircularProgress", "qcircularprogress"),
  ("Pagination", "qpagination"), ("Rating", "qrating"), ("Separator", "qseparator"),
  ("Skeleton", "qskeleton"), ("Space", "qspace"), ("Date", "qdate"), ("Time", "qtime"),
  ("ColorPicker", "qcolor"), ("Editor", "qeditor"), ("Tree", "qtree"), ("Carousel", "qcarousel"),
  ("Video", "qvideo"), ("Item", "qitem"), ("List", "qlist")]

end FluentAssist.Bundled
