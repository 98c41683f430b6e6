import FluentAssist.Settings.Basic

/-!
# Settings from the editor

An editor sends options when it starts the server and whenever they change. They may set whether
quotation marks trigger completion, and the address of the preview, either under `preview` or under
`preview.url`; the former wins. Options in which any of these has the wrong type are ignored as a
whole. Options may also be written as the list of these three, of which the last ones may be left
out.
-/

set_option autoImplicit false

namespace FluentAssist

/-- The options of an editor. -/
structure ClientOptions where
  stringSuggestions : Option Bool := none
  /-- The address under `preview`. -/
  nestedUrl : Option String := none
  /-- The address under `preview.url`. -/
  flatUrl : Option String := none
  deriving DecidableEq, Repr

namespace ClientOptions

open Json (optional?)

/-- The address in the options of the preview. -/
def previewUrl? : Json → Option (Option String)
  | .obj members => optional? Json.string? (members.lookup "url")
  | .arr [] => some none
  | .arr [url] => optional? Json.string? (some url)
  | _ => none

/-- Reads the three options. -/
def ofParts? (suggestions preview flat : Option Json) : Option ClientOptions := do
  let stringSuggestions ← optional? Json.bool? suggestions
  let nested ← optional? previewUrl? preview
  let flatUrl ← optional? Json.string? flat
  return ⟨stringSuggestions, nested.join, flatUrl⟩

/-- Reads options. -/
def decode? : Json → Option ClientOptions
  | .obj members =>
    ofParts? (members.lookup "enableStringSuggestions") (members.lookup "preview")
      (members.lookup "preview.url")
  | .arr items => if items.length ≤ 3 then ofParts? items[0]? items[1]? items[2]? else none
  | _ => none

/-- The address of the preview, if the options set one. -/
def url? (options : ClientOptions) : Option String := options.nestedUrl.or options.flatUrl

end ClientOptions

namespace Settings

/-- Applies understood options. -/
def withOptions (settings : Settings) (options : ClientOptions) : Settings :=
  { settings with
    completion :=
      { settings.completion with
        stringSuggestions :=
          options.stringSuggestions.getD settings.completion.stringSuggestions }
    previewUrl := options.url?.getD settings.previewUrl }

/-- Applies the options of an editor; options that are not understood change nothing. -/
def applyClient (settings : Settings) (value : Json) : Settings :=
  match ClientOptions.decode? value with
  | some options => settings.withOptions options
  | none => settings

end Settings

end FluentAssist
