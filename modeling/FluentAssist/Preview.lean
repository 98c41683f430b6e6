import FluentAssist.Json.Value
import FluentAssist.Text.Blank
import FluentAssist.Url.Basic

/-!
# The preview of the running program

A preview is a page that embeds the program under its address. There is at most one at a time:
opening it again reveals the one that is there, whatever address is configured by then.
-/

set_option autoImplicit false

namespace FluentAssist

/-- Why a preview cannot be opened. -/
inductive PreviewError
  /-- The configured address is not one of the web. -/
  | invalidUrl (configured : Text)
  deriving DecidableEq, Repr

/-- The wording of a preview error. -/
def PreviewError.message : PreviewError → String
  | .invalidUrl configured => "Invalid NiceGUI preview URL: " ++ String.ofList configured

/-- What an editor has to do to show the preview. -/
inductive PreviewAction
  | reveal (url : Url)
  | create (url : Url)
  deriving DecidableEq, Repr

/-- The preview, if there is one: the address it was made for. -/
structure Preview where
  panel : Option Url := none
  deriving DecidableEq, Repr

namespace Preview

/-- The title of the page. -/
def title : String := "NiceGUI"

/-- The schemes of the web. -/
def schemes : List Text := ["http".toList, "https".toList]

/-- Reads the address of a preview. -/
def validate (configured : Text) : Except PreviewError Url :=
  match Url.parse? (Text.trim configured) with
  | some url => if schemes.contains url.scheme then .ok url else .error (.invalidUrl configured)
  | none => .error (.invalidUrl configured)

/-- A character inside a quoted attribute. -/
def attributeChar (c : Char) : Text :=
  if c = '&' then "&amp;".toList
  else if c = '"' then "&quot;".toList
  else if c = '<' then "&lt;".toList
  else if c = '>' then "&gt;".toList
  else [c]

/-- A text inside a quoted attribute. -/
def escapeAttribute (text : Text) : Text := text.flatMap attributeChar

/-- The page before the first place of the address. -/
def pageHead : Text :=
  ("<!DOCTYPE html>\n<html lang=\"en\">\n<head>\n    <meta charset=\"UTF-8\">\n" ++
    "    <meta name=\"viewport\" content=\"width=device-width, initial-scale=1.0\">\n" ++
    "    <title>NiceGUI</title>\n</head>\n<body>\n    <object data=\"").toList

/-- The page between the two places of the address. -/
def pageMiddle : Text := "\" style=\"width:100%;height:100vh;\">\n        <embed src=\"".toList

/-- The page after the second place of the address. -/
def pageTail : Text :=
  ("\" style=\"width:100%;height:100vh;\"> </embed>\n" ++
    "        Error: Embedded data could not be displayed.\n    </object>\n</body>\n</html>").toList

/-- The page that embeds an address. -/
def pageOf (address : Text) : Text :=
  pageHead ++ escapeAttribute address ++ pageMiddle ++ escapeAttribute address ++ pageTail

/-- The page of a preview. -/
def page (url : Url) : Text := pageOf url.href

/-- Opens the preview, or reveals it. An address that cannot be shown leaves all as it is. -/
def openPanel (preview : Preview) (configured : Text) :
    Preview × Except PreviewError PreviewAction :=
  match preview.panel with
  | some url => (preview, .ok (.reveal url))
  | none =>
    match validate configured with
    | .ok url => (⟨some url⟩, .ok (.create url))
    | .error fault => (preview, .error fault)

/-- Closes the preview; tells whether there was one. -/
def dispose (preview : Preview) : Preview × Bool := (⟨none⟩, preview.panel.isSome)

/-- Whether there is a preview. -/
def isOpen (preview : Preview) : Bool := preview.panel.isSome

end Preview

/-- An action as a value. -/
def PreviewAction.toJson : PreviewAction → Json
  | .reveal url => .obj [("action", .str "reveal"), ("url", .ofText url.href)]
  | .create url =>
    .obj [
      ("action", .str "create"),
      ("url", .ofText url.href),
      ("title", .str Preview.title),
      ("html", .ofText (Preview.page url))]

end FluentAssist
