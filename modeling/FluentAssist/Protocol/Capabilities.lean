import FluentAssist.Settings.Basic

/-!
# What the server offers

The commands that an editor can run and the features that are announced to it.
-/

set_option autoImplicit false

namespace FluentAssist

/-- The commands of the server. -/
inductive Command
  /-- Shows the companion of a file. -/
  | switchFile
  | openPreview
  | disposePreview
  deriving DecidableEq, Repr

namespace Command

/-- The name of a command. -/
def name : Command → String
  | .switchFile => "nicegui.switchScriptComponent"
  | .openPreview => "nicegui.openPreview"
  | .disposePreview => "nicegui.disposePreview"

/-- All commands. -/
def all : List Command := [.switchFile, .openPreview, .disposePreview]

/-- The command of a name. -/
def ofName? (name : String) : Option Command := all.find? (·.name = name)

end Command

namespace Protocol

/-- The features under the given settings. -/
def capabilities (settings : Settings) : Json :=
  .obj [
    ("textDocumentSync", .obj [("openClose", .bool true), ("change", .ofNat 1)]),
    ("hoverProvider", .bool true),
    ("completionProvider", .obj [
      ("resolveProvider", .bool false),
      ("triggerCharacters", .ofStrings settings.triggers)]),
    ("executeCommandProvider", .obj [
      ("commands", .ofStrings (Command.all.map Command.name))])]

end Protocol

end FluentAssist
