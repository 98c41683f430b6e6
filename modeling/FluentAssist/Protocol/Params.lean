import FluentAssist.Protocol.EditorShapes
import FluentAssist.Protocol.Message
import FluentAssist.Protocol.RequestShapes
import FluentAssist.Resolution.Lookup

/-!
# Parameters of calls

What the server takes from the parameters of the calls that it handles. A `Reading` has the shape
that parameters must have, and finds in parameters of that shape what the server needs.
-/

set_option autoImplicit false

namespace FluentAssist.Protocol

/-- How parameters are read. -/
structure Reading (α : Type) where
  shape : Shape
  /-- Takes what is needed out of parameters of the shape. -/
  take? : Json → Option α

/-- Reads parameters. -/
def Reading.read {α : Type} (reading : Reading α) (params : Json) : Except Mismatch α :=
  match reading.shape.mismatch? false params with
  | some mismatch => .error mismatch
  | none => (reading.take? params).elim (.error (.wrongType params "other parameters")) .ok

/-- The address in a value. -/
def url? (value : Json) : Option Url := value.string?.bind fun text => Url.parse? text.toList

/-- A number of 32 bits. -/
def count? (value : Json) : Option Nat := value.natBelow? wordSize32

/-- A position in a document. -/
def position? (value : Json) : Option Position := do
  return ⟨← (Shape.position.get? "line" value).bind count?,
    ← (Shape.position.get? "character" value).bind count?⟩

/-- A place in a document. -/
structure PlaceParams where
  uri : Url
  position : Position
  deriving DecidableEq, Repr

/-- The place that an object with its fields tells. -/
def place? (params : Json) : Option PlaceParams := do
  let uri ← Shape.document.get? "uri" (← params.get? "textDocument")
  return ⟨← url? uri, ← (params.get? "position").bind position?⟩

/-- Reads what a hover text is asked for. -/
def hoverReading : Reading PlaceParams := ⟨Shape.hover, place?⟩

/-- What a completion is asked for. -/
structure CompletionParams where
  place : PlaceParams
  /-- The character that triggered the completion. -/
  trigger : Option String
  deriving DecidableEq, Repr

/-- Reads what a completion is asked for. -/
def completionReading : Reading CompletionParams where
  shape := Shape.completion
  take? params := do
    let trigger := (params.get? "context").bind (Shape.completionContext.get? "triggerCharacter")
    return ⟨← place? params, trigger.bind Json.string?⟩

/-- Reads a document that was opened. -/
def openedReading : Reading Snapshot where
  shape := Shape.opened
  take? params := do
    let document ← Shape.opened.get? "textDocument" params
    let field (name : String) := Shape.openedDocument.get? name document
    return ⟨← (field "uri").bind url?, ← (field "version").bind Json.int64?,
      (← (field "text").bind Json.string?).toList⟩

/-- Reads the address of a document that was closed. -/
def closedReading : Reading Url where
  shape := Shape.closed
  take? params := do
    (← Shape.document.get? "uri" (← Shape.closed.get? "textDocument" params)) |> url?

/-- A change of a document: every change brings the whole text, and the last one counts. -/
structure ChangedParams where
  uri : Url
  version : Int
  changes : List Text
  deriving DecidableEq, Repr

/-- The document after the change, if anything changes. -/
def ChangedParams.document? (params : ChangedParams) : Option Snapshot :=
  params.changes.getLast?.map fun text => ⟨params.uri, params.version, text⟩

/-- The new text of a changed document. -/
def changeText? (change : Json) : Option Text :=
  ((Shape.contentChange.get? "text" change).bind Json.string?).map String.toList

/-- Reads a change of a document. -/
def changedReading : Reading ChangedParams where
  shape := Shape.changed
  take? params := do
    let document ← Shape.changed.get? "textDocument" params
    let changes ← (Shape.changed.get? "contentChanges" params).bind Json.items?
    let field (name : String) := Shape.versionedDocument.get? name document
    return ⟨← (field "uri").bind url?, ← (field "version").bind Json.int64?,
      ← changes.mapM changeText?⟩

/-- Reads new settings. -/
def configuredReading : Reading Json := ⟨Shape.configured, Shape.configured.get? "settings"⟩

/-- Reads that an editor is ready. -/
def readyReading : Reading Unit := ⟨Shape.ready, fun _ => some ()⟩

/-- What an editor tells about itself at the start. -/
structure StartParams where
  /-- The folders of the workspace. -/
  folders : List Url
  root : Option Url
  options : Option Json

/-- The address of the workspace: its first folder counts before the root. -/
def StartParams.workspace? (params : StartParams) : Option Url :=
  params.folders.head?.or params.root

/-- Reads what an editor tells about itself. -/
def startReading : Reading StartParams where
  shape := Shape.start
  take? params :=
    let folders := (Shape.start.present? "workspaceFolders" params).bind Json.items?
    let folderUrl? (folder : Json) := (Shape.folder.get? "uri" folder).bind url?
    some {
      folders := (folders.getD []).filterMap folderUrl?
      root := (Shape.start.present? "rootUri" params).bind url?
      options := Shape.start.present? "initializationOptions" params }

/-- A command and its arguments. -/
structure CommandParams where
  name : String
  arguments : List Json

/-- Reads a command. -/
def commandReading : Reading CommandParams where
  shape := Shape.execution
  take? params := do
    return ⟨← (params.get? "command").bind Json.string?,
      ((params.get? "arguments").bind Json.items?).getD []⟩

end FluentAssist.Protocol
