import FluentAssist.Analyzer.Error
import FluentAssist.Protocol.Convert
import FluentAssist.Protocol.HoverReply
import FluentAssist.Resolution.Lookup
import FluentAssist.Wire.Envelope

/-!
# Messages to and from the type analysis

Requests carry a number and are answered, notifications are not. This file lists the requests and
notifications that are sent, the answers that are given to requests of the analysis itself, and how
an answer is read.
-/

set_option autoImplicit false

namespace FluentAssist.Analyzer

/-- An address as a value. -/
def urlJson (url : Url) : Json := .ofText url.href

/-- The requests that are sent. -/
inductive Call
  | handshake (processId : Nat) (root : Option Url)
  | hover (uri : Url) (position : Position)
  | typeDefinition (uri : Url) (position : Position)
  | shutdown
  deriving DecidableEq, Repr

/-- The notifications that are sent. -/
inductive Notice
  | initialized
  | opened (document : Snapshot)
  | changed (document : Snapshot)
  | closed (uri : Url)
  | exit
  deriving DecidableEq, Repr

/-- What the client can do, as told to the analysis. -/
def clientCapabilities : Json :=
  .obj [
    ("textDocument", .obj [
      ("hover", .obj [("contentFormat", .ofStrings ["markdown", "plaintext"])]),
      ("typeDefinition", .obj []),
      ("synchronization", .obj [("didSave", .bool false)])]),
    ("workspace", .obj [("configuration", .bool true)])]

/-- A position of a document. -/
def placeParams (uri : Url) (position : Position) : Json :=
  .obj [
    ("textDocument", .obj [("uri", urlJson uri)]),
    ("position", Protocol.position position)]

/-- The workspace folders of a root. -/
def folders (root : Url) : Json :=
  .arr [.obj [("uri", urlJson root), ("name", .str "workspace")]]

namespace Call

/-- The method of a request. -/
def method : Call → String
  | .handshake _ _ => "initialize"
  | .hover _ _ => "textDocument/hover"
  | .typeDefinition _ _ => "textDocument/typeDefinition"
  | .shutdown => "shutdown"

/-- The parameters of a request. -/
def params : Call → Json
  | .handshake processId root =>
    .obj [
      ("processId", .ofNat processId),
      ("rootUri", .ofOption urlJson root),
      ("workspaceFolders", .ofOption folders root),
      ("capabilities", clientCapabilities)]
  | .hover uri position => placeParams uri position
  | .typeDefinition uri position => placeParams uri position
  | .shutdown => .null

/-- Whether a request is given up when no answer comes in time. -/
def isTimed : Call → Bool
  | .handshake _ _ => true
  | .shutdown => true
  | .hover _ _ => false
  | .typeDefinition _ _ => false

/-- The message of a request with a number. -/
def message (call : Call) (id : Nat) : Json :=
  Wire.request (.ofNat id) call.method call.params

end Call

namespace Notice

/-- The method of a notification. -/
def method : Notice → String
  | .initialized => "initialized"
  | .opened _ => "textDocument/didOpen"
  | .changed _ => "textDocument/didChange"
  | .closed _ => "textDocument/didClose"
  | .exit => "exit"

/-- The parameters of a notification. -/
def params : Notice → Json
  | .initialized => .obj []
  | .opened document =>
    .obj [("textDocument", .obj [
      ("uri", urlJson document.uri),
      ("languageId", .str "python"),
      ("version", .ofInt document.version),
      ("text", .ofText document.text)])]
  | .changed document =>
    .obj [
      ("textDocument",
        .obj [("uri", urlJson document.uri), ("version", .ofInt document.version)]),
      ("contentChanges", .arr [.obj [("text", .ofText document.text)]])]
  | .closed uri => .obj [("textDocument", .obj [("uri", urlJson uri)])]
  | .exit => .null

/-- The message of a notification. -/
def message (notice : Notice) : Json :=
  Wire.notice notice.method notice.params

end Notice

/-- What is sent to the analysis. -/
inductive Message
  /-- A request with its number. -/
  | call (id : Nat) (call : Call)
  | notice (notice : Notice)
  /-- The answer to a request of the analysis itself. -/
  | reply (answer : Json)

/-- A message as it is sent. -/
def Message.json : Message → Json
  | .call id asked => asked.message id
  | .notice told => told.message
  | .reply answer => answer

/-- The result that a request of the analysis is answered with: as many empty settings as it asks
for, and nothing for all else. -/
def emptyResult (method : String) (params : Option Json) : Json :=
  if method = "workspace/configuration" then
    let items := ((params.bind (·.get? "items")).bind Json.items?).getD []
    .arr (List.replicate items.length .null)
  else .null

/-- The answer to a request of the analysis. -/
def reply (id : Json) (method : String) (params : Option Json) : Json :=
  Wire.result id (emptyResult method params)

/-- The result that an answer carries. -/
def responseResult (message : Json) : Except AnalyzerError Json :=
  match message.get? "error" with
  | some error =>
    .error (.refused (((error.get? "code").bind Json.int64?).getD 0)
      (((error.get? "message").bind Json.string?).getD ""))
  | none => .ok ((message.get? "result").getD .null)

/-- The hover text in the answer to a hover request. -/
def hoverText (result : Json) : Except AnalyzerError (Option Text) :=
  match HoverReply.text? result with
  | some text => .ok text
  | none => .error .notUnderstood

/-- Whether the answer to a request for a type's definition names one. -/
def namesDefinition : Json → Bool
  | .null => false
  | .arr locations => !locations.isEmpty
  | _ => true

end FluentAssist.Analyzer
