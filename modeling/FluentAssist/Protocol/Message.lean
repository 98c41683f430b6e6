import FluentAssist.Json.Value
import FluentAssist.Url.Basic
import FluentAssist.Wire.Envelope

/-!
# Messages between editor and server

An editor makes calls: requests, which are answered, and notices, which are not. The server sends
messages of its own to be logged, to be shown, or to open a document.
-/

set_option autoImplicit false

namespace FluentAssist.Protocol

/-- A call of the editor. A request carries a mark that its answer repeats. -/
structure Call where
  method : String
  params : Option Json := none
  id : Option Json := none

/-- Reads a call; a message without a method is none. -/
def Call.ofMessage? (message : Json) : Option Call := do
  let method ← (message.get? "method").bind Json.string?
  return ⟨method, message.get? "params", message.get? "id"⟩

/-- Whether a call is to be answered. -/
def Call.isRequest (call : Call) : Bool := call.id.isSome

/-- Why a request is refused. -/
inductive Refusal
  /-- The editor has not introduced itself yet. -/
  | notStarted
  /-- The request does not fit the state of the server. -/
  | invalidRequest
  | unknownMethod
  | invalidParams (reason : String)
  | cancelled
  /-- The request could not be served. -/
  | internal
  deriving DecidableEq, Repr

namespace Refusal

/-- The number of a refusal. -/
def code : Refusal → Int
  | .notStarted => -32002
  | .invalidRequest => -32600
  | .unknownMethod => -32601
  | .invalidParams _ => -32602
  | .internal => -32603
  | .cancelled => -32800

/-- The wording of a refusal. -/
def message : Refusal → String
  | .notStarted => "Server not initialized"
  | .invalidRequest => "Invalid request"
  | .unknownMethod => "Method not found"
  | .invalidParams reason => reason
  | .internal => "Internal error"
  | .cancelled => "Canceled"

end Refusal

/-- What becomes of a call. -/
inductive Reply
  | result (value : Json)
  | refused (refusal : Refusal)
  /-- There is nothing to say. -/
  | silent
  /-- The server has exited. -/
  | gone

/-- The message that answers a request. -/
def Reply.message? (id : Json) : Reply → Option Json
  | .result value => some (Wire.result id value)
  | .refused refusal =>
    some (Wire.error id (.obj [("code", .ofInt refusal.code), ("message", .str refusal.message)]))
  | .silent => none
  | .gone => none

/-- Refuses a request; a notice is passed over. -/
def Call.refuse (call : Call) (refusal : Refusal) : Reply :=
  if call.isRequest then .refused refusal else .silent

/-- How grave a message is. -/
inductive Severity
  | error
  | warning
  | info
  deriving DecidableEq, Repr

/-- The number of a severity. -/
def Severity.number : Severity → Nat
  | .error => 1
  | .warning => 2
  | .info => 3

/-- A message to the editor. -/
inductive ClientMessage
  | log (severity : Severity) (text : String)
  | notify (severity : Severity) (text : String)
  /-- Asks the editor to show a document. -/
  | showDocument (uri : Url)
  deriving DecidableEq, Repr

namespace ClientMessage

/-- The method of a message. -/
def method : ClientMessage → String
  | .log _ _ => "window/logMessage"
  | .notify _ _ => "window/showMessage"
  | .showDocument _ => "window/showDocument"

/-- The parameters of a message. -/
def params : ClientMessage → Json
  | .log severity text => .obj [("type", .ofNat severity.number), ("message", .str text)]
  | .notify severity text => .obj [("type", .ofNat severity.number), ("message", .str text)]
  | .showDocument uri => .obj [("uri", .ofText uri.href), ("takeFocus", .bool true)]

/-- Whether the editor answers a message. -/
def isRequest : ClientMessage → Bool
  | .showDocument _ => true
  | _ => false

/-- A message as it is sent; the mark counts for those that the editor answers. -/
def message (message : ClientMessage) (mark : Json) : Json :=
  if message.isRequest then Wire.request mark message.method message.params
  else Wire.notice message.method message.params

end ClientMessage

end FluentAssist.Protocol
