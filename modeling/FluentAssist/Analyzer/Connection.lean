import FluentAssist.Analyzer.Message
import FluentAssist.Wire.Frame

/-!
# The connection to the type analysis

Requests are numbered from one. A request is pending until an answer with its number comes, its
caller gives it up, or the stream ends; the end of the stream answers every pending request with
`AnalyzerError.closed`, and from then on the analysis is unavailable.

A message with a method is a request or notification of the analysis, whatever number it carries.
Only a message without a method can answer, and only the pending request with its number.
-/

set_option autoImplicit false

namespace FluentAssist.Analyzer

/-- How a connection stands. -/
structure Connection where
  /-- Whether the stream from the analysis is still read. -/
  alive : Bool := true
  /-- The number of the next request. It is a signed counter of 64 bits at run time; that it wraps
  around is left out, since it would take `2 ^ 63` requests. -/
  nextId : Nat := 1
  /-- The numbers of the pending requests. -/
  pending : List Nat := []
  /-- Bytes that do not make a complete frame yet. -/
  unread : List UInt8 := []
  deriving DecidableEq, Repr

/-- What an incoming message leads to. -/
inductive Effect
  /-- A message is sent to the analysis. -/
  | reply (message : Json)
  /-- A pending request ends. -/
  | outcome (id : Nat) (result : Except AnalyzerError Json)

namespace Connection

/-- Takes the number of a new request. -/
def takeNumber (connection : Connection) : Connection × Nat :=
  ({ connection with nextId := connection.nextId + 1 }, connection.nextId)

/-- Makes a request pending. -/
def enter (connection : Connection) (id : Nat) : Connection :=
  { connection with pending := connection.pending ++ [id] }

/-- Starts a request and gives its number. -/
def request (connection : Connection) : Except AnalyzerError (Connection × Nat) :=
  if connection.alive then
    let (next, id) := connection.takeNumber
    .ok (next.enter id, id)
  else .error .unavailable

/-- A request that is no longer pending. -/
def settle (connection : Connection) (id : Nat) : Connection :=
  { connection with pending := connection.pending.filter (· ≠ id) }

/-- The number of a pending request that a value names. -/
def pendingId? (connection : Connection) (id : Json) : Option Nat :=
  (id.natBelow? wordSize63).filter connection.pending.contains

/-- Handles an incoming message. -/
def dispatch (connection : Connection) (message : Json) : Connection × List Effect :=
  match message.get? "id", (message.get? "method").bind Json.string? with
  | some id, some method => (connection, [.reply (reply id method (message.get? "params"))])
  | some id, none =>
    match connection.pendingId? id with
    | some number => (connection.settle number, [.outcome number (responseResult message)])
    | none => (connection, [])
  | none, _ => (connection, [])

/-- Handles incoming messages one after another. -/
def dispatchAll (connection : Connection) : List Json → Connection × List Effect
  | [] => (connection, [])
  | message :: later =>
    let (next, effects) := connection.dispatch message
    let (last, more) := next.dispatchAll later
    (last, effects ++ more)

/-- The analysis is no longer available to new requests. -/
def stop (connection : Connection) : Connection := { connection with alive := false }

/-- Forgets the pending requests, which ends them, and what was not read. -/
def clear (connection : Connection) : Connection × List Effect :=
  ({ connection with pending := [], unread := [] },
    connection.pending.map fun id => .outcome id (.error .closed))

/-- Ends the reading: all pending requests are answered. -/
def finish (connection : Connection) : Connection × List Effect := connection.stop.clear

/-- Takes bytes from the analysis. `ended` tells that no more will come. -/
def receive (connection : Connection) (bytes : List UInt8) (ended : Bool) :
    Connection × List Effect :=
  if connection.alive then
    let stream := connection.unread ++ bytes
    let (next, effects) := connection.dispatchAll (Frame.values (Frame.readAll ended stream))
    match Frame.unread? ended stream with
    | some unread => ({ next with unread := unread }, effects)
    | none =>
      let (last, more) := next.finish
      (last, effects ++ more)
  else (connection, [])

end Connection

/-- What the answer to a request tells the caller. -/
inductive Answer
  | done
  | hover (body : Option Text)
  | typeDefinition (exists_ : Bool)
  deriving DecidableEq, Repr

namespace Call

/-- Starts a request: the connection, the number of the request and its message. -/
def start (call : Call) (connection : Connection) :
    Except AnalyzerError (Connection × Nat × Message) := do
  let (next, id) ← connection.request
  return (next, id, .call id call)

/-- Ends a request with its result: the notices that follow it and what the caller is told. The
handshake is confirmed, and a shutdown is followed by the exit whatever its result. -/
def conclude (call : Call) (connection : Connection) (result : Except AnalyzerError Json) :
    List Notice × Except AnalyzerError Answer :=
  match call with
  | .handshake _ _ =>
    match result with
    | .error fault => ([], .error fault)
    | .ok _ =>
      if connection.alive then ([.initialized], .ok .done)
      else ([], .error .unavailable)
  | .hover _ _ => ([], result.bind fun value => (hoverText value).map .hover)
  | .typeDefinition _ _ => ([], result.map fun value => .typeDefinition (namesDefinition value))
  | .shutdown => (if connection.alive then [.exit] else [], .ok .done)

end Call

/-- Sends a notification. -/
def Notice.send (notice : Notice) (connection : Connection) : Except AnalyzerError Message :=
  if connection.alive then .ok (.notice notice) else .error .unavailable

end FluentAssist.Analyzer
