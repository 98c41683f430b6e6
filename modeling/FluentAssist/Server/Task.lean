import FluentAssist.Completion.Assemble
import FluentAssist.Hover
import FluentAssist.Protocol.Convert
import FluentAssist.Protocol.Params
import FluentAssist.Server.Basic
import FluentAssist.Settings.Client

/-!
# What the server does with documents and requests

The work on a call goes on until it is done or has to wait. Work that waits is a `Task`: it waits
for an answer of the type analysis, or it has just sent a message and lets others have their turn.
Between two turns of a task other work may change the server.

- A completion or hover request for a document supersedes the earlier one for that document, and
  closing the document cancels both. A cancelled completion answers with nothing.
- Documents are told to the analysis before they are stored, and closed before the analysis is told.
- When the analysis has answered the handshake, the open scripts are told to it one after another,
  and only then a session with it starts.
-/

set_option autoImplicit false

namespace FluentAssist

open Protocol (Reply ClientMessage CompletionParams PlaceParams)

/-- Work that waits. -/
inductive Task
  /-- The analysis was started and has to answer the handshake. -/
  | handshake (connection : Nat) (id : Nat) (call : Analyzer.Call)
  /-- Documents are still to be told to a new analysis. -/
  | replaying (connection : Nat) (left : List Snapshot)
  /-- The analysis was told of a document that is to be opened. -/
  | opening (document : Snapshot)
  /-- The analysis was told of a document that is to be changed. -/
  | changing (document : Snapshot)
  | completing (signal : CancelSignal) (text : Text) (context : Context) (query : Query)
  | hovering (signal : CancelSignal) (text : Text) (context : Context) (query : Query)
  /-- The analysis has to answer that it shuts down. -/
  | stopping (connection : Nat) (id : Nat)

/-- What becomes of the work after a turn. -/
inductive Next
  | done (reply : Reply)
  | later (task : Task)

/-- A turn of the work on a call. -/
structure Turn where
  server : Server
  sent : List Outgoing := []
  next : Next

/-- Work that is done. -/
def Turn.done (server : Server) (reply : Reply) (sent : List Outgoing := []) : Turn :=
  ⟨server, sent, .done reply⟩

namespace Task

/-- The request to the analysis that a task waits for: its connection and its number. A task that
waits for none goes on by itself. -/
def waitsFor? : Task → Option (Nat × Nat)
  | .handshake connection id _ => some (connection, id)
  | .completing _ _ _ query => some (query.connection, query.id)
  | .hovering _ _ _ query => some (query.connection, query.id)
  | .stopping connection id => some (connection, id)
  | .replaying _ _ => none
  | .opening _ => none
  | .changing _ => none

/-- The turns that a task takes before it waits for the analysis or is done. -/
def turns : Task → Nat
  | .replaying _ left => left.length + 1
  | .opening _ => 1
  | .changing _ => 1
  | _ => 0

/-- Whether a task was superseded and can end. -/
def isCancelled (task : Task) (server : Server) : Bool :=
  match task with
  | .completing signal _ _ _ => signal.isReady server.completions
  | .hovering signal _ _ _ => signal.isReady server.hovers
  | _ => false

end Task

namespace Server

/-- The items of completion candidates. -/
def completionItems (text : Text) (candidates : List Candidate) : Json :=
  .arr (candidates.map (Protocol.completionItem text))

/-- The answer to a completion request once the class is known. -/
def completionReply (server : Server) (signal : CancelSignal) (text : Text) (context : Context)
    (className : Option String) : Reply :=
  .result (if signal.isCancelled server.completions then .null
    else completionItems text (Completion.assemble server.kb context className))

/-- The answer to a hover request once the class is known. -/
def hoverReply (server : Server) (text : Text) (context : Context) (className : Option String) :
    Reply :=
  .result (.ofOption (Protocol.hover text) (Hover.at? server.kb context className))

/-- Goes on with a completion request after a step of its lookup. -/
def afterCompletionLookup (signal : CancelSignal) (text : Text) (context : Context)
    (turn : LookupTurn) : Turn :=
  match turn.state with
  | .found className =>
    .done turn.server (turn.server.completionReply signal text context className) turn.sent
  | .waiting query => ⟨turn.server, turn.sent, .later (.completing signal text context query)⟩

/-- Goes on with a hover request after a step of its lookup. -/
def afterHoverLookup (signal : CancelSignal) (text : Text) (context : Context)
    (turn : LookupTurn) : Turn :=
  match turn.state with
  | .found className =>
    .done turn.server (turn.server.hoverReply text context className) turn.sent
  | .waiting query => ⟨turn.server, turn.sent, .later (.hovering signal text context query)⟩

/-- Completes in a context. Only attributes depend on the class of the element. -/
def completeIn (server : Server) (signal : CancelSignal) (document : Snapshot)
    (context : Context) : Turn :=
  match context.kind.attributeKind? with
  | none => .done server (server.completionReply signal document.text context none)
  | some _ =>
    afterCompletionLookup signal document.text context
      (server.lookup (signal.isCancelled server.completions)
        ⟨document, context.kind, context.matchStart⟩)

/-- Completes at an offset of a document. -/
def completeAt (server : Server) (signal : CancelSignal) (document : Snapshot) (offset : Nat) :
    Turn :=
  match Cursor.uiFunction? document.text offset with
  | some ui =>
    .done server (.result (completionItems document.text (Completion.uiFunctions server.kb ui)))
  | none =>
    match Cursor.classify document.text offset server.settings.completion.lookback with
    | .error _ => .done server (.refused .internal)
    | .ok none => .done server (.result .null)
    | .ok (some context) => server.completeIn signal document context

/-- Serves a completion request. Only open scripts are completed, and only after triggers that are
accepted. -/
def completion (server : Server) (params : CompletionParams) : Turn :=
  let uri := params.place.uri
  if uri.isScript && server.settings.acceptsTrigger params.trigger then
    match server.documents.snapshot? uri with
    | none => .done server (.result .null)
    | some document =>
      let (completions, signal) := server.completions.start uri
      completeAt { server with completions := completions } signal document
        (Text.offsetAt document.text params.place.position)
  else .done server (.result .null)

/-- Explains the word of a context. Only attributes depend on the class of the element. -/
def hoverIn (server : Server) (document : Snapshot) (context : Context) : Turn :=
  if context.word.isEmpty then .done server (.result .null)
  else
    match context.kind.attributeKind? with
    | none => .done server (server.hoverReply document.text context none)
    | some _ =>
      let (hovers, signal) := server.hovers.start document.uri
      let server := { server with hovers := hovers }
      afterHoverLookup signal document.text context
        (server.lookup (signal.isCancelled hovers) ⟨document, context.kind, context.matchStart⟩)

/-- Explains what was found at a place of a document. -/
def hoverFound (server : Server) (document : Snapshot) :
    Except WindowFault (Option Context) → Turn
  | .error _ => .done server (.refused .internal)
  | .ok none => .done server (.result .null)
  | .ok (some context) => server.hoverIn document context

/-- Serves a hover request. Only open scripts have hover texts. -/
def hover (server : Server) (params : PlaceParams) : Turn :=
  if params.uri.isScript then
    match server.documents.snapshot? params.uri with
    | none => .done server (.result .null)
    | some document =>
      server.hoverFound document
        (Cursor.classify document.text (Text.offsetAt document.text params.position)
          server.settings.completion.lookback)
  else .done server (.result .null)

/-- Stores a document that was opened. -/
def store (server : Server) (document : Snapshot) : Server :=
  { server with documents := server.documents.openDocument document }

/-- Stores the change of an open document. -/
def storeChange (server : Server) (document : Snapshot) : Server :=
  { server with documents := server.documents.update document }

/-- Handles the opening of a document. If the analysis is told of it, others have their turn
first. -/
def didOpen (server : Server) (document : Snapshot) : Turn :=
  match server.forward document.uri (.opened document) with
  | [] => .done (server.store document) .silent
  | sent => ⟨server, sent, .later (.opening document)⟩

/-- Handles the change of a document. If the analysis is told of it, others have their turn
first. -/
def didChange (server : Server) (document : Snapshot) : Turn :=
  match server.forward document.uri (.changed document) with
  | [] => .done (server.storeChange document) .silent
  | sent => ⟨server, sent, .later (.changing document)⟩

/-- Handles the closing of a document: its requests are cancelled. -/
def didClose (server : Server) (uri : Url) : Turn :=
  let server : Server := { server with
    documents := server.documents.close uri
    completions := server.completions.forget uri
    hovers := server.hovers.forget uri }
  .done server .silent (server.forward uri (.closed uri))

/-- Handles new settings of the editor; they may be in a section of their own. -/
def didConfigure (server : Server) (settings : Json) : Server :=
  { server with
    settings := server.settings.applyClient ((settings.get? "nicegui").getD settings) }

/-- Tells the editor that the server is ready. -/
def announce (server : Server) (sent : List Outgoing) : Turn :=
  let message := ClientMessage.log .info (server.settings.server.name ++ " ready")
  .done server .silent (sent ++ [.toClient message])

/-- Tells the editor that there is no type analysis. -/
def withoutAnalysis (server : Server) (fault : AnalyzerError) : Turn :=
  let text := "Type analysis unavailable (" ++ fault.message ++ "); completions use generic lists"
  server.announce [.toClient (.log .warning text)]

/-- Tells a new analysis of documents up to the first that it can be told of, then lets others have
their turn. When none is left, a session with the analysis starts. -/
def replay (server : Server) (connection : Nat) : List Snapshot → List Outgoing → Turn
  | [], sent => (server.startSession (some connection)).announce sent
  | document :: left, sent =>
    match server.tell connection (.opened document) with
    | [] => replay server connection left sent
    | message => ⟨server, sent ++ message, .later (.replaying connection left)⟩

/-- The open scripts. -/
def openScripts (server : Server) : List Snapshot :=
  server.documents.entries.filter (·.uri.isScript)

/-- Goes on when the analysis has answered the handshake. -/
def afterHandshake (server : Server) (connection : Nat) (call : Analyzer.Call)
    (result : Except AnalyzerError Json) : Turn :=
  match call.conclude (server.connection connection) result with
  | (_, .error fault) => server.withoutAnalysis fault
  | (notices, .ok _) =>
    server.replay connection server.openScripts
      (notices.map fun notice => .toAnalyzer connection (.notice notice))

/-- Starts the conversation with an analysis that was just started. -/
def greet (server : Server) (processId : Nat) : Turn :=
  let place := server.connections.length
  let call := Analyzer.Call.handshake processId (server.root.bind Url.ofDirectoryPath?)
  let server := { server with connections := server.connections ++ [({} : Analyzer.Connection)] }
  match call.start (server.connection place) with
  | .error fault => server.withoutAnalysis fault
  | .ok (connection, id, message) =>
    ⟨server.setConnection place connection, [.toAnalyzer place message],
      .later (.handshake place id call)⟩

/-- Asks the analysis to shut down, if there is one. -/
def stop (server : Server) : Turn :=
  match server.request? server.current .shutdown with
  | none => .done server (.result .null)
  | some (server, connection, id, message) =>
    ⟨server, [.toAnalyzer connection message], .later (.stopping connection id)⟩

/-- Goes on with a task that waits for no answer. -/
def proceed (server : Server) : Task → Turn
  | .opening document => .done (server.store document) .silent
  | .changing document => .done (server.storeChange document) .silent
  | .replaying connection left => server.replay connection left []
  | task => ⟨server, [], .later task⟩

/-- Goes on with a task whose answer has come. -/
def answer (server : Server) (task : Task) (result : Except AnalyzerError Json) : Turn :=
  match task with
  | .handshake connection _ call => server.afterHandshake connection call result
  | .completing signal text context query =>
    afterCompletionLookup signal text context
      (server.receiveAnswer (signal.isCancelled server.completions) query result)
  | .hovering signal text context query =>
    afterHoverLookup signal text context
      (server.receiveAnswer (signal.isCancelled server.hovers) query result)
  | .stopping connection _ =>
    let (notices, _) := Analyzer.Call.shutdown.conclude (server.connection connection) result
    .done server (.result .null)
      (notices.map fun notice => .toAnalyzer connection (.notice notice))
  | task => ⟨server, [], .later task⟩

/-- Ends a task that was superseded; what it asked is given up. -/
def cancel (server : Server) : Task → Turn
  | .completing signal text context query =>
    let server := server.abandon query.connection query.id
    .done server (server.completionReply signal text context none)
  | .hovering _ text context query =>
    let server := server.abandon query.connection query.id
    .done server (server.hoverReply text context none)
  | task => ⟨server, [], .later task⟩

end Server

end FluentAssist
