import FluentAssist.Analyzer.Connection
import FluentAssist.Documents
import FluentAssist.Knowledge.Base
import FluentAssist.Preview
import FluentAssist.Protocol.Message
import FluentAssist.Resolution.Resolver
import FluentAssist.Settings.Basic

/-!
# The state of the server

A server holds its settings, the knowledge base, the open documents and the requests that are
current for them. It talks to the type analysis over connections; a session is a resolver with the
connection that it asks. A new session starts with a new analysis, and lookups that are under way
stay with their session, so earlier sessions and connections are kept under their numbers.

`Server.lookup` starts a lookup in the current session, `Server.receiveAnswer` goes on with an
answer of the analysis, and `Server.abandon` gives a lookup up. Each of them ends with the class or
with a query that waits for the analysis.
-/

set_option autoImplicit false

namespace FluentAssist

/-- How far the conversation with the editor is. -/
inductive Phase
  | fresh
  | started
  | shutDown
  | exited
  deriving DecidableEq, Repr

/-- A resolver and the connection that it asks. -/
structure Session where
  settings : Resolver.Settings := {}
  memory : Resolver := Resolver.empty Resolver.defaultCapacity
  connection : Option Nat := none

/-- The state of the server. -/
structure Server where
  phase : Phase := .fresh
  settings : Settings := {}
  kb : KnowledgeBase := {}
  /-- The directory of the workspace. -/
  root : Option Path := none
  documents : Documents := {}
  /-- The current completion request of every document. -/
  completions : Supersession := {}
  /-- The current hover request of every document. -/
  hovers : Supersession := {}
  preview : Preview := {}
  /-- All connections, by their numbers. -/
  connections : List Analyzer.Connection := []
  /-- All sessions, by their numbers; the last one is current. -/
  sessions : List Session := [{}]
  /-- Whether unsuccessful lookups are traced. -/
  traces : Bool := false

/-- A message that the server sends. -/
inductive Outgoing
  | toAnalyzer (connection : Nat) (message : Analyzer.Message)
  | toClient (message : Protocol.ClientMessage)

/-- A lookup that waits for the answer to a request with a number on a connection. -/
structure Query where
  session : Nat
  connection : Nat
  id : Nat
  call : Analyzer.Call
  progress : LookupProgress

/-- How a lookup of the server stands. -/
inductive LookupState
  | found (className : Option String)
  | waiting (query : Query)

/-- A step of a lookup. -/
structure LookupTurn where
  server : Server
  sent : List Outgoing
  state : LookupState

/-- What a lookup asks the analysis. -/
def LookupProgress.call? : LookupProgress → Option Analyzer.Call
  | .finished _ => none
  | .asking request _ stage _ => some (.hover request.document.uri (request.position stage))
  | .tracing request _ =>
    some (.typeDefinition request.document.uri request.definitionPosition)

/-- The class that a lookup ended with. -/
def LookupProgress.result : LookupProgress → Option String
  | .finished className => className
  | _ => none

/-- A lookup that asks something is not finished. -/
theorem LookupProgress.openQuestions_pos_of_call? {progress : LookupProgress}
    {call : Analyzer.Call} (hcall : progress.call? = some call) : 0 < progress.openQuestions := by
  cases progress with
  | finished className => simp [LookupProgress.call?] at hcall
  | asking request failed stage later => simp [LookupProgress.openQuestions]
  | tracing request failed => simp [LookupProgress.openQuestions]

/-- What an answer of the analysis says about a question. -/
def HoverAnswer.of : Except AnalyzerError Analyzer.Answer → HoverAnswer
  | .ok (.hover body) => .known body
  | .ok _ => .known none
  | .error _ => .failed

/-- Whether an address is that of a script. -/
def Url.isScript (url : Url) : Bool := ".py".toList.isSuffixOf url.pathText

namespace Server

/-- The number of the current session. -/
def current (server : Server) : Nat := server.sessions.length - 1

/-- The session with a number. -/
def session (server : Server) (number : Nat) : Session := server.sessions.getD number {}

/-- The connection with a number; a number that is not in use stands for a closed one. -/
def connection (server : Server) (number : Nat) : Analyzer.Connection :=
  server.connections.getD number { alive := false }

/-- Replaces a connection. -/
def setConnection (server : Server) (number : Nat) (connection : Analyzer.Connection) : Server :=
  { server with connections := server.connections.set number connection }

/-- Replaces what a session remembers. -/
def setMemory (server : Server) (number : Nat) (memory : Resolver) : Server :=
  { server with
    sessions := server.sessions.modify number fun session => { session with memory := memory } }

/-- Starts a session with an empty memory. -/
def startSession (server : Server) (connection : Option Nat) : Server :=
  let session : Session :=
    ⟨⟨server.kb.classMap.entries, server.traces⟩,
      Resolver.empty server.settings.completion.cacheCapacity, connection⟩
  { server with sessions := server.sessions ++ [session] }

/-- The connection of the current session. -/
def analyzer? (server : Server) : Option Nat := (server.session server.current).connection

/-- Whether the analysis of a session is available. -/
def isAvailable (server : Server) (number : Nat) : Bool :=
  match (server.session number).connection with
  | some connection => (server.connection connection).alive
  | none => false

/-- Starts a request of a session: its connection, its number and its message. -/
def request? (server : Server) (number : Nat) (call : Analyzer.Call) :
    Option (Server × Nat × Nat × Analyzer.Message) := do
  let place ← (server.session number).connection
  match call.start (server.connection place) with
  | .ok (connection, id, message) =>
    some (server.setConnection place connection, place, id, message)
  | .error _ => none

/-- Asks what a lookup wants to know. If the analysis is gone, the question counts as not
answered. -/
def ask (server : Server) (number : Nat) (cancelled : Bool) (progress : LookupProgress) :
    LookupTurn :=
  match _hcall : progress.call? with
  | none => ⟨server, [], .found progress.result⟩
  | some call =>
    match server.request? number call with
    | some (next, connection, id, message) =>
      ⟨next, [.toAnalyzer connection message], .waiting ⟨number, connection, id, call, progress⟩⟩
    | none =>
      let session := server.session number
      let next := Resolver.receive session.settings cancelled session.memory progress .failed
      ask (server.setMemory number next.1) number cancelled next.2
termination_by progress.openQuestions
decreasing_by
  exact Resolver.openQuestions_receive_lt _ _ _ _ _
    (LookupProgress.openQuestions_pos_of_call? _hcall)

/-- Starts a lookup in the current session. -/
def lookup (server : Server) (cancelled : Bool) (request : LookupRequest) : LookupTurn :=
  let number := server.current
  let session := server.session number
  let next := Resolver.lookup session.settings (server.isAvailable number) cancelled session.memory
    request
  ask (server.setMemory number next.1) number cancelled next.2

/-- Goes on with the answer to a query. -/
def receiveAnswer (server : Server) (cancelled : Bool) (query : Query)
    (result : Except AnalyzerError Json) : LookupTurn :=
  let session := server.session query.session
  let answer := HoverAnswer.of (query.call.conclude (server.connection query.connection) result).2
  let next := Resolver.receive session.settings cancelled session.memory query.progress answer
  ask (server.setMemory query.session next.1) query.session cancelled next.2

/-- Gives up a request to the analysis. -/
def abandon (server : Server) (connection id : Nat) : Server :=
  server.setConnection connection ((server.connection connection).settle id)

/-- The message of a notice to an analysis, unless it is gone. -/
def tell (server : Server) (place : Nat) (notice : Analyzer.Notice) : List Outgoing :=
  match notice.send (server.connection place) with
  | .ok message => [.toAnalyzer place message]
  | .error _ => []

/-- The messages that tell the analysis of the current session about a document. Only scripts are
told, and only while the analysis is available. -/
def forward (server : Server) (uri : Url) (notice : Analyzer.Notice) : List Outgoing :=
  match server.analyzer? with
  | none => []
  | some place => if uri.isScript then server.tell place notice else []

end Server

end FluentAssist
