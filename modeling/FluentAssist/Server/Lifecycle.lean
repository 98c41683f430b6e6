import FluentAssist.Files.Companion
import FluentAssist.Knowledge.Assets
import FluentAssist.Protocol.Capabilities
import FluentAssist.Protocol.Method
import FluentAssist.Server.Task
import FluentAssist.Settings.File

/-!
# The life of the server

An editor starts the server, works with it, shuts it down and lets it exit. Before the start every
request for a known method is refused, after the shutdown as well, and after the exit nothing is
answered any more.

A call is first accepted and then worked on. `Server.accept` checks that the call fits the phase of
the server and reads its parameters; shutdown and exit change the phase at that moment, whereas the
start does so only when it is worked on. `Server.work` does the work on an accepted call up to its
first wait.
-/

set_option autoImplicit false

namespace FluentAssist

open Protocol (Call Reply Method Reading Refusal StartParams CommandParams ChangedParams
  CompletionParams PlaceParams)

/-- The world around the server. -/
structure Host (m : Type → Type) where
  files : FileSystem m
  /-- The number of the server's process. -/
  processId : Nat
  /-- Starts a program with its arguments. -/
  spawn : List String → m (Except SpawnFault Unit)

/-- The world of a server whose files are a tree, where no program can be executed. -/
def FileTree.host (tree : FileTree) : Host Id where
  files := tree.files
  processId := 0
  spawn := fun command => .error (tree.startFault command)

/-- The work that a call was accepted to. -/
inductive Work
  /-- Nothing is left but to answer. -/
  | reply (reply : Reply)
  | start (params : StartParams)
  /-- An introduction that was not understood: the server counts as not started. -/
  | restart (reply : Reply)
  | ready
  | opened (document : Snapshot)
  | changed (params : ChangedParams)
  | closed (uri : Url)
  | configured (settings : Json)
  | completion (params : CompletionParams)
  | hover (place : PlaceParams)
  | command (params : CommandParams)
  | stop
  /-- The request with a mark is to be given up. -/
  | cancel (id : Json)

/-- Whether work is the start of the server. -/
def Work.isStart : Work → Bool
  | .start _ => true
  | .restart _ => true
  | _ => false

/-- What is decided about a call when it comes in. -/
inductive Acceptance
  /-- It is answered and not worked on. -/
  | answered (reply : Reply)
  | accepted (work : Work)
  /-- It lets the server exit. -/
  | exits

namespace Server

/-- Why a call does not fit the phase of the server. -/
def phaseRefusal? (phase : Phase) : Option Refusal :=
  match phase with
  | .fresh => some .notStarted
  | .started => none
  | .shutDown => some .invalidRequest
  | .exited => some .invalidRequest

/-- Reads the parameters of a call: the work on them, or the refusal of the call. -/
def workOn {α : Type} (call : Call) (reading : Reading α) (work : α → Work) : Work :=
  match call.params with
  | none => .reply (call.refuse (.invalidParams "Missing params field"))
  | some params =>
    match reading.read params with
    | .error mismatch => .reply (call.refuse (.invalidParams mismatch.message))
    | .ok value => work value

/-- The work on a call of a method that needs a started server. -/
def workFor (call : Call) : Method → Work
  | .ready => workOn call Protocol.readyReading fun _ => .ready
  | .opened => workOn call Protocol.openedReading .opened
  | .changed => workOn call Protocol.changedReading .changed
  | .closed => workOn call Protocol.closedReading .closed
  | .configured => workOn call Protocol.configuredReading .configured
  | .completion => workOn call Protocol.completionReading .completion
  | .hover => workOn call Protocol.hoverReading .hover
  | .command => workOn call Protocol.commandReading .command
  | .unofferedRequest shape =>
    workOn call ⟨shape, some⟩ fun _ => .reply (.refused .unknownMethod)
  | _ => .reply .silent

/-- The answer to a call that is a request for a mere notice, or the other way round. -/
def mismatchReply (call : Call) : Reply := call.refuse .invalidRequest

/-- Accepts the introduction of the editor. -/
def acceptStart (server : Server) (call : Call) : Acceptance :=
  if server.phase = .fresh then
    if call.isRequest then
      match workOn call Protocol.startReading .start with
      | .reply reply => .accepted (.restart reply)
      | work => .accepted work
    else .accepted (.restart .silent)
  else .answered (call.refuse .invalidRequest)

/-- Accepts the request to shut down; from then on other requests are refused, even if this one has
parameters and is refused itself. -/
def acceptShutdown (server : Server) (call : Call) : Server × Acceptance :=
  match phaseRefusal? server.phase with
  | some refusal => (server, .answered (call.refuse refusal))
  | none =>
    let work : Work :=
      if call.isRequest then
        match call.params with
        | some params =>
          .reply
            (.refused (.invalidParams ("Unexpected params: " ++ String.ofList params.compact)))
        | none => .stop
      else .reply .silent
    ({ server with phase := .shutDown }, .accepted work)

/-- Accepts the wish to give up a request. -/
def acceptCancel (call : Call) : Acceptance :=
  if call.isRequest then .answered (mismatchReply call)
  else
    match call.params.bind (·.get? "id") with
    | some id => .accepted (.cancel id)
    | none => .answered .silent

/-- Decides about a call when it comes in. -/
def accept (server : Server) (call : Call) : Server × Acceptance :=
  if server.phase = .exited then (server, .answered .gone)
  else
    match Method.ofName? call.method with
    | none =>
      (server, .answered
        (if Method.isPrivate call.method then .silent else call.refuse .unknownMethod))
    | some .exit => ({ server with phase := .exited }, .exits)
    | some .cancel => (server, acceptCancel call)
    | some .start => (server, server.acceptStart call)
    | some .shutdown => server.acceptShutdown call
    | some method =>
      match phaseRefusal? server.phase with
      | some refusal => (server, .answered (call.refuse refusal))
      | none =>
        if method.isAnswered = call.isRequest then (server, .accepted (workFor call method))
        else (server, .accepted (.reply (mismatchReply call)))

/-- The version of the server. -/
def version : String := "0.1.0"

section

variable {m : Type → Type} [Monad m]

/-- The settings after the start: those of the workspace replace the ones that the server was made
with, and the options of the editor are applied last. -/
def startSettings (files : FileSystem m) (settings : Settings) (root : Option Path)
    (options : Option Json) : m Settings := do
  let base ← match root with
    | some root =>
      if settings.server.workspaceDiscovery then Settings.discover files root else pure settings
    | none => pure settings
  return match options with
    | some options => base.applyClient options
    | none => base

/-- Starts the server for a workspace. -/
def start (files : FileSystem m) (server : Server) (params : StartParams) : m Server := do
  let root := params.workspace?.bind Url.toFilePath?
  let settings ← startSettings files server.settings root params.options
  let kb ← Assets.load files (← Assets.find files root.toList settings.searchPaths)
  let server := { server with phase := .started, settings := settings, kb := kb, root := root }
  return server.startSession none

/-- What the server tells the editor about itself. -/
def introduction (server : Server) : Json :=
  .obj [
    ("capabilities", Protocol.capabilities server.settings),
    ("serverInfo", .obj [("name", .str server.settings.server.name), ("version", .str version)])]

/-- Starts the type analysis and announces the server. -/
def ready (host : Host m) (server : Server) : m Turn := do
  if server.settings.analyzer.enabled then
    match server.settings.analyzer.command with
    | [] => return server.withoutAnalysis .unavailable
    | command =>
      match ← host.spawn command with
      | .error fault => return server.withoutAnalysis (.notStarted fault)
      | .ok () => return server.greet host.processId
  else return server.announce []

/-- Shows the companion of a file. -/
def switchFile (files : FileSystem m) (server : Server) (arguments : List Json) : m Turn := do
  let tell (severity : Protocol.Severity) (text : String) : Turn :=
    .done server (.result .null) [.toClient (.notify severity text)]
  match arguments.head?.bind Protocol.url? with
  | none => return tell .info "Open a Python/Vue/JS file first."
  | some uri =>
    match uri.toFilePath? with
    | none =>
      return .done server
        (.refused (.invalidParams ("Not a file URI: " ++ String.ofList uri.href)))
    | some path =>
      match ← Companion.find files path with
      | .ok found =>
        match Url.ofFilePath? found with
        | none => return .done server (.result .null)
        | some target =>
          return .done server (.result (.ofText target.href)) [.toClient (.showDocument target)]
      | .error (.notFound missing) =>
        return tell .warning (Companion.NavigationError.notFound missing).message
      | .error (.unsupported path) =>
        return tell .info (Companion.NavigationError.unsupported path).message

/-- Opens the preview of the configured address. -/
def openPreview (server : Server) : Turn :=
  match server.preview.openPanel server.settings.previewUrl.toList with
  | (preview, .ok action) => .done { server with preview := preview } (.result action.toJson)
  | (preview, .error fault) =>
    .done { server with preview := preview } (.result .null)
      [.toClient (.notify .error fault.message)]

/-- Closes the preview. -/
def disposePreview (server : Server) : Turn :=
  let (preview, wasOpen) := server.preview.dispose
  .done { server with preview := preview } (.result (.bool wasOpen))

/-- Runs a command. -/
def runCommand (files : FileSystem m) (server : Server) (params : CommandParams) : m Turn :=
  match Command.ofName? params.name with
  | some .switchFile => server.switchFile files params.arguments
  | some .openPreview => return server.openPreview
  | some .disposePreview => return server.disposePreview
  | none =>
    return .done server (.refused (.invalidParams ("Unknown command: " ++ params.name)))

/-- Works on an accepted call up to its first wait. -/
def work (host : Host m) (server : Server) : Work → m Turn
  | .reply reply => return .done server reply
  | .start params => do
    let server ← server.start host.files params
    return .done server (.result server.introduction)
  | .restart reply => return .done { server with phase := .fresh } reply
  | .ready => server.ready host
  | .opened document => return server.didOpen document
  | .changed params =>
    return match params.document? with
      | some document => server.didChange document
      | none => .done server .silent
  | .closed uri => return server.didClose uri
  | .configured settings => return .done (server.didConfigure settings) .silent
  | .completion params => return server.completion params
  | .hover place => return server.hover place
  | .command params => server.runCommand host.files params
  | .stop => return server.stop
  | .cancel _ => return .done server .silent

end

end Server

end FluentAssist
