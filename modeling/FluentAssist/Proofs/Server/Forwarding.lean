import FluentAssist.Proofs.Server.Interleaving
import FluentAssist.Proofs.Server.Stages

/-!
# Documents and the analysis

The server forwards what happens to scripts to its analysis. A document is told before it is stored,
and it is closed before the closing is told; a new analysis is told of the open scripts one after
another, and its session starts only then. In between others have their turn, so the documents of
the server and those of the analysis may part.

They agree in the end if the run is calm (`Scheduler.isCalm`): the analysis is started once and
stays alive; no script is opened, changed or closed while a new analysis is being told of the open
ones; none is closed while its opening waits; the versions of a document are stored in the order in
which they were told; and an analysis that takes the change of a closed document for an opening is
told of changes of open documents only. `analysis_differs_from_server` has a run without the second
of these conditions, one without the third and one without the last.

The invariant is that the scheduler is in a stage (`Scheduler.Tracks`): what the analysis holds is
what the server holds, up to the tasks that wait.
-/

set_option autoImplicit false

namespace FluentAssist

open Protocol (Reply ChangedParams)
open Analyzer (Notice)

/-- What an analysis holds of the documents after a message. -/
def Outgoing.heard (lenient : Bool) (place : Nat) (held : Url → Option Snapshot) :
    Outgoing → Url → Option Snapshot
  | .toAnalyzer other (.notice notice) =>
    if other = place then Notice.applied lenient held notice else held
  | _ => held

namespace Scheduler

/-- The tasks that have to do with documents. -/
def documentary (scheduler : Scheduler) : List Task :=
  (scheduler.running.map (·.task)).filter Task.isDocumentary

/-- What an analysis holds of the documents if it applies all that it was told. -/
def heldBy (scheduler : Scheduler) (lenient : Bool) (place : Nat) : Url → Option Snapshot :=
  scheduler.sent.foldl (Outgoing.heard lenient place) fun _ => none

/-- Whether a new analysis is being told of the open scripts. -/
def isReplaying (scheduler : Scheduler) : Bool := scheduler.documentary.any Task.isReplay

/-- Whether the opening of a document waits to be stored. -/
def isOpening (scheduler : Scheduler) (uri : Url) : Bool :=
  scheduler.documentary.any (Task.opens uri)

/-- Whether no other task waits that was to store the same document before. -/
def isNext (scheduler : Scheduler) (ticket : Nat) : Bool :=
  match (scheduler.task? ticket).bind Task.subject? with
  | none => true
  | some uri =>
    (scheduler.running.find? (·.task.subject? = some uri)).map (·.ticket) = some ticket

/-- Whether an event keeps the server and its analysis together. -/
def isCalm (lenient : Bool) (scheduler : Scheduler) : SchedulerEvent → Bool
  | .arrives _ (.start _) => false
  | .arrives _ .ready => scheduler.server.connections.isEmpty
  | .arrives _ (.opened document) => !document.uri.isScript || !scheduler.isReplaying
  | .arrives _ (.changed params) =>
    !params.uri.isScript || !scheduler.isReplaying && (!lenient ||
      (scheduler.server.documents.snapshot? params.uri).isSome || scheduler.isOpening params.uri)
  | .arrives _ (.closed uri) => !uri.isScript || !scheduler.isReplaying && !scheduler.isOpening uri
  | .arrives _ _ => true
  | .resumes ticket _ => scheduler.isNext ticket
  | .hears _ connection => connection.alive

/-- Whether all events of a run keep the server and its analysis together. -/
def isCalmRun (lenient : Bool) : Scheduler → List SchedulerEvent → Bool
  | _, [] => true
  | scheduler, event :: later =>
    scheduler.isCalm lenient event && isCalmRun lenient (scheduler.step event) later

end Scheduler

/-! ## What the server does -/

namespace Server

variable {server : Server}

/-- Without an analysis nothing is forwarded. -/
theorem forward_of_none (hanalyzer : server.analyzer? = none) (uri : Url) (notice : Notice) :
    server.forward uri notice = [] := by
  unfold forward
  rw [hanalyzer]

/-- Nothing is forwarded about a document that is no script. -/
theorem forward_of_not_isScript {uri : Url} (hscript : uri.isScript = false) (notice : Notice) :
    server.forward uri notice = [] := by
  unfold forward
  rw [hscript]
  cases server.analyzer? <;> rfl

/-- The analysis that is alive, read off all connections. -/
theorem alive_of_eq (halive : server.connections.map (·.alive) = [true]) :
    (server.connection 0).alive = true := by
  rw [alive_eq, halive]
  rfl

/-- A notice about a script is forwarded to the analysis that is alive. -/
theorem forward_of_installed (hanalyzer : server.analyzer? = some 0)
    (halive : server.connections.map (·.alive) = [true]) {uri : Url}
    (hscript : uri.isScript = true) (notice : Notice) :
    server.forward uri notice = [.toAnalyzer 0 (.notice notice)] := by
  have hlive : server.Live 0 := ⟨hanalyzer, alive_of_eq halive⟩
  rw [hlive.forward, if_pos hscript]

/-- A new session is the current one. -/
theorem analyzer?_startSession (server : Server) (connection : Option Nat) :
    (server.startSession connection).analyzer? = connection := by
  rw [analyzer?_eq]
  unfold startSession
  simp

/-- Sending messages that are not about documents is quiet. -/
theorem quiet_announce (server : Server) {sent : List Outgoing}
    (hnews : ∀ message ∈ sent, message.isNews = false) :
    Turn.Quiet server (server.announce sent) := by
  apply quiet_done (alike_refl server)
  intro message hmem
  rcases List.mem_append.mp hmem with hold | hnew
  · exact hnews message hold
  · rw [List.mem_singleton.mp hnew]
    rfl

/-- Going on without an analysis is quiet. -/
theorem quiet_withoutAnalysis (server : Server) (fault : AnalyzerError) :
    Turn.Quiet server (server.withoutAnalysis fault) := by
  apply quiet_announce
  intro message hmem
  rw [List.mem_singleton.mp hmem]
  rfl

/-- When the editor is ready, the analysis is greeted, or nothing happens to documents. -/
theorem ready_cases (server : Server) (host : Host Id) :
    Turn.Quiet server (Id.run (server.ready host)) ∨
      Id.run (server.ready host) = server.greet host.processId := by
  unfold ready
  split
  · split
    · exact Or.inl (quiet_withoutAnalysis server _)
    · simp only [bind, pure, Id.run]
      split
      · exact Or.inl (quiet_withoutAnalysis server _)
      · exact Or.inr rfl
  · exact Or.inl (quiet_announce server (by simp))

/-- The first analysis is greeted. -/
theorem greet_eq (hfirst : server.connections = []) (processId : Nat) :
    ∃ id call, server.greet processId =
      ⟨{ server with connections := [({} : Analyzer.Connection).takeNumber.1.enter id] },
        [.toAnalyzer 0 (.call id call)], .later (.handshake 0 id call)⟩ := by
  unfold greet
  rw [hfirst]
  exact ⟨_, _, rfl⟩

/-- After the handshake the server goes on without an analysis, or tells it of the open scripts. -/
theorem afterHandshake_cases (server : Server) (place : Nat) (call : Analyzer.Call)
    (result : Except AnalyzerError Json) :
    (∃ fault, server.afterHandshake place call result = server.withoutAnalysis fault) ∨
    ∃ sent, (∀ message ∈ sent, message.isNews = false) ∧
      server.afterHandshake place call result = server.replay place server.openScripts sent := by
  have hnews : ∀ notice ∈ (call.conclude (server.connection place) result).1,
      notice.isNews = false := fun notice hmem => isNews_conclude hmem
  unfold afterHandshake
  split
  · exact Or.inl ⟨_, rfl⟩
  · rename_i notices answer hconclude
    rw [hconclude] at hnews
    refine Or.inr ⟨_, ?_, rfl⟩
    intro message hmem
    obtain ⟨notice, hnotice, rfl⟩ := List.mem_map.mp hmem
    exact hnews notice hnotice

end Server

/-- An analysis that hears nothing about documents holds what it held. -/
theorem Outgoing.foldl_heard_of_not_news (lenient : Bool) (place : Nat)
    (held : Url → Option Snapshot) {sent : List Outgoing}
    (hnews : ∀ message ∈ sent, message.isNews = false) :
    sent.foldl (Outgoing.heard lenient place) held = held := by
  induction sent with
  | nil => rfl
  | cons message later ih =>
    have hfirst : message.heard lenient place held = held := by
      have hmessage := hnews message List.mem_cons_self
      unfold Outgoing.heard
      split
      · split
        · exact Notice.applied_of_not_isNews hmessage
        · rfl
      · rfl
    rw [List.foldl_cons, hfirst]
    exact ih fun message hmem => hnews message (List.mem_cons_of_mem _ hmem)

/-! ## The invariant -/

namespace Scheduler

open Server

/-- The server and the analysis are together. -/
structure Tracks (lenient : Bool) (scheduler : Scheduler) : Prop where
  unique : scheduler.server.documents.Unique
  stage : Stage scheduler.server.documents.scripts (scheduler.heldBy lenient 0)
    scheduler.server.analyzer? (scheduler.server.connections.map (·.alive)) scheduler.documentary

variable {lenient : Bool} {scheduler : Scheduler} {ticket : Nat} {turn : Turn} {task : Task}

/-- A turn adds the task that it leaves to those that have to do with documents, if it is one. -/
theorem documentary_absorb (scheduler : Scheduler) (ticket : Nat) (turn : Turn) :
    (scheduler.absorb ticket turn).documentary =
      scheduler.documentary ++ turn.next.task?.toList.filter Task.isDocumentary := by
  unfold documentary absorb
  dsimp only
  rw [List.map_append, List.filter_append, List.map_map]
  congr 2
  exact List.map_id' _

/-- After a turn an analysis holds what the messages of the turn make of what it held. -/
theorem heldBy_absorb (scheduler : Scheduler) (ticket : Nat) (turn : Turn) (place : Nat) :
    (scheduler.absorb ticket turn).heldBy lenient place =
      turn.sent.foldl (Outgoing.heard lenient place) (scheduler.heldBy lenient place) :=
  List.foldl_append

/-- A turn leaves the server and the analysis together. -/
theorem tracks_absorb (hunique : turn.server.documents.Unique)
    (hstage : Stage turn.server.documents.scripts
      (turn.sent.foldl (Outgoing.heard lenient 0) (scheduler.heldBy lenient 0))
      turn.server.analyzer? (turn.server.connections.map (·.alive))
      (scheduler.documentary ++ turn.next.task?.toList.filter Task.isDocumentary)) :
    (scheduler.absorb ticket turn).Tracks lenient := by
  refine ⟨hunique, ?_⟩
  rw [documentary_absorb, heldBy_absorb]
  exact hstage

/-- Quiet turns do not matter. -/
theorem Tracks.absorb_quiet (htracks : scheduler.Tracks lenient)
    (hquiet : Turn.Quiet scheduler.server turn) :
    (scheduler.absorb ticket turn).Tracks lenient := by
  have hnone : turn.next.task?.toList.filter Task.isDocumentary = [] := by
    cases hnext : turn.next with
    | done reply => rfl
    | later task => simp [Next.task?, hquiet.next task hnext]
  apply tracks_absorb
  · rw [hquiet.alike.documents]
    exact htracks.unique
  · rw [Outgoing.foldl_heard_of_not_news lenient 0 _ hquiet.news, hquiet.alike.documents,
      hquiet.alike.analyzer?, hquiet.alike.connections, hnone, List.append_nil]
    exact htracks.stage

/-- Documents are stored, and nobody is told. -/
theorem tracks_documents {next : Documents} (hunique : next.Unique)
    (hstage : Stage next.scripts (scheduler.heldBy lenient 0) scheduler.server.analyzer?
      (scheduler.server.connections.map (·.alive)) scheduler.documentary) :
    (scheduler.absorb ticket (.done { scheduler.server with documents := next } .silent)).Tracks
      lenient := by
  apply tracks_absorb hunique
  rw [Turn.done, Next.task?, Option.toList_none, List.filter_nil, List.append_nil]
  exact hstage

/-- A document is told to the analysis, if there is one, and else stored at once. -/
theorem Tracks.absorb_forward (htracks : scheduler.Tracks lenient) (notice : Notice) {uri : Url}
    (huri : notice.uri? = some uri) (task : Task) (hnotice : task.notice? = some notice)
    {next : Documents} (hunique : next.Unique)
    (hnext : ∀ other, next.snapshot? other = if other = uri
      then notice.leaves false (scheduler.server.documents.snapshot? uri)
      else scheduler.server.documents.snapshot? other)
    (hreplay : uri.isScript = true → scheduler.isReplaying = false)
    (hsame : uri.isScript = true → scheduler.server.analyzer? = some 0 →
      Notice.applied lenient (scheduler.heldBy lenient 0) notice =
        Notice.applied false (scheduler.heldBy lenient 0) notice)
    (hturn : (scheduler.server.forward uri notice = [] ∧
        turn = .done { scheduler.server with documents := next } .silent) ∨
      scheduler.server.forward uri notice ≠ [] ∧
        turn = ⟨scheduler.server, scheduler.server.forward uri notice, .later task⟩) :
    (scheduler.absorb ticket turn).Tracks lenient := by
  cases hscript : uri.isScript with
  | false =>
    obtain ⟨-, rfl⟩ | ⟨hforward, -⟩ := hturn
    · apply tracks_documents hunique
      rw [Documents.scripts_eq_of_not_isScript uri hscript hnext]
      exact htracks.stage
    · exact absurd (forward_of_not_isScript hscript notice) hforward
  | true =>
    cases hanalyzer : scheduler.server.analyzer? with
    | none =>
      obtain ⟨-, rfl⟩ | ⟨hforward, -⟩ := hturn
      · exact tracks_documents hunique
          (htracks.stage.rescript hanalyzer (hreplay hscript) next.scripts)
      · exact absurd (forward_of_none hanalyzer uri notice) hforward
    | some place =>
      obtain ⟨rfl, halive, -, -⟩ := htracks.stage.eq_of_some hanalyzer
      have hforward := forward_of_installed hanalyzer halive hscript notice
      obtain ⟨hnone, -⟩ | ⟨-, rfl⟩ := hturn
      · rw [hforward] at hnone
        cases hnone
      · have hdocumentary := Task.isDocumentary_of_notice? hnotice
        apply tracks_absorb htracks.unique
        dsimp only [Next.task?]
        rw [hforward, Option.toList_some, List.filter_cons_of_pos hdocumentary, List.filter_nil,
          List.foldl_cons, List.foldl_nil]
        change Stage _ (Notice.applied lenient (scheduler.heldBy lenient 0) notice) _ _ _
        rw [hsame hscript hanalyzer]
        exact htracks.stage.told hanalyzer hnotice huri hscript

/-- Opening a document, outside of a replay, leaves the server and the analysis together. -/
theorem Tracks.didOpen (htracks : scheduler.Tracks lenient) {document : Snapshot}
    (hreplay : document.uri.isScript = true → scheduler.isReplaying = false) :
    (scheduler.absorb ticket (scheduler.server.didOpen document)).Tracks lenient := by
  refine htracks.absorb_forward (.opened document) rfl (.opening document) rfl
    (htracks.unique.openDocument document) ?_ hreplay (fun _ _ => rfl) ?_
  · intro other
    exact Documents.snapshot?_openDocument _ document other
  · unfold Server.didOpen
    cases hforward : scheduler.server.forward document.uri (.opened document) with
    | nil => exact Or.inl ⟨rfl, rfl⟩
    | cons message later => exact Or.inr ⟨by simp, rfl⟩

/-- The analysis holds every script that is open or waits to be opened. -/
theorem Tracks.isSome_heldBy (htracks : scheduler.Tracks lenient)
    (hanalyzer : scheduler.server.analyzer? = some 0) {uri : Url} (hscript : uri.isScript = true)
    (hopen : (scheduler.server.documents.snapshot? uri).isSome = true ∨
      scheduler.isOpening uri = true) :
    (scheduler.heldBy lenient 0 uri).isSome = true := by
  obtain ⟨-, -, -, hheld⟩ := htracks.stage.eq_of_some hanalyzer
  rw [hheld]
  apply Notice.isSome_foldl_applied
  · intro notice hmem uri
    obtain ⟨task, -, hnotice⟩ := List.mem_filterMap.mp hmem
    rintro rfl
    cases task <;> cases hnotice
  · refine hopen.imp ?_ ?_
    · intro hsome
      unfold Documents.scripts
      rw [if_pos hscript]
      exact hsome
    · intro hopening
      obtain ⟨task, hmem, hopens⟩ := List.any_eq_true.mp hopening
      cases task with
      | opening document =>
        exact ⟨document, List.mem_filterMap.mpr ⟨_, hmem, rfl⟩, by simpa [Task.opens] using hopens⟩
      | _ => cases hopens

/-- Changing a document leaves the server and the analysis together, outside of a replay and, for a
lenient analysis, if the document is open or about to be. -/
theorem Tracks.didChange (htracks : scheduler.Tracks lenient) {document : Snapshot}
    (hreplay : document.uri.isScript = true → scheduler.isReplaying = false)
    (hopen : document.uri.isScript = true → lenient = true →
      (scheduler.server.documents.snapshot? document.uri).isSome = true ∨
        scheduler.isOpening document.uri = true) :
    (scheduler.absorb ticket (scheduler.server.didChange document)).Tracks lenient := by
  refine htracks.absorb_forward (.changed document) rfl (.changing document) rfl
    (htracks.unique.update document) ?_ hreplay ?_ ?_
  · intro other
    exact Documents.snapshot?_update _ document other
  · intro hscript hanalyzer
    apply Notice.applied_changed
    intro hlenient
    exact htracks.isSome_heldBy hanalyzer hscript (hopen hscript hlenient)
  · unfold Server.didChange
    cases hforward : scheduler.server.forward document.uri (.changed document) with
    | nil => exact Or.inl ⟨rfl, rfl⟩
    | cons message later => exact Or.inr ⟨by simp, rfl⟩

/-- Closing a document leaves the server and the analysis together, outside of a replay and if its
opening does not wait. -/
theorem Tracks.didClose (htracks : scheduler.Tracks lenient) {uri : Url}
    (hreplay : uri.isScript = true → scheduler.isReplaying = false)
    (hopening : uri.isScript = true → scheduler.isOpening uri = false) :
    (scheduler.absorb ticket (scheduler.server.didClose uri)).Tracks lenient := by
  have hnext : ∀ other, (scheduler.server.documents.close uri).snapshot? other =
      if other = uri then
        (Notice.closed uri).leaves false (scheduler.server.documents.snapshot? uri)
      else scheduler.server.documents.snapshot? other :=
    fun other => Documents.snapshot?_close _ other uri
  apply tracks_absorb (htracks.unique.close uri)
  -- Cancelling requests changes neither the session nor its connection.
  change Stage (scheduler.server.documents.close uri).scripts
    ((scheduler.server.forward uri (.closed uri)).foldl (Outgoing.heard lenient 0)
      (scheduler.heldBy lenient 0)) scheduler.server.analyzer?
    (scheduler.server.connections.map (·.alive)) (scheduler.documentary ++ [])
  rw [List.append_nil]
  cases hscript : uri.isScript with
  | false =>
    rw [forward_of_not_isScript hscript, Documents.scripts_eq_of_not_isScript uri hscript hnext]
    exact htracks.stage
  | true =>
    cases hanalyzer : scheduler.server.analyzer? with
    | none =>
      rw [forward_of_none hanalyzer, ← hanalyzer]
      exact htracks.stage.rescript hanalyzer (hreplay hscript) _
    | some place =>
      obtain ⟨rfl, halive, -, -⟩ := htracks.stage.eq_of_some hanalyzer
      rw [forward_of_installed hanalyzer halive hscript,
        Documents.scripts_eq_update uri rfl hscript hnext, ← hanalyzer]
      exact htracks.stage.closed hanalyzer (hopening hscript)

/-- The analysis is started, for the first time. -/
theorem Tracks.ready (htracks : scheduler.Tracks lenient) (host : Host Id)
    (hfirst : scheduler.server.connections = []) :
    (scheduler.absorb ticket (Id.run (scheduler.server.ready host))).Tracks lenient := by
  obtain hquiet | hgreet := ready_cases scheduler.server host
  · exact htracks.absorb_quiet hquiet
  obtain ⟨id, call, heq⟩ := greet_eq hfirst host.processId
  rw [hgreet, heq]
  have hnone : scheduler.server.analyzer? = none ∧ scheduler.documentary = [] ∧
      scheduler.heldBy lenient 0 = fun _ => none := by
    have hstage := htracks.stage
    rw [hfirst] at hstage
    cases hstage with
    | absent hanalyzer _ htasks hheld => exact ⟨hanalyzer, htasks, hheld⟩
    | greeting _ _ _ halive => cases halive
    | refused _ halive => cases halive
    | replaying _ _ halive => cases halive
    | installed _ halive => cases halive
  apply tracks_absorb htracks.unique
  refine .greeting id call hnone.1 rfl ?_ hnone.2.2
  rw [hnone.2.1]
  rfl

/-- A new analysis is told of the next script, or its session starts. -/
theorem tracks_replay (hunique : scheduler.server.documents.Unique)
    (hanalyzer : scheduler.server.analyzer? = none)
    (halive : scheduler.server.connections.map (·.alive) = [true])
    (hnone : scheduler.documentary = []) {left : List Snapshot}
    (hheld : (left.map Notice.opened).foldl (Notice.applied false) (scheduler.heldBy lenient 0) =
      scheduler.server.documents.scripts)
    {sent : List Outgoing} (hnews : ∀ message ∈ sent, message.isNews = false) :
    (scheduler.absorb ticket (scheduler.server.replay 0 left sent)).Tracks lenient := by
  cases left with
  | nil =>
    have hquiet := (quiet_announce (scheduler.server.startSession (some 0)) hnews).news
    apply tracks_absorb hunique
    refine .installed (analyzer?_startSession scheduler.server (some 0)) halive ?_ ?_
    · rw [hnone]
      intro task hmem
      cases hmem
    · rw [hnone]
      change ((scheduler.server.startSession (some 0)).announce sent).sent.foldl
        (Outgoing.heard lenient 0) (scheduler.heldBy lenient 0) = scheduler.server.documents.scripts
      rw [Outgoing.foldl_heard_of_not_news lenient 0 _ hquiet]
      exact hheld
  | cons document left =>
    have htell : scheduler.server.tell 0 (.opened document) =
        [.toAnalyzer 0 (.notice (.opened document))] := by
      unfold Server.tell Notice.send
      rw [if_pos (alive_of_eq halive)]
    have hreplay : scheduler.server.replay 0 (document :: left) sent =
        ⟨scheduler.server, sent ++ [.toAnalyzer 0 (.notice (.opened document))],
          .later (.replaying 0 left)⟩ := by
      rw [Server.replay, htell]
    rw [hreplay]
    apply tracks_absorb hunique
    refine .replaying left hanalyzer halive ?_ ?_
    · rw [hnone]
      rfl
    · rw [List.foldl_append, Outgoing.foldl_heard_of_not_news lenient 0 _ hnews]
      exact hheld

/-! ## Tasks that go on

Here a task has left the others, and the stage is that of the moment before. -/

section

variable {former later : List Task}

/-- The first task for a script stores it. -/
theorem tracks_store {notice : Notice} {uri : Url} {next : Documents}
    (hstage : Stage scheduler.server.documents.scripts (scheduler.heldBy lenient 0)
      scheduler.server.analyzer? (scheduler.server.connections.map (·.alive))
      (former ++ task :: later))
    (hrest : scheduler.documentary = former ++ later) (hnotice : task.notice? = some notice)
    (huri : notice.uri? = some uri)
    (hfirst : ∀ uri, task.subject? = some uri → ∀ other ∈ former, other.subject? ≠ some uri)
    (hunique : next.Unique)
    (hnext : ∀ other, next.snapshot? other = if other = uri
      then notice.leaves false (scheduler.server.documents.snapshot? uri)
      else scheduler.server.documents.snapshot? other) :
    (scheduler.absorb ticket (.done { scheduler.server with documents := next } .silent)).Tracks
      lenient := by
  have hsubject : task.subject? = some uri := by
    unfold Task.subject?
    rw [hnotice, Option.bind_some, huri]
  obtain ⟨hscript, hstored⟩ := hstage.stored hnotice huri (hfirst uri hsubject)
  apply tracks_documents hunique
  rw [hrest, Documents.scripts_eq_update uri huri hscript hnext]
  exact hstored

/-- A task that goes on by itself leaves the server and the analysis together, if it is the first
for its script. -/
theorem tracks_proceed (hrest : scheduler.documentary = former ++ later)
    (hunique : scheduler.server.documents.Unique)
    (hstage : Stage scheduler.server.documents.scripts (scheduler.heldBy lenient 0)
      scheduler.server.analyzer? (scheduler.server.connections.map (·.alive))
      (former ++ task :: later))
    (hwaits : task.waitsFor? = none)
    (hfirst : ∀ uri, task.subject? = some uri → ∀ other ∈ former, other.subject? ≠ some uri) :
    (scheduler.absorb ticket (scheduler.server.proceed task)).Tracks lenient := by
  cases task with
  | opening document =>
    apply tracks_store hstage hrest rfl rfl hfirst (hunique.openDocument document)
    intro other
    exact Documents.snapshot?_openDocument _ document other
  | changing document =>
    apply tracks_store hstage hrest rfl rfl hfirst (hunique.update document)
    intro other
    exact Documents.snapshot?_update _ document other
  | replaying place left =>
    obtain ⟨id, call, hother, -⟩ | ⟨left', hleft, rfl, rfl, hanalyzer, halive, hheld⟩ |
      hanalyzer := hstage.cases_of_task
    · cases hother
    · cases hleft
      exact tracks_replay hunique hanalyzer halive hrest hheld (by simp)
    · obtain ⟨-, -, htasks, -⟩ := hstage.eq_of_some hanalyzer
      obtain ⟨notice, uri, hnotice, -⟩ := htasks (.replaying place left) (by simp)
      cases hnotice
  | _ => cases hwaits

/-- The handshake is answered. -/
theorem tracks_handshake (hrest : scheduler.documentary = former ++ later)
    (hunique : scheduler.server.documents.Unique) {place id : Nat} {call : Analyzer.Call}
    (hstage : Stage scheduler.server.documents.scripts (scheduler.heldBy lenient 0)
      scheduler.server.analyzer? (scheduler.server.connections.map (·.alive))
      (former ++ .handshake place id call :: later))
    (result : Except AnalyzerError Json) :
    (scheduler.absorb ticket
      (scheduler.server.afterHandshake place call result)).Tracks lenient := by
  obtain ⟨id', call', heq, rfl, rfl, hanalyzer, halive, hheld⟩ | ⟨left, hother, -⟩ | hanalyzer :=
    hstage.cases_of_task
  · cases heq
    obtain ⟨fault, heq⟩ | ⟨sent, hnews, heq⟩ :=
      afterHandshake_cases scheduler.server 0 call result
    · have hfailed : scheduler.Tracks lenient := ⟨hunique, .refused hanalyzer halive hrest⟩
      rw [heq]
      exact hfailed.absorb_quiet (quiet_withoutAnalysis scheduler.server fault)
    · rw [heq]
      apply tracks_replay hunique hanalyzer halive hrest _ hnews
      rw [hheld]
      exact Documents.foldl_openScripts hunique
  · cases hother
  · obtain ⟨-, -, htasks, -⟩ := hstage.eq_of_some hanalyzer
    obtain ⟨notice, uri, hnotice, -⟩ := htasks (.handshake place id call) (by simp)
    cases hnotice

end

/-- A task that has nothing to do with documents takes quiet turns. -/
theorem quiet_turn? {server : Server} {moment : Moment} (htask : task.isDocumentary = false)
    (hturn : task.turn? server moment = some turn) : Turn.Quiet server turn := by
  obtain ⟨-, hwaits, -⟩ | ⟨result, -, -, rfl⟩ | ⟨-, -, rfl⟩ := Task.turn?_cases hturn
  · cases task with
    | opening document => cases htask
    | changing document => cases htask
    | replaying place left => cases htask
    | _ => cases hwaits
  · exact answer_quiet server htask result
  · exact cancel_quiet server htask

/-- A task that has to do with documents proceeds or has its handshake answered. -/
theorem documentary_turn? {server : Server} {moment : Moment} (htask : task.isDocumentary = true)
    (hturn : task.turn? server moment = some turn) :
    (task.waitsFor? = none ∧ turn = server.proceed task) ∨
    ∃ place id call result, task = .handshake place id call ∧
      turn = server.afterHandshake place call result := by
  obtain ⟨-, hwaits, rfl⟩ | ⟨result, -, hwaits, rfl⟩ | ⟨-, hcancelled, -⟩ := Task.turn?_cases hturn
  · exact Or.inl ⟨hwaits, rfl⟩
  · cases task with
    | handshake place id call => exact Or.inr ⟨place, id, call, result, rfl, rfl⟩
    | opening document => cases hwaits
    | changing document => cases hwaits
    | replaying place left => cases hwaits
    | _ => cases htask
  · cases task with
    | completing signal text context query => cases htask
    | hovering signal text context query => cases htask
    | _ => cases hcancelled

/-- The tasks before one that is next store other documents. -/
theorem Numbered.ne_subject_of_isNext (hnumbered : scheduler.Numbered)
    {former later : List Handler}
    (hrunning : scheduler.running = former ++ ⟨ticket, task⟩ :: later)
    (htask : scheduler.task? ticket = some task) (hnext : scheduler.isNext ticket = true)
    {uri : Url}
    (hsubject : task.subject? = some uri) :
    ∀ other ∈ (former.map (·.task)).filter Task.isDocumentary, other.subject? ≠ some uri := by
  intro other hother hsame
  obtain ⟨handler, hhandler, rfl⟩ := List.mem_map.mp (List.mem_filter.mp hother).1
  unfold isNext at hnext
  rw [htask, Option.bind_some, hsubject] at hnext
  obtain ⟨first, hfind, hticket⟩ := Option.map_eq_some_iff.mp (of_decide_eq_true hnext)
  -- The first task for the document stands before the one that is next, but has its number.
  have hfirst : first ∈ former := by
    rw [hrunning, List.find?_append] at hfind
    cases hformer : former.find? fun handler => decide (handler.task.subject? = some uri) with
    | none =>
      have hnone := List.find?_eq_none.mp hformer handler hhandler
      exact absurd (decide_eq_true hsame) hnone
    | some other =>
      rw [hformer] at hfind
      cases hfind
      exact List.mem_of_find?_eq_some hformer
  have hunique := hnumbered.unique
  rw [hrunning, List.map_append, List.nodup_append] at hunique
  exact hunique.2.2 first.ticket (List.mem_map_of_mem hfirst) ticket (by simp) hticket

/-- A task takes its turn, when it is next. -/
theorem Tracks.resumes (htracks : scheduler.Tracks lenient) (hnumbered : scheduler.Numbered)
    {moment : Moment} (htask : scheduler.task? ticket = some task)
    (hturn : task.turn? scheduler.server moment = some turn)
    (hnext : scheduler.isNext ticket = true) :
    ((scheduler.others ticket).absorb ticket turn).Tracks lenient := by
  obtain ⟨former, later, hrunning, hothers⟩ := hnumbered.split htask
  have hrest : (scheduler.others ticket).documentary =
      (former.map (·.task)).filter Task.isDocumentary ++
        (later.map (·.task)).filter Task.isDocumentary := by
    unfold documentary
    rw [hothers, List.map_append, List.filter_append]
  have hall : scheduler.documentary = (former.map (·.task)).filter Task.isDocumentary ++
      (task :: later.map (·.task)).filter Task.isDocumentary := by
    unfold documentary
    rw [hrunning, List.map_append, List.map_cons, List.filter_append]
  have hstage := htracks.stage
  cases hdocumentary : task.isDocumentary with
  | false =>
    rw [List.filter_cons_of_neg (by rw [hdocumentary]; exact Bool.false_ne_true), ← hrest] at hall
    rw [hall] at hstage
    have hothers : (scheduler.others ticket).Tracks lenient := ⟨htracks.unique, hstage⟩
    exact hothers.absorb_quiet (quiet_turn? hdocumentary hturn)
  | true =>
    rw [List.filter_cons_of_pos hdocumentary] at hall
    rw [hall] at hstage
    obtain ⟨hwaits, rfl⟩ | ⟨place, id, call, result, rfl, rfl⟩ :=
      documentary_turn? hdocumentary hturn
    · apply tracks_proceed hrest htracks.unique hstage hwaits
      intro uri hsubject
      exact hnumbered.ne_subject_of_isNext hrunning htask hnext hsubject
    · exact tracks_handshake hrest htracks.unique hstage result

/-! ## Calm runs -/

/-- Calm work that arrives leaves the server and the analysis together. -/
theorem Tracks.arrives (htracks : scheduler.Tracks lenient) (host : Host Id) {work : Work}
    (hcalm : scheduler.isCalm lenient (.arrives host work) = true) :
    (scheduler.step (.arrives host work)).Tracks lenient := by
  -- The number of the next work does not matter.
  have hraised : Tracks lenient { scheduler with tickets := scheduler.tickets + 1 } :=
    ⟨htracks.unique, htracks.stage⟩
  unfold isCalm at hcalm
  cases work with
  | start params => cases hcalm
  | ready => exact hraised.ready host (List.isEmpty_iff.mp hcalm)
  | opened document =>
    apply hraised.didOpen
    intro hscript
    change scheduler.isReplaying = false
    simpa [hscript] using hcalm
  | changed params =>
    have hscripts : params.uri.isScript = true → scheduler.isReplaying = false ∧
        (lenient = true → (scheduler.server.documents.snapshot? params.uri).isSome = true ∨
          scheduler.isOpening params.uri = true) := by
      intro hscript
      cases lenient <;> simpa [hscript] using hcalm
    change (absorb _ scheduler.tickets
      (Id.run (scheduler.server.work host (.changed params)))).Tracks lenient
    rw [work_changed]
    cases hdocument : params.document? with
    | none => exact hraised.absorb_quiet (quiet_answered scheduler.server _)
    | some document =>
      obtain ⟨text, -, rfl⟩ := Option.map_eq_some_iff.mp hdocument
      exact hraised.didChange (fun hscript => (hscripts hscript).1)
        (fun hscript => (hscripts hscript).2)
  | closed uri =>
    have hscripts : uri.isScript = true →
        scheduler.isReplaying = false ∧ scheduler.isOpening uri = false := by
      intro hscript
      simpa [hscript] using hcalm
    exact hraised.didClose (fun hscript => (hscripts hscript).1)
      (fun hscript => (hscripts hscript).2)
  | _ => exact hraised.absorb_quiet (work_quiet scheduler.server host rfl)

/-- A connection that stays alive leaves the server and the analysis together. -/
theorem Tracks.hears (htracks : scheduler.Tracks lenient) (place : Nat)
    {connection : Analyzer.Connection} (halive : connection.alive = true) :
    (scheduler.step (.hears place connection)).Tracks lenient := by
  have hconnections : (scheduler.server.setConnection place connection).connections.map (·.alive) =
      (scheduler.server.connections.map (·.alive)).set place true := by
    unfold Server.setConnection
    rw [List.map_set, halive]
  have hstage := htracks.stage.alive_set place
  rw [← hconnections] at hstage
  exact ⟨htracks.unique, hstage⟩

/-- A calm event leaves the server and the analysis together. -/
theorem Tracks.step (htracks : scheduler.Tracks lenient) (hnumbered : scheduler.Numbered)
    {event : SchedulerEvent} (hcalm : scheduler.isCalm lenient event = true) :
    (scheduler.step event).Tracks lenient := by
  cases event with
  | arrives host work => exact htracks.arrives host hcalm
  | resumes ticket moment =>
    unfold Scheduler.step
    dsimp only
    split
    · exact htracks
    · rename_i turn hturn
      obtain ⟨task, htask, hturn⟩ := Option.bind_eq_some_iff.mp hturn
      exact htracks.resumes hnumbered htask hturn hcalm
  | hears place connection => exact htracks.hears place hcalm

/-- A calm run leaves the server and the analysis together. -/
theorem Tracks.run (htracks : scheduler.Tracks lenient) (hnumbered : scheduler.Numbered)
    {events : List SchedulerEvent} (hcalm : isCalmRun lenient scheduler events = true) :
    (scheduler.run events).Tracks lenient := by
  induction events generalizing scheduler with
  | nil => exact htracks
  | cons event later ih =>
    obtain ⟨hfirst, hlater⟩ := Bool.and_eq_true_iff.mp hcalm
    exact ih (htracks.step hnumbered hfirst) (hnumbered.step event) hlater

/-- **The analysis and the server agree after a calm run.** When nothing that has to do with
documents is left to do, the analysis of the current session holds, for every address, the version
that the server holds if it is that of a script, and nothing else. -/
theorem analysis_agrees_after_calm_run (lenient : Bool) {server : Server}
    (hunique : server.documents.Unique) (hnew : server.connections = [])
    (hnone : server.analyzer? = none) (events : List SchedulerEvent)
    (hcalm : isCalmRun lenient { server := server } events = true) :
    let last := run { server := server } events
    last.documentary = [] → ∀ place, last.server.analyzer? = some place →
      last.heldBy lenient place = last.server.documents.scripts := by
  intro last hdone place hanalyzer
  have hstart : Tracks lenient { server := server } := by
    refine ⟨hunique, .absent hnone ?_ rfl rfl⟩
    rw [hnew]
    rfl
  have hlast : last.Tracks lenient := hstart.run (numbered_start server) hcalm
  obtain ⟨rfl, -, -, hheld⟩ := hlast.stage.eq_of_some hanalyzer
  rw [hheld, hdone]
  rfl

end Scheduler

/-! ## A script that is opened, changed and closed -/

namespace DocumentRuns

open Scheduler

/-- The address of a script. -/
def script : Url := { scheme := "file".toList, path := .segments ["main.py".toList] }

def first : Snapshot := ⟨script, 1, "a".toList⟩

def second : Snapshot := ⟨script, 2, "b".toList⟩

/-- A host on which the analysis starts. -/
def host : Host Id := { FileTree.host ⟨[], []⟩ with spawn := fun _ => .ok () }

def opens : SchedulerEvent := .arrives host (.opened first)

def changes : SchedulerEvent := .arrives host (.changed ⟨script, 2, [second.text]⟩)

def closes : SchedulerEvent := .arrives host (.closed script)

/-- The analysis is started as the work with a number and answers the handshake. -/
def starts (ticket : Nat) : List SchedulerEvent :=
  [.arrives host .ready, .resumes ticket (.answers (.ok .null))]

def proceeds (ticket : Nat) : SchedulerEvent := .resumes ticket .proceeds

/-- The script is changed before its opening is stored, and both are stored in order. -/
def orderly : List SchedulerEvent := starts 0 ++ [opens, changes, proceeds 1, proceeds 2]

/-- The script is closed before its opening is stored. -/
def closing : List SchedulerEvent := starts 0 ++ [opens, closes, proceeds 1]

/-- The script is changed while a new analysis is being told of it. -/
def restarting : List SchedulerEvent := [opens] ++ starts 1 ++ [changes, proceeds 1]

/-- The script is changed after it was closed. -/
def reviving : List SchedulerEvent := starts 0 ++ [opens, proceeds 1, closes, changes, proceeds 3]

/-- After the orderly run both have the second version, whatever the analysis makes of changes of
closed documents. -/
theorem analysis_agrees_after_calm_run_orderly :
    isCalmRun true { server := {} } orderly = true ∧
    (run { server := {} } orderly).documentary = [] ∧
    (run { server := {} } orderly).server.analyzer? = some 0 ∧
    (run { server := {} } orderly).heldBy true 0 =
      (run { server := {} } orderly).server.documents.scripts ∧
    (run { server := {} } orderly).heldBy true 0 script = some second := by
  have hunique : ({} : Server).documents.Unique := List.nodup_nil
  have hcalm : isCalmRun true { server := {} } orderly = true := by decide +kernel
  have hdone : (run { server := {} } orderly).documentary = [] :=
    List.isEmpty_iff.mp (by decide +kernel)
  have hanalyzer : (run { server := {} } orderly).server.analyzer? = some 0 := by decide +kernel
  exact ⟨hcalm, hdone, hanalyzer,
    analysis_agrees_after_calm_run true hunique rfl rfl orderly hcalm hdone 0 hanalyzer,
    by decide +kernel⟩

/-- All work of a run is done and the analysis is alive, and this is what the server has stored of
the script and what the analysis holds of it. -/
structure Ends (lenient : Bool) (events : List SchedulerEvent) (stored held : Option Snapshot) :
    Prop where
  done : (run { server := {} } events).running = []
  analyzer : (run { server := {} } events).server.analyzer? = some 0
  alive : ((run { server := {} } events).server.connection 0).alive = true
  stored : (run { server := {} } events).server.documents.snapshot? script = stored
  held : (run { server := {} } events).heldBy lenient 0 script = held

/-- The server ends with a script that the analysis was told is closed, with a later version of a
script than the analysis, and without a script that a lenient analysis has. -/
theorem analysis_differs_from_server :
    (∀ lenient, Ends lenient closing (some first) none) ∧
    (∀ lenient, Ends lenient restarting (some second) (some first)) ∧
    Ends true reviving none (some second) := by
  refine ⟨?_, ?_, ?_⟩
  · intro lenient
    exact ⟨List.isEmpty_iff.mp (by decide +kernel), by decide +kernel, by decide +kernel,
      by decide +kernel, by cases lenient <;> decide +kernel⟩
  · intro lenient
    exact ⟨List.isEmpty_iff.mp (by decide +kernel), by decide +kernel, by decide +kernel,
      by decide +kernel, by cases lenient <;> decide +kernel⟩
  · exact ⟨List.isEmpty_iff.mp (by decide +kernel), by decide +kernel, by decide +kernel,
      by decide +kernel, by decide +kernel⟩

end DocumentRuns

end FluentAssist
