import FluentAssist.Proofs.Resolution.Interruption
import FluentAssist.Proofs.Server.Conversation

/-!
# What a turn leaves alone

Most turns of the server have nothing to do with documents: they leave the open documents and the
connections of the sessions as they are, tell no analysis of a document, and do not wait in order to
store one (`Turn.Quiet`). A turn that asks the analysis is quiet whatever its answers are and
however often the analysis is gone.

The current requests change even less: a completion that is served supersedes the one before,
closing a document cancels its request, and no other turn touches them.
-/

set_option autoImplicit false

namespace FluentAssist

open Protocol (Reply ChangedParams CompletionParams PlaceParams CommandParams)

/-- Whether a notice is about a document. -/
def Analyzer.Notice.isNews : Analyzer.Notice → Bool
  | .opened _ => true
  | .changed _ => true
  | .closed _ => true
  | .initialized => false
  | .exit => false

/-- Whether a message tells an analysis about a document. -/
def Outgoing.isNews : Outgoing → Bool
  | .toAnalyzer _ (.notice notice) => notice.isNews
  | _ => false

/-- Whether a task will store a document or tell a new analysis of one. -/
def Task.isDocumentary : Task → Bool
  | .handshake _ _ _ => true
  | .replaying _ _ => true
  | .opening _ => true
  | .changing _ => true
  | .completing _ _ _ _ => false
  | .hovering _ _ _ _ => false
  | .stopping _ _ => false

/-- Whether work is about documents or starts an analysis. -/
def Work.isDocumentary : Work → Bool
  | .opened _ => true
  | .changed _ => true
  | .closed _ => true
  | .ready => true
  | .start _ => true
  | _ => false

/-- The same documents, the same connections of sessions, and the same analyses alive. -/
structure Server.Alike (server next : Server) : Prop where
  documents : next.documents = server.documents
  sessions : next.sessions.map (·.connection) = server.sessions.map (·.connection)
  connections : next.connections.map (·.alive) = server.connections.map (·.alive)

/-- A turn that has nothing to do with documents. -/
structure Turn.Quiet (server : Server) (turn : Turn) : Prop where
  alike : server.Alike turn.server
  news : ∀ message ∈ turn.sent, message.isNews = false
  next : ∀ task, turn.next = .later task → task.isDocumentary = false

/-- A step of a lookup that has nothing to do with documents or with the current requests. If it
waits, a question is open. -/
structure LookupTurn.Modest (server : Server) (turn : LookupTurn) : Prop where
  alike : server.Alike turn.server
  completions : turn.server.completions = server.completions
  news : ∀ message ∈ turn.sent, message.isNews = false
  asks : ∀ query, turn.state = .waiting query → 0 < query.progress.openQuestions

namespace Server

variable {server next last : Server}

/-- A server is alike to itself. -/
theorem alike_refl (server : Server) : server.Alike server := ⟨rfl, rfl, rfl⟩

/-- Two changes that leave a server alike leave it alike together. -/
theorem Alike.trans (hnext : server.Alike next) (hlast : next.Alike last) : server.Alike last :=
  ⟨hlast.documents.trans hnext.documents, hlast.sessions.trans hnext.sessions,
    hlast.connections.trans hnext.connections⟩

/-- The analysis of the current session, read off the connections of all sessions. -/
theorem analyzer?_eq (server : Server) :
    server.analyzer? =
      ((server.sessions.map (·.connection))[server.sessions.length - 1]?).join := by
  unfold analyzer? session current
  rw [List.getElem?_map, List.getD_eq_getElem?_getD]
  cases server.sessions[server.sessions.length - 1]? <;> rfl

/-- Servers that are alike have the same current analysis. -/
theorem Alike.analyzer? (halike : server.Alike next) : next.analyzer? = server.analyzer? := by
  have hlength : next.sessions.length = server.sessions.length := by
    simpa using congrArg List.length halike.sessions
  rw [analyzer?_eq, analyzer?_eq, halike.sessions, hlength]

/-- Whether the analysis with a number is alive, read off all connections. -/
theorem alive_eq (server : Server) (place : Nat) :
    (server.connection place).alive = (server.connections.map (·.alive)).getD place false := by
  unfold connection
  rw [List.getD_eq_getElem?_getD, List.getD_eq_getElem?_getD, List.getElem?_map]
  cases server.connections[place]? <;> rfl

/-- A new memory of a session leaves a server alike. -/
theorem alike_setMemory (server : Server) (number : Nat) (memory : Resolver) :
    server.Alike (server.setMemory number memory) := by
  refine ⟨rfl, ?_, rfl⟩
  apply List.ext_getElem?
  intro place
  simp only [setMemory, List.getElem?_map, List.getElem?_modify]
  cases server.sessions[place]? with
  | none => rfl
  | some session => by_cases hplace : number = place <;> simp [hplace]

/-- A connection is replaced by one that is as alive. -/
theorem alike_setConnection (server : Server) (place : Nat) {connection : Analyzer.Connection}
    (halive : connection.alive = (server.connection place).alive) :
    server.Alike (server.setConnection place connection) := by
  refine ⟨rfl, rfl, ?_⟩
  apply List.ext_getElem?
  intro other
  simp only [setConnection, List.getElem?_map, List.getElem?_set]
  by_cases hplace : place = other
  · subst hplace
    rw [if_pos rfl]
    by_cases hlt : place < server.connections.length
    · rw [if_pos hlt, Option.map_some, List.getElem?_eq_getElem hlt, Option.map_some, halive]
      simp [Server.connection, hlt]
    · rw [if_neg hlt, List.getElem?_eq_none (Nat.le_of_not_lt hlt)]
  · rw [if_neg hplace]

/-- Giving a request up leaves a server alike. -/
theorem alike_abandon (server : Server) (place id : Nat) :
    server.Alike (server.abandon place id) :=
  alike_setConnection server place rfl

end Server

/-- A turn is quiet since an earlier moment, if nothing changed in between. -/
theorem Turn.Quiet.since {server next : Server} {turn : Turn} (hquiet : Turn.Quiet next turn)
    (halike : server.Alike next) : Turn.Quiet server turn :=
  ⟨halike.trans hquiet.alike, hquiet.news, hquiet.next⟩

namespace Server

variable {server next : Server}

/-! ## Lookups -/

/-- A request to the analysis is a call, and it changes its connection only. -/
theorem request?_eq_some {number : Nat} {call : Analyzer.Call} {place id : Nat}
    {message : Analyzer.Message}
    (hrequest : server.request? number call = some (next, place, id, message)) :
    server.Alike next ∧ next.completions = server.completions ∧ message = .call id call := by
  unfold request? at hrequest
  cases hplace : (server.session number).connection with
  | none =>
    rw [hplace] at hrequest
    cases hrequest
  | some asked =>
    rw [hplace] at hrequest
    simp only [Option.bind_eq_bind, Option.bind_some, Analyzer.Call.start,
      Analyzer.Connection.request] at hrequest
    cases halive : (server.connection asked).alive with
    | false =>
      rw [halive] at hrequest
      cases hrequest
    | true =>
      rw [halive] at hrequest
      cases hrequest
      exact ⟨alike_setConnection server place rfl, rfl, rfl⟩

/-- Asking is modest, also if the analysis is gone and every question fails. -/
theorem ask_modest (server : Server) (number : Nat) (cancelled : Bool)
    (progress : LookupProgress) :
    LookupTurn.Modest server (server.ask number cancelled progress) := by
  fun_induction Server.ask server number cancelled progress with
  | case1 server progress hcall =>
    exact ⟨alike_refl server, rfl, by simp, fun query hquery => by cases hquery⟩
  | case2 server progress call hcall next place id message hrequest =>
    obtain ⟨halike, hcompletions, rfl⟩ := request?_eq_some hrequest
    refine ⟨halike, hcompletions, ?_, ?_⟩
    · intro message hmem
      rw [List.mem_singleton] at hmem
      rw [hmem]
      rfl
    · intro query hquery
      cases hquery
      exact LookupProgress.openQuestions_pos_of_call? hcall
  | case3 server progress call hcall hrequest session next ih =>
    exact ⟨(alike_setMemory server number next.1).trans ih.alike, ih.completions, ih.news,
      ih.asks⟩

/-- Asking opens no questions. -/
theorem openQuestions_ask_le (server : Server) (number : Nat) (cancelled : Bool)
    (progress : LookupProgress) :
    (server.ask number cancelled progress).state.openQuestions ≤ progress.openQuestions := by
  fun_induction Server.ask server number cancelled progress with
  | case1 server progress hcall => exact Nat.zero_le _
  | case2 server progress call hcall next place id message hrequest => exact Nat.le_refl _
  | case3 server progress call hcall hrequest session next ih =>
    have hless := Resolver.openQuestions_receive_lt session.settings cancelled session.memory
      progress .failed (LookupProgress.openQuestions_pos_of_call? hcall)
    exact Nat.le_trans ih (Nat.le_of_lt hless)

/-- A lookup that remembers something and asks on is modest. -/
theorem ask_setMemory_modest (server : Server) (number : Nat) (cancelled : Bool)
    (memory : Resolver) (progress : LookupProgress) :
    LookupTurn.Modest server ((server.setMemory number memory).ask number cancelled progress) := by
  have hask := ask_modest (server.setMemory number memory) number cancelled progress
  exact ⟨(alike_setMemory server number memory).trans hask.alike, hask.completions, hask.news,
    hask.asks⟩

/-- The first step of a lookup is modest. -/
theorem lookup_modest (server : Server) (cancelled : Bool) (request : LookupRequest) :
    LookupTurn.Modest server (server.lookup cancelled request) :=
  ask_setMemory_modest server _ cancelled _ _

/-- A step of a lookup with an answer is modest. -/
theorem receiveAnswer_modest (server : Server) (cancelled : Bool) (query : Query)
    (result : Except AnalyzerError Json) :
    LookupTurn.Modest server (server.receiveAnswer cancelled query result) :=
  ask_setMemory_modest server _ cancelled _ _

/-- A lookup begins with at most four open questions. -/
theorem openQuestions_lookup_le (server : Server) (cancelled : Bool) (request : LookupRequest) :
    (server.lookup cancelled request).state.openQuestions ≤ Resolver.mostAnswers :=
  Nat.le_trans (openQuestions_ask_le _ _ _ _) (Resolver.openQuestions_lookup_le _ _ _ _ _)

/-- An answer brings a lookup nearer to its end. -/
theorem openQuestions_receiveAnswer_lt (server : Server) (cancelled : Bool) {query : Query}
    (hopen : 0 < query.progress.openQuestions) (result : Except AnalyzerError Json) :
    (server.receiveAnswer cancelled query result).state.openQuestions <
      query.progress.openQuestions :=
  Nat.lt_of_le_of_lt (openQuestions_ask_le _ _ _ _)
    (Resolver.openQuestions_receive_lt _ _ _ _ _ hopen)

/-- A cancelled lookup ends without a class, whatever the answer is. -/
theorem receiveAnswer_cancelled (server : Server) {query : Query}
    (hopen : 0 < query.progress.openQuestions) (result : Except AnalyzerError Json) :
    (server.receiveAnswer true query result).state = .found none := by
  unfold receiveAnswer
  dsimp only
  rw [Resolver.receive_cancelled hopen, ask_finished]

/-! ## Turns that have nothing to do with documents -/

/-- A turn that is done, with a server that is alike and without news, is quiet. -/
theorem quiet_done {next : Server} (halike : server.Alike next) (reply : Reply)
    {sent : List Outgoing} (hnews : ∀ message ∈ sent, message.isNews = false) :
    Turn.Quiet server (.done next reply sent) :=
  ⟨halike, hnews, fun task htask => by cases htask⟩

/-- A turn that only replies, with a server that is alike, is quiet. -/
theorem quiet_reply {next : Server} (halike : server.Alike next) (reply : Reply) :
    Turn.Quiet server (.done next reply) :=
  quiet_done halike reply (by simp)

/-- A turn that only replies is quiet. -/
theorem quiet_answered (server : Server) (reply : Reply) :
    Turn.Quiet server (.done server reply) :=
  quiet_reply (alike_refl server) reply

/-- The editor may be told something. -/
theorem quiet_told {next : Server} (halike : server.Alike next) (reply : Reply)
    (message : Protocol.ClientMessage) :
    Turn.Quiet server (.done next reply [.toClient message]) := by
  apply quiet_done halike
  intro other hmem
  rw [List.mem_singleton] at hmem
  rw [hmem]
  rfl

/-- A task that waits for what will not come stays as it is. -/
theorem quiet_same {task : Task} (htask : task.isDocumentary = false) :
    Turn.Quiet server ⟨server, [], .later task⟩ := by
  refine ⟨alike_refl server, by simp, ?_⟩
  intro other hother
  cases hother
  exact htask

/-- A completion after a modest step of its lookup is quiet. -/
theorem afterCompletionLookup_quiet {turn : LookupTurn}
    (hmodest : LookupTurn.Modest server turn) (signal : CancelSignal) (text : Text)
    (context : Context) : Turn.Quiet server (afterCompletionLookup signal text context turn) := by
  unfold afterCompletionLookup
  cases hstate : turn.state with
  | found className => exact quiet_done hmodest.alike _ hmodest.news
  | waiting query =>
    refine ⟨hmodest.alike, hmodest.news, ?_⟩
    intro task htask
    cases htask
    rfl

/-- A hover after a modest step of its lookup is quiet. -/
theorem afterHoverLookup_quiet {turn : LookupTurn}
    (hmodest : LookupTurn.Modest server turn) (signal : CancelSignal) (text : Text)
    (context : Context) : Turn.Quiet server (afterHoverLookup signal text context turn) := by
  unfold afterHoverLookup
  cases hstate : turn.state with
  | found className => exact quiet_done hmodest.alike _ hmodest.news
  | waiting query =>
    refine ⟨hmodest.alike, hmodest.news, ?_⟩
    intro task htask
    cases htask
    rfl

/-- What a completion does after a step of its lookup changes nothing at the server. -/
theorem server_afterCompletionLookup (signal : CancelSignal) (text : Text) (context : Context)
    (turn : LookupTurn) :
    (afterCompletionLookup signal text context turn).server = turn.server := by
  unfold afterCompletionLookup
  cases turn.state <;> rfl

/-- What a hover does after a step of its lookup changes nothing at the server. -/
theorem server_afterHoverLookup (signal : CancelSignal) (text : Text) (context : Context)
    (turn : LookupTurn) :
    (afterHoverLookup signal text context turn).server = turn.server := by
  unfold afterHoverLookup
  cases turn.state <;> rfl

/-- A completion in a context is quiet and cancels none. -/
theorem completeIn_quiet (server : Server) (signal : CancelSignal) (document : Snapshot)
    (context : Context) :
    Turn.Quiet server (server.completeIn signal document context) ∧
      (server.completeIn signal document context).server.completions = server.completions := by
  unfold completeIn
  split
  · exact ⟨quiet_answered server _, rfl⟩
  · have hmodest := lookup_modest server (signal.isCancelled server.completions)
      ⟨document, context.kind, context.matchStart⟩
    rw [server_afterCompletionLookup]
    exact ⟨afterCompletionLookup_quiet hmodest _ _ _, hmodest.completions⟩

/-- A completion is quiet. -/
theorem completion_quiet (server : Server) (params : CompletionParams) :
    Turn.Quiet server (server.completion params) := by
  obtain ⟨document, context, hcompletes⟩ | ⟨completions, reply, hanswered⟩ :=
    completion_cases server params
  · rw [hcompletes.completion_eq]
    exact (completeIn_quiet (server.completing params.place.uri)
      (server.completions.start params.place.uri).2 document context).1.since ⟨rfl, rfl, rfl⟩
  · rw [hanswered]
    apply quiet_reply
    exact ⟨rfl, rfl, rfl⟩

/-- A hover in a context is quiet and cancels no completion. -/
theorem hoverIn_quiet (server : Server) (document : Snapshot) (context : Context) :
    Turn.Quiet server (server.hoverIn document context) ∧
      (server.hoverIn document context).server.completions = server.completions := by
  unfold hoverIn
  split
  · exact ⟨quiet_answered server _, rfl⟩
  · split
    · exact ⟨quiet_answered server _, rfl⟩
    · dsimp only
      generalize server.hovers.start document.uri = started
      have hmodest := lookup_modest { server with hovers := started.1 }
        (started.2.isCancelled started.1) ⟨document, context.kind, context.matchStart⟩
      rw [server_afterHoverLookup]
      exact ⟨(afterHoverLookup_quiet hmodest started.2 document.text context).since
        ⟨rfl, rfl, rfl⟩, hmodest.completions⟩

/-- A hover at a classified cursor is quiet and cancels no completion. -/
theorem hoverFound_quiet (server : Server) (document : Snapshot)
    (found : Except WindowFault (Option Context)) :
    Turn.Quiet server (server.hoverFound document found) ∧
      (server.hoverFound document found).server.completions = server.completions := by
  match found with
  | .error _ => exact ⟨quiet_answered server _, rfl⟩
  | .ok none => exact ⟨quiet_answered server _, rfl⟩
  | .ok (some context) => exact hoverIn_quiet server document context

/-- A hover is quiet and cancels no completion. -/
theorem hover_quiet (server : Server) (params : PlaceParams) :
    Turn.Quiet server (server.hover params) ∧
      (server.hover params).server.completions = server.completions := by
  unfold hover
  split
  · split
    · exact ⟨quiet_answered server _, rfl⟩
    · exact hoverFound_quiet server _ _
  · exact ⟨quiet_answered server _, rfl⟩

/-- Switching to a companion file is quiet and cancels no completion. -/
theorem switchFile_quiet (server : Server) (files : FileSystem Id) (arguments : List Json) :
    Turn.Quiet server (Id.run (server.switchFile files arguments)) ∧
      (Id.run (server.switchFile files arguments)).server.completions = server.completions := by
  have htells : ∀ (reply : Reply) (message : Protocol.ClientMessage),
      Turn.Quiet server (.done server reply [.toClient message]) :=
    quiet_told (alike_refl server)
  unfold switchFile
  dsimp only
  split
  · exact ⟨htells _ _, rfl⟩
  · split
    · exact ⟨quiet_answered server _, rfl⟩
    · simp only [bind, pure, Id.run]
      split
      · split
        · exact ⟨quiet_answered server _, rfl⟩
        · exact ⟨htells _ _, rfl⟩
      · exact ⟨htells _ _, rfl⟩
      · exact ⟨htells _ _, rfl⟩

/-- A command is quiet and cancels no completion. -/
theorem runCommand_quiet (server : Server) (files : FileSystem Id) (params : CommandParams) :
    Turn.Quiet server (Id.run (server.runCommand files params)) ∧
      (Id.run (server.runCommand files params)).server.completions = server.completions := by
  unfold runCommand
  split
  · exact switchFile_quiet server files _
  · simp only [pure, Id.run]
    unfold openPreview
    split
    · refine ⟨?_, rfl⟩
      apply quiet_reply
      exact ⟨rfl, rfl, rfl⟩
    · refine ⟨?_, rfl⟩
      apply quiet_told
      exact ⟨rfl, rfl, rfl⟩
  · simp only [pure, Id.run]
    unfold disposePreview
    refine ⟨?_, rfl⟩
    apply quiet_reply
    exact ⟨rfl, rfl, rfl⟩
  · exact ⟨quiet_answered server _, rfl⟩

/-- Stopping the analysis is quiet and cancels no completion. -/
theorem stop_quiet (server : Server) :
    Turn.Quiet server server.stop ∧ server.stop.server.completions = server.completions := by
  unfold stop
  split
  · exact ⟨quiet_answered server _, rfl⟩
  · rename_i next place id message hrequest
    obtain ⟨halike, hcompletions, rfl⟩ := request?_eq_some hrequest
    refine ⟨⟨halike, ?_, ?_⟩, hcompletions⟩
    · intro message hmem
      rw [List.mem_singleton] at hmem
      rw [hmem]
      rfl
    · intro task htask
      cases htask
      rfl

/-- Work that is not about documents is quiet. -/
theorem work_quiet (server : Server) (host : Host Id) {work : Work}
    (hwork : work.isDocumentary = false) :
    Turn.Quiet server (Id.run (server.work host work)) := by
  cases work with
  | reply reply => exact quiet_answered server reply
  | start params => cases hwork
  | restart reply =>
    apply quiet_reply
    exact ⟨rfl, rfl, rfl⟩
  | ready => cases hwork
  | opened document => cases hwork
  | changed params => cases hwork
  | closed uri => cases hwork
  | configured settings =>
    apply quiet_reply
    exact ⟨rfl, rfl, rfl⟩
  | completion params => exact completion_quiet server params
  | hover place => exact (hover_quiet server place).1
  | command params => exact (runCommand_quiet server host.files params).1
  | stop => exact (stop_quiet server).1
  | cancel id => exact quiet_answered server _

/-- No notice that follows an answer is about documents. -/
theorem isNews_conclude {call : Analyzer.Call} {connection : Analyzer.Connection}
    {result : Except AnalyzerError Json} {notice : Analyzer.Notice}
    (hmem : notice ∈ (call.conclude connection result).1) : notice.isNews = false := by
  have hsingle : ∀ {only : Analyzer.Notice}, only.isNews = false → notice ∈ [only] →
      notice.isNews = false := by
    intro only honly hnotice
    rw [List.mem_singleton.mp hnotice]
    exact honly
  unfold Analyzer.Call.conclude at hmem
  cases call with
  | handshake processId root =>
    cases result with
    | error fault => cases hmem
    | ok value =>
      dsimp only at hmem
      split at hmem
      · exact hsingle rfl hmem
      · cases hmem
  | hover uri position => cases hmem
  | typeDefinition uri position => cases hmem
  | shutdown =>
    dsimp only at hmem
    split at hmem
    · exact hsingle rfl hmem
    · cases hmem

/-- What goes on with an answer, other than the start of an analysis, is quiet. -/
theorem answer_quiet (server : Server) {task : Task} (htask : task.isDocumentary = false)
    (result : Except AnalyzerError Json) : Turn.Quiet server (server.answer task result) := by
  cases task with
  | handshake place id call => cases htask
  | replaying place left => cases htask
  | opening document => cases htask
  | changing document => cases htask
  | completing signal text context query =>
    exact afterCompletionLookup_quiet (receiveAnswer_modest server _ query result) signal text
      context
  | hovering signal text context query =>
    exact afterHoverLookup_quiet (receiveAnswer_modest server _ query result) signal text context
  | stopping place id =>
    apply quiet_done (alike_refl server)
    intro message hmem
    obtain ⟨notice, hnotice, rfl⟩ := List.mem_map.mp hmem
    have hconclude : notice ∈
        (Analyzer.Call.shutdown.conclude (server.connection place) result).1 := hnotice
    exact isNews_conclude hconclude

/-- Cancelling a task that has nothing to do with documents is quiet. -/
theorem cancel_quiet (server : Server) {task : Task} (htask : task.isDocumentary = false) :
    Turn.Quiet server (server.cancel task) := by
  cases task with
  | completing signal text context query => exact quiet_reply (alike_abandon server _ _) _
  | hovering signal text context query => exact quiet_reply (alike_abandon server _ _) _
  | stopping place id => exact quiet_same rfl
  | _ => cases htask

/-! ## Current requests -/

/-- A completion request that is served: it is for an open script and its trigger is accepted. -/
structure Begins (server : Server) (params : CompletionParams) : Prop where
  script : params.place.uri.isScript = true
  accepted : server.settings.acceptsTrigger params.trigger = true
  isOpen : (server.documents.snapshot? params.place.uri).isSome = true

/-- A completion that is served supersedes the one before. -/
theorem completions_completion {params : CompletionParams} (hbegins : server.Begins params) :
    (server.completion params).server.completions =
      (server.completions.start params.place.uri).1 := by
  obtain ⟨document, hopen⟩ := Option.isSome_iff_exists.mp hbegins.isOpen
  rw [completion_of_open hbegins.script hbegins.accepted hopen]
  obtain ⟨context, hname, hfound⟩ | ⟨reply, heq, -⟩ :=
    completeAt_cases (server.completing params.place.uri)
      (server.completions.start params.place.uri).2 document
      (Text.offsetAt document.text params.place.position)
  · rw [completeAt_eq _ _ hname hfound]
    exact (completeIn_quiet _ _ _ _).2
  · rw [heq]
    rfl

/-- A completion that is not served is answered with nothing. -/
theorem completion_of_not_begins {params : CompletionParams}
    (hbegins : ¬ server.Begins params) :
    server.completion params = .done server (.result .null) := by
  unfold completion
  dsimp only
  by_cases hserved : (params.place.uri.isScript &&
      server.settings.acceptsTrigger params.trigger) = true
  · rw [if_pos hserved]
    obtain ⟨hscript, haccepted⟩ := Bool.and_eq_true_iff.mp hserved
    cases hopen : server.documents.snapshot? params.place.uri with
    | none => rfl
    | some document =>
      exact absurd ⟨hscript, haccepted, by rw [hopen]; rfl⟩ hbegins
  · rw [if_neg hserved]

/-- A change with a text is one of the document, and one without is nothing. -/
theorem work_changed (server : Server) (host : Host Id) (params : ChangedParams) :
    Id.run (server.work host (.changed params)) =
      match params.document? with
      | some document => server.didChange document
      | none => .done server .silent :=
  rfl

/-- Work of other kinds leaves the current requests as they are. -/
theorem completions_work (server : Server) (host : Host Id) {work : Work}
    (hcompletion : ∀ params, work ≠ .completion params) (hclosed : ∀ uri, work ≠ .closed uri) :
    (Id.run (server.work host work)).server.completions = server.completions := by
  cases work with
  | reply reply => rfl
  | start params => rfl
  | restart reply => rfl
  | ready =>
    change (Id.run (server.ready host)).server.completions = _
    unfold ready
    split
    · split
      · rfl
      · simp only [bind, pure, Id.run]
        split
        · rfl
        · unfold greet
          dsimp only
          split <;> rfl
    · rfl
  | opened document =>
    change (server.didOpen document).server.completions = _
    unfold didOpen
    split <;> rfl
  | changed params =>
    rw [work_changed]
    split
    · unfold didChange
      split <;> rfl
    · rfl
  | closed uri => exact absurd rfl (hclosed uri)
  | configured settings => rfl
  | completion params => exact absurd rfl (hcompletion params)
  | hover place => exact (hover_quiet server place).2
  | command params => exact (runCommand_quiet server host.files params).2
  | stop => exact (stop_quiet server).2
  | cancel id => rfl

/-- Telling a new analysis of the open scripts cancels no completion. -/
theorem completions_replay (server : Server) (place : Nat) (left : List Snapshot)
    (sent : List Outgoing) :
    (server.replay place left sent).server.completions = server.completions := by
  induction left generalizing sent with
  | nil => rfl
  | cons document left ih =>
    unfold replay
    split
    · exact ih sent
    · rfl

/-- A task that goes on by itself cancels no completion. -/
theorem completions_proceed (server : Server) (task : Task) :
    (server.proceed task).server.completions = server.completions := by
  cases task with
  | replaying place left => exact completions_replay server place left []
  | _ => rfl

/-- An answer cancels no completion. -/
theorem completions_answer (server : Server) (task : Task) (result : Except AnalyzerError Json) :
    (server.answer task result).server.completions = server.completions := by
  cases task with
  | handshake place id call =>
    change (server.afterHandshake place call result).server.completions = _
    unfold afterHandshake
    split
    · rfl
    · exact completions_replay server place _ _
  | completing signal text context query =>
    change (afterCompletionLookup signal text context _).server.completions = _
    rw [server_afterCompletionLookup]
    exact (receiveAnswer_modest server _ query result).completions
  | hovering signal text context query =>
    change (afterHoverLookup signal text context _).server.completions = _
    rw [server_afterHoverLookup]
    exact (receiveAnswer_modest server _ query result).completions
  | _ => rfl

/-- Ending a task cancels no completion. -/
theorem completions_cancel (server : Server) (task : Task) :
    (server.cancel task).server.completions = server.completions := by
  cases task <;> rfl

end Server

end FluentAssist
