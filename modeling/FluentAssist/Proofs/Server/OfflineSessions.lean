import FluentAssist.Proofs.Server.Interleaving

/-!
# Sessions without an analysis

A session that has no analysis to ask remembers no class: nothing is looked up in it, and lookups
that wait belong to sessions with an analysis. So a server without an analysis finds no class, at
once and for every request (`Server.Blank.lookup_eq`).

The invariant `Scheduler.Tidy` says this of all sessions of a server and of all its work. A turn
keeps it whatever the work is (`Turn.Tidy`). Every turn but the start of the server also leaves the
knowledge base as it is (`Turn.Orderly`).
-/

set_option autoImplicit false

namespace FluentAssist

open Protocol (Reply CompletionParams PlaceParams CommandParams)

/-- The query that a task waits for. -/
def Task.query? : Task → Option Query
  | .completing _ _ _ query => some query
  | .hovering _ _ _ query => some query
  | _ => none

namespace Server

/-- A session without an analysis remembers no class. -/
def Blank (server : Server) : Prop :=
  ∀ session ∈ server.sessions, session.connection = none → session.memory.classes.entries = []

/-- A session has an analysis to ask. -/
def Asks (server : Server) (number : Nat) : Prop :=
  (server.session number).connection.isSome = true

/-- The connections of the sessions after some time: those of later sessions come behind. -/
def Extends (server next : Server) : Prop :=
  server.sessions.map (·.connection) <+: next.sessions.map (·.connection)

end Server

/-- A turn that leaves sessions without an analysis blank, and waits in no such session. -/
structure Turn.Tidy (server : Server) (turn : Turn) : Prop where
  sessions : server.Extends turn.server
  blank : turn.server.Blank
  asks : ∀ task query, turn.next = .later task → task.query? = some query →
    turn.server.Asks query.session

/-- A tidy turn that leaves the knowledge base as it is. -/
structure Turn.Orderly (server : Server) (turn : Turn) : Prop extends Turn.Tidy server turn where
  kb : turn.server.kb = server.kb

/-- A tidy step of a lookup. -/
structure LookupTurn.Orderly (server : Server) (turn : LookupTurn) : Prop where
  sessions : server.Extends turn.server
  blank : turn.server.Blank
  kb : turn.server.kb = server.kb
  asks : ∀ query, turn.state = .waiting query → turn.server.Asks query.session

namespace Server

variable {server next : Server} {number : Nat}

/-! ## Sessions -/

/-- The connection of a session is the one in the list of connections. -/
theorem connection_session (server : Server) (number : Nat) :
    (server.session number).connection = ((server.sessions.map (·.connection))[number]?).join := by
  unfold session
  rw [List.getElem?_map, List.getD_eq_getElem?_getD]
  cases server.sessions[number]? <;> rfl

/-- With the same connections no session has changed its analysis. -/
theorem extends_of_connections_eq
    (hconnections : next.sessions.map (·.connection) = server.sessions.map (·.connection)) :
    server.Extends next :=
  ⟨[], (List.append_nil _).trans hconnections.symm⟩

/-- With the same sessions no session has changed its analysis. -/
theorem extends_of_sessions_eq (hsessions : next.sessions = server.sessions) :
    server.Extends next :=
  extends_of_connections_eq (congrArg _ hsessions)

/-- A session that has an analysis keeps it. -/
theorem Extends.asks (hextends : server.Extends next) (hasks : server.Asks number) :
    next.Asks number := by
  obtain ⟨later, hlater⟩ := hextends
  unfold Asks at hasks ⊢
  rw [connection_session] at hasks ⊢
  rw [← hlater]
  cases hget : (server.sessions.map (·.connection))[number]? with
  | none =>
    rw [hget] at hasks
    cases hasks
  | some connection =>
    rw [hget] at hasks
    obtain ⟨hlt, -⟩ := List.getElem?_eq_some_iff.mp hget
    rw [List.getElem?_append_left hlt, hget]
    exact hasks

/-- What a session with an analysis remembers does not matter. -/
theorem Blank.setMemory (hblank : server.Blank) (hasks : server.Asks number) (memory : Resolver) :
    (server.setMemory number memory).Blank := by
  intro session hmem hnone
  obtain ⟨place, hplace⟩ := List.getElem?_of_mem hmem
  rw [Server.setMemory, List.getElem?_modify] at hplace
  obtain ⟨former, hformer, hsession⟩ := Option.map_eq_some_iff.mp hplace
  by_cases hnumber : number = place
  · -- The session that changes has an analysis, so it is none of those that count.
    subst hnumber
    rw [if_pos rfl] at hsession
    have hconnection : former.connection = none := by
      rw [← hnone, ← hsession]
    unfold Asks Server.session at hasks
    rw [List.getD_eq_getElem?_getD, hformer, Option.getD_some, hconnection] at hasks
    cases hasks
  · rw [if_neg hnumber] at hsession
    rw [← hsession] at hnone ⊢
    exact hblank former (List.mem_of_getElem? hformer) hnone

/-- A new memory changes no session's analysis. -/
theorem extends_setMemory (server : Server) (number : Nat) (memory : Resolver) :
    server.Extends (server.setMemory number memory) :=
  extends_of_connections_eq (alike_setMemory server number memory).sessions

/-- A session with the memory that it has is the same. -/
theorem setMemory_self (server : Server) (number : Nat) :
    server.setMemory number (server.session number).memory = server := by
  have hsessions : server.sessions.modify number
      (fun session => { session with memory := (server.session number).memory }) =
      server.sessions := by
    apply List.ext_getElem?
    intro place
    rw [List.getElem?_modify]
    by_cases hnumber : number = place
    · subst hnumber
      unfold Server.session
      rw [List.getD_eq_getElem?_getD]
      cases server.sessions[number]? <;> simp
    · simp [hnumber]
  unfold Server.setMemory
  rw [hsessions]

/-- A new session remembers no class. -/
theorem Blank.startSession (hblank : server.Blank) (connection : Option Nat) :
    (server.startSession connection).Blank := by
  intro session hmem hnone
  rcases List.mem_append.mp hmem with hold | hnew
  · exact hblank session hold hnone
  · rw [List.mem_singleton.mp hnew]
    rfl

/-- A new session comes behind the others. -/
theorem extends_startSession (server : Server) (connection : Option Nat) :
    server.Extends (server.startSession connection) := by
  unfold Extends startSession
  rw [List.map_append]
  exact List.prefix_append _ _

/-! ## Lookups -/

/-- Sending a request changes neither the sessions nor the knowledge base. -/
theorem request?_sessions {call : Analyzer.Call} {place id : Nat} {message : Analyzer.Message}
    (hrequest : server.request? number call = some (next, place, id, message)) :
    next.sessions = server.sessions ∧ next.kb = server.kb := by
  unfold request? at hrequest
  obtain ⟨asked, -, hstart⟩ := Option.bind_eq_some_iff.mp hrequest
  split at hstart
  · cases hstart
    exact ⟨rfl, rfl⟩
  · cases hstart

/-- Asking is orderly in a session that has an analysis, also if it is gone by now. -/
theorem ask_orderly (hblank : server.Blank) (hasks : server.Asks number) (cancelled : Bool)
    (progress : LookupProgress) :
    LookupTurn.Orderly server (server.ask number cancelled progress) := by
  fun_induction Server.ask server number cancelled progress with
  | case1 server progress hcall =>
    exact ⟨extends_of_sessions_eq rfl, hblank, rfl, fun query hquery => by cases hquery⟩
  | case2 server progress call hcall next place id message hrequest =>
    obtain ⟨hsessions, hkb⟩ := request?_sessions hrequest
    have hextends : server.Extends next := extends_of_sessions_eq hsessions
    refine ⟨hextends, ?_, hkb, ?_⟩
    · change ∀ session ∈ next.sessions, _
      rw [hsessions]
      exact hblank
    · intro query hquery
      cases hquery
      exact hextends.asks hasks
  | case3 server progress call hcall hrequest session next ih =>
    -- The question cannot be sent, which counts as its answer; the next one is tried.
    have hextends := extends_setMemory server number next.1
    obtain ⟨hsessions, hblank', hkb, hwaits⟩ :=
      ih (hblank.setMemory hasks next.1) (hextends.asks hasks)
    exact ⟨hextends.trans hsessions, hblank', hkb, hwaits⟩

/-- A lookup that asks in a session with an analysis is orderly. -/
theorem ask_setMemory_orderly (hblank : server.Blank) (hasks : server.Asks number)
    (cancelled : Bool) (memory : Resolver) (progress : LookupProgress) :
    LookupTurn.Orderly server ((server.setMemory number memory).ask number cancelled progress) := by
  have hextends := extends_setMemory server number memory
  obtain ⟨hsessions, hblank', hkb, hwaits⟩ :=
    ask_orderly (hblank.setMemory hasks memory) (hextends.asks hasks) cancelled progress
  exact ⟨hextends.trans hsessions, hblank', hkb, hwaits⟩

/-- Without an analysis a lookup finds no class at once and changes nothing. -/
theorem Blank.lookup_eq (hblank : server.Blank) (hoffline : server.analyzer? = none)
    (cancelled : Bool) (request : LookupRequest) :
    server.lookup cancelled request = ⟨server, [], .found none⟩ := by
  have hforgotten : (server.session server.current).memory.classes.get? request.classKey =
      none := by
    have hentries : (server.session server.current).memory.classes.entries = [] := by
      unfold analyzer? at hoffline
      unfold session at hoffline ⊢
      rw [List.getD_eq_getElem?_getD] at hoffline ⊢
      cases hget : server.sessions[server.current]? with
      | none => rfl
      | some session =>
        rw [hget] at hoffline
        exact hblank session (List.mem_of_getElem? hget) hoffline
    unfold BoundedCache.get?
    rw [hentries]
    rfl
  have hgone : server.isAvailable server.current = false := by
    unfold analyzer? at hoffline
    unfold isAvailable
    rw [hoffline]
  unfold lookup
  dsimp only
  rw [hgone, Resolver.lookup, hforgotten]
  dsimp only
  rw [if_neg Bool.false_ne_true, setMemory_self, ask_finished]

/-- The first step of a lookup is orderly. -/
theorem lookup_orderly (hblank : server.Blank) (cancelled : Bool) (request : LookupRequest) :
    LookupTurn.Orderly server (server.lookup cancelled request) := by
  cases hoffline : server.analyzer? with
  | none =>
    rw [hblank.lookup_eq hoffline]
    exact ⟨extends_of_sessions_eq rfl, hblank, rfl, fun query hquery => by cases hquery⟩
  | some place =>
    have hasks : server.Asks server.current := by
      change server.analyzer?.isSome = true
      rw [hoffline]
      rfl
    exact ask_setMemory_orderly hblank hasks cancelled _ _

/-! ## Turns -/

/-- A turn that touches neither sessions nor the knowledge base, and asks nothing. -/
theorem orderly_of_sessions_eq (hblank : server.Blank) {turn : Turn}
    (hsessions : turn.server.sessions = server.sessions) (hkb : turn.server.kb = server.kb)
    (hnext : ∀ task, turn.next = .later task → task.query? = none) :
    Turn.Orderly server turn := by
  refine ⟨⟨extends_of_sessions_eq hsessions, ?_, ?_⟩, hkb⟩
  · unfold Blank
    rw [hsessions]
    exact hblank
  · intro task query htask hquery
    rw [hnext task htask] at hquery
    cases hquery

/-- A turn that is done and leaves sessions and knowledge base alone is orderly. -/
theorem orderly_done (hblank : server.Blank) {turn : Turn} {reply : Reply}
    (hnext : turn.next = .done reply) (hsessions : turn.server.sessions = server.sessions)
    (hkb : turn.server.kb = server.kb) : Turn.Orderly server turn := by
  apply orderly_of_sessions_eq hblank hsessions hkb
  intro task htask
  rw [hnext] at htask
  cases htask

/-- A turn that goes on with a lookup is as orderly as the lookup. -/
theorem orderly_of_lookup {lookup : LookupTurn} {turn : Turn}
    (hlookup : LookupTurn.Orderly server lookup) (hserver : turn.server = lookup.server)
    (hnext : ∀ task query, turn.next = .later task → task.query? = some query →
      lookup.state = .waiting query) : Turn.Orderly server turn := by
  refine ⟨⟨?_, ?_, ?_⟩, ?_⟩
  · rw [hserver]
    exact hlookup.sessions
  · rw [hserver]
    exact hlookup.blank
  · intro task query htask hquery
    rw [hserver]
    exact hlookup.asks query (hnext task query htask hquery)
  · rw [hserver]
    exact hlookup.kb

/-- A completion takes over that a step of its lookup is orderly. -/
theorem afterCompletionLookup_orderly {lookup : LookupTurn}
    (hlookup : LookupTurn.Orderly server lookup) (signal : CancelSignal) (text : Text)
    (context : Context) :
    Turn.Orderly server (afterCompletionLookup signal text context lookup) := by
  apply orderly_of_lookup hlookup (server_afterCompletionLookup signal text context lookup)
  intro task query htask hquery
  unfold afterCompletionLookup at htask
  cases hstate : lookup.state with
  | found className =>
    rw [hstate] at htask
    cases htask
  | waiting other =>
    rw [hstate] at htask
    cases htask
    cases hquery
    rfl

/-- A hover takes over that a step of its lookup is orderly. -/
theorem afterHoverLookup_orderly {lookup : LookupTurn}
    (hlookup : LookupTurn.Orderly server lookup) (signal : CancelSignal) (text : Text)
    (context : Context) :
    Turn.Orderly server (afterHoverLookup signal text context lookup) := by
  apply orderly_of_lookup hlookup (server_afterHoverLookup signal text context lookup)
  intro task query htask hquery
  unfold afterHoverLookup at htask
  cases hstate : lookup.state with
  | found className =>
    rw [hstate] at htask
    cases htask
  | waiting other =>
    rw [hstate] at htask
    cases htask
    cases hquery
    rfl

end Server

/-- A turn is orderly since an earlier moment with the same sessions and the same tables. -/
theorem Turn.Orderly.since {server next : Server} {turn : Turn} (horderly : Turn.Orderly next turn)
    (hsessions : next.sessions = server.sessions) (hkb : next.kb = server.kb) :
    Turn.Orderly server turn := by
  refine ⟨⟨?_, horderly.blank, horderly.asks⟩, horderly.kb.trans hkb⟩
  exact (Server.extends_of_sessions_eq hsessions).trans horderly.sessions

namespace Server

variable {server next : Server}

/-- The first turn of a completion is orderly. -/
theorem completion_orderly (hblank : server.Blank) (params : CompletionParams) :
    Turn.Orderly server (server.completion params) := by
  obtain ⟨document, context, hcompletes⟩ | ⟨completions, reply, hanswered⟩ :=
    completion_cases server params
  · rw [hcompletes.completion_eq]
    have hblank' : (server.completing params.place.uri).Blank := hblank
    unfold completeIn
    split
    · exact orderly_done hblank rfl rfl rfl
    · exact (afterCompletionLookup_orderly (lookup_orderly hblank' _ _) _ _ _).since rfl rfl
  · rw [hanswered]
    exact orderly_done hblank rfl rfl rfl

/-- A hover in a context is orderly. -/
theorem hoverIn_orderly (hblank : server.Blank) (document : Snapshot) (context : Context) :
    Turn.Orderly server (server.hoverIn document context) := by
  unfold hoverIn
  split
  · exact orderly_done hblank rfl rfl rfl
  · split
    · exact orderly_done hblank rfl rfl rfl
    · dsimp only
      generalize server.hovers.start document.uri = started
      have hblank' : Blank { server with hovers := started.1 } := hblank
      have hlookup := lookup_orderly hblank' (started.2.isCancelled started.1)
        ⟨document, context.kind, context.matchStart⟩
      exact (afterHoverLookup_orderly hlookup started.2 document.text context).since rfl rfl

/-- The first turn of a hover is orderly. -/
theorem hover_orderly (hblank : server.Blank) (place : PlaceParams) :
    Turn.Orderly server (server.hover place) := by
  unfold hover
  split
  · split
    · exact orderly_done hblank rfl rfl rfl
    · rename_i document hopen
      generalize Cursor.classify document.text (Text.offsetAt document.text place.position)
        server.settings.completion.lookback = found
      match found with
      | .error _ => exact orderly_done hblank rfl rfl rfl
      | .ok none => exact orderly_done hblank rfl rfl rfl
      | .ok (some context) => exact hoverIn_orderly hblank document context
  · exact orderly_done hblank rfl rfl rfl

/-- A command is orderly. -/
theorem runCommand_orderly (hblank : server.Blank) (files : FileSystem Id)
    (params : CommandParams) : Turn.Orderly server (Id.run (server.runCommand files params)) := by
  unfold runCommand
  split
  · simp only [switchFile, bind, pure, Id.run]
    split
    · exact orderly_done hblank rfl rfl rfl
    · split
      · exact orderly_done hblank rfl rfl rfl
      · split
        · split <;> exact orderly_done hblank rfl rfl rfl
        · exact orderly_done hblank rfl rfl rfl
        · exact orderly_done hblank rfl rfl rfl
  · simp only [pure, Id.run, openPreview]
    split <;> exact orderly_done hblank rfl rfl rfl
  · simp only [pure, Id.run, disposePreview]
    exact orderly_done hblank rfl rfl rfl
  · exact orderly_done hblank rfl rfl rfl

/-- Starting an analysis is orderly. -/
theorem ready_orderly (hblank : server.Blank) (host : Host Id) :
    Turn.Orderly server (Id.run (server.ready host)) := by
  unfold ready
  split
  · split
    · exact orderly_done hblank rfl rfl rfl
    · simp only [bind, pure, Id.run]
      split
      · exact orderly_done hblank rfl rfl rfl
      · unfold greet
        dsimp only
        split
        · exact orderly_done hblank rfl rfl rfl
        · refine orderly_of_sessions_eq hblank rfl rfl ?_
          intro task htask
          cases htask
          rfl
  · exact orderly_done hblank rfl rfl rfl

/-- Stopping the analysis is orderly. -/
theorem stop_orderly (hblank : server.Blank) : Turn.Orderly server server.stop := by
  unfold stop
  split
  · exact orderly_done hblank rfl rfl rfl
  · rename_i next place id message hrequest
    obtain ⟨hsessions, hkb⟩ := request?_sessions hrequest
    refine orderly_of_sessions_eq hblank hsessions hkb ?_
    intro task htask
    cases htask
    rfl

/-- A document is stored at once, or after others have had their turn. -/
theorem forward_orderly (hblank : server.Blank) (sent : List Outgoing) (next : Server)
    (task : Task) (hsessions : next.sessions = server.sessions) (hkb : next.kb = server.kb)
    (htask : task.query? = none) :
    Turn.Orderly server
      (match sent with
        | [] => .done next .silent
        | sent => ⟨server, sent, .later task⟩) := by
  split
  · exact orderly_done hblank rfl hsessions hkb
  · refine orderly_of_sessions_eq hblank rfl rfl ?_
    intro other hother
    cases hother
    exact htask

/-- All work but the start of the server is orderly. -/
theorem work_orderly (hblank : server.Blank) (host : Host Id) {work : Work}
    (hwork : ∀ params, work ≠ .start params) :
    Turn.Orderly server (Id.run (server.work host work)) := by
  cases work with
  | reply reply => exact orderly_done hblank rfl rfl rfl
  | start params => exact absurd rfl (hwork params)
  | restart reply => exact orderly_done hblank rfl rfl rfl
  | ready => exact ready_orderly hblank host
  | opened document =>
    exact forward_orderly hblank _ (server.store document) (.opening document) rfl rfl rfl
  | changed params =>
    rw [work_changed]
    split
    · rename_i document hdocument
      exact forward_orderly hblank _ (server.storeChange document) (.changing document) rfl rfl
        rfl
    · exact orderly_done hblank rfl rfl rfl
  | closed uri => exact orderly_done hblank rfl rfl rfl
  | configured settings => exact orderly_done hblank rfl rfl rfl
  | completion params => exact completion_orderly hblank params
  | hover place => exact hover_orderly hblank place
  | command params => exact runCommand_orderly hblank host.files params
  | stop => exact stop_orderly hblank
  | cancel id => exact orderly_done hblank rfl rfl rfl

/-- The first turn of any work is tidy. -/
theorem work_tidy (hblank : server.Blank) (host : Host Id) (work : Work) :
    Turn.Tidy server (Id.run (server.work host work)) := by
  by_cases hwork : ∃ params, work = .start params
  · obtain ⟨params, rfl⟩ := hwork
    -- The start opens a session, and replaces the tables.
    obtain ⟨former, hserver, hsessions⟩ : ∃ former : Server,
        (Id.run (server.work host (.start params))).server = former.startSession none ∧
          former.sessions = server.sessions := ⟨_, rfl, rfl⟩
    have hblank' : former.Blank := by
      unfold Blank
      rw [hsessions]
      exact hblank
    refine ⟨?_, ?_, fun task query htask => by cases htask⟩
    · rw [hserver]
      exact (extends_of_sessions_eq hsessions).trans (extends_startSession former none)
    · rw [hserver]
      exact hblank'.startSession none
  · exact (work_orderly hblank host (not_exists.mp hwork)).toTidy

/-- Telling a new analysis of the open scripts is orderly. -/
theorem replay_orderly (hblank : server.Blank) (place : Nat) (left : List Snapshot)
    (sent : List Outgoing) : Turn.Orderly server (server.replay place left sent) := by
  induction left generalizing sent with
  | nil =>
    -- All documents are replayed, and the new session has the analysis.
    refine ⟨⟨extends_startSession server (some place), hblank.startSession (some place), ?_⟩, rfl⟩
    intro task query htask
    cases htask
  | cons document left ih =>
    unfold replay
    split
    · exact ih sent
    · refine orderly_of_sessions_eq hblank rfl rfl ?_
      intro task htask
      cases htask
      rfl

/-- A turn of a task is orderly, if its query is asked in a session with an analysis. -/
theorem turn?_orderly (hblank : server.Blank) {task : Task} {moment : Moment} {turn : Turn}
    (hasks : ∀ query, task.query? = some query → server.Asks query.session)
    (hturn : task.turn? server moment = some turn) : Turn.Orderly server turn := by
  obtain ⟨-, hwaits, rfl⟩ | ⟨result, -, hwaits, rfl⟩ | ⟨-, hcancelled, rfl⟩ :=
    Task.turn?_cases hturn
  · cases task with
    | replaying place left => exact replay_orderly hblank place left []
    | opening document => exact orderly_done hblank rfl rfl rfl
    | changing document => exact orderly_done hblank rfl rfl rfl
    | _ => cases hwaits
  · cases task with
    | handshake place id call =>
      change Turn.Orderly server (server.afterHandshake place call result)
      unfold afterHandshake
      split
      · exact orderly_done hblank rfl rfl rfl
      · exact replay_orderly hblank place _ _
    | completing signal text context query =>
      exact afterCompletionLookup_orderly
        (ask_setMemory_orderly hblank (hasks query rfl) _ _ _) signal text context
    | hovering signal text context query =>
      exact afterHoverLookup_orderly
        (ask_setMemory_orderly hblank (hasks query rfl) _ _ _) signal text context
    | stopping place id => exact orderly_done hblank rfl rfl rfl
    | _ => cases hwaits
  · cases task with
    | completing signal text context query => exact orderly_done hblank rfl rfl rfl
    | hovering signal text context query => exact orderly_done hblank rfl rfl rfl
    | _ => cases hcancelled

end Server

/-! ## Whole runs -/

/-- Whether an event is the start of the server. -/
def SchedulerEvent.isStart : SchedulerEvent → Bool
  | .arrives _ (.start _) => true
  | _ => false

namespace Scheduler

/-- Sessions without an analysis are blank, and no work waits in them. -/
structure Tidy (scheduler : Scheduler) : Prop where
  blank : scheduler.server.Blank
  asks : ∀ handler ∈ scheduler.running, ∀ query, handler.task.query? = some query →
    scheduler.server.Asks query.session

variable {scheduler : Scheduler}

/-- A tidy turn keeps the scheduler tidy. -/
theorem Tidy.absorb (htidy : scheduler.Tidy) (ticket : Nat) {turn : Turn}
    (hturn : Turn.Tidy scheduler.server turn) : (scheduler.absorb ticket turn).Tidy := by
  refine ⟨hturn.blank, ?_⟩
  intro handler hmem query hquery
  rcases List.mem_append.mp hmem with hold | hnew
  · exact hturn.sessions.asks (htidy.asks handler hold query hquery)
  · obtain ⟨task, htask, rfl⟩ := List.mem_map.mp hnew
    cases hnext : turn.next with
    | done reply =>
      rw [hnext] at htask
      cases htask
    | later other =>
      rw [hnext] at htask
      rw [List.mem_singleton.mp htask] at hquery
      exact hturn.asks other query hnext hquery

/-- A task that waits for a query waits in a session with an analysis. -/
theorem Tidy.asks_of_task? (htidy : scheduler.Tidy) {ticket : Nat} {task : Task}
    (htask : scheduler.task? ticket = some task) {query : Query}
    (hquery : task.query? = some query) :
    scheduler.server.Asks query.session := by
  obtain ⟨handler, hfind, rfl⟩ := Option.map_eq_some_iff.mp htask
  exact htidy.asks handler (List.mem_of_find?_eq_some hfind) query hquery

/-- An event keeps the scheduler tidy. -/
theorem Tidy.step (htidy : scheduler.Tidy) (event : SchedulerEvent) :
    (scheduler.step event).Tidy := by
  cases event with
  | arrives host work =>
    have hraised : Tidy { scheduler with tickets := scheduler.tickets + 1 } :=
      ⟨htidy.blank, htidy.asks⟩
    exact hraised.absorb scheduler.tickets (Server.work_tidy htidy.blank host work)
  | resumes ticket moment =>
    unfold Scheduler.step
    dsimp only
    split
    · exact htidy
    · rename_i turn hturn
      obtain ⟨task, htask, hturn⟩ := Option.bind_eq_some_iff.mp hturn
      have hothers : (scheduler.others ticket).Tidy :=
        ⟨htidy.blank, fun handler hmem => htidy.asks handler (List.mem_filter.mp hmem).1⟩
      refine hothers.absorb ticket (Server.turn?_orderly htidy.blank ?_ hturn).toTidy
      intro query hquery
      exact htidy.asks_of_task? htask hquery
  | hears place connection => exact ⟨htidy.blank, htidy.asks⟩

/-- A scheduler that came about, in any way, from a server that was just made. -/
def ReachedFromStart (scheduler : Scheduler) : Prop :=
  ∃ (settings : Settings) (kb : KnowledgeBase) (traces : Bool) (events : List SchedulerEvent),
    scheduler = run { server := { settings := settings, kb := kb, traces := traces } } events

/-- Whatever came about from a new server is tidy. -/
theorem ReachedFromStart.tidy (hreached : scheduler.ReachedFromStart) : scheduler.Tidy := by
  have hrun : ∀ (events : List SchedulerEvent) {scheduler : Scheduler}, scheduler.Tidy →
      (scheduler.run events).Tidy := by
    intro events
    induction events with
    | nil => exact id
    | cons event later ih => exact fun htidy => ih (htidy.step event)
  obtain ⟨settings, kb, traces, events, rfl⟩ := hreached
  refine hrun events ⟨?_, by simp⟩
  intro session hmem _
  rw [List.mem_singleton.mp hmem]
  rfl

/-- An event that is not the start of the server leaves the knowledge base as it is. -/
theorem Tidy.kb_step (htidy : scheduler.Tidy) {event : SchedulerEvent}
    (hevent : event.isStart = false) :
    (scheduler.step event).server.kb = scheduler.server.kb := by
  cases event with
  | arrives host work =>
    have hwork : ∀ params, work ≠ .start params := by
      rintro params rfl
      cases hevent
    exact (Server.work_orderly htidy.blank host hwork).kb
  | resumes ticket moment =>
    unfold Scheduler.step
    dsimp only
    split
    · rfl
    · rename_i turn hturn
      obtain ⟨task, htask, hturn⟩ := Option.bind_eq_some_iff.mp hturn
      exact (Server.turn?_orderly htidy.blank (fun _ => htidy.asks_of_task? htask) hturn).kb
  | hears place connection => rfl

end Scheduler

end FluentAssist
