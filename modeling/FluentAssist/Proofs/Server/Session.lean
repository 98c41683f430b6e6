import FluentAssist.Proofs.Resolution.Memory
import FluentAssist.Server.Basic

/-!
# Lookups of a server whose analysis is alive

While the connection of the current session is alive, every question of a lookup is really asked:
a step of a lookup ends with the class or with a query that waits. This file says what such a step
leaves as it was and what it keeps true, so that nothing after it has to open `Server.ask`,
`Server.lookup` or `Server.receiveAnswer`.
-/

set_option autoImplicit false

namespace FluentAssist

/-- The number of answers that a lookup of the server may still wait for. -/
def LookupState.openQuestions : LookupState → Nat
  | .found _ => 0
  | .waiting query => query.progress.openQuestions

namespace Server

/-- The session in which lookups start. -/
def currentSession (server : Server) : Session := server.session server.current

/-- The current session asks an analysis that is alive. -/
structure Live (server : Server) (place : Nat) : Prop where
  asks : server.currentSession.connection = some place
  alive : (server.connection place).alive = true

variable {server : Server} {place : Nat}

/-- A session that asks an analysis is one of the sessions of the server. -/
theorem Live.current_lt (hlive : server.Live place) : server.current < server.sessions.length := by
  apply Nat.lt_of_not_le
  intro hge
  have hnone : server.sessions[server.current]? = none := List.getElem?_eq_none hge
  have hasks := hlive.asks
  simp [currentSession, session, List.getD, hnone] at hasks

/-- The connection of a live session is one of the server's. -/
theorem Live.place_lt (hlive : server.Live place) : place < server.connections.length := by
  apply Nat.lt_of_not_le
  intro hge
  have hnone : server.connections[place]? = none := List.getElem?_eq_none hge
  have halive := hlive.alive
  simp [connection, List.getD, hnone] at halive

/-- The analysis of a live session can be asked. -/
theorem Live.isAvailable (hlive : server.Live place) :
    server.isAvailable server.current = true := by
  have hasks : (server.session server.current).connection = some place := hlive.asks
  unfold Server.isAvailable
  rw [hasks]
  exact hlive.alive

/-- A new memory of a session leaves the current session the same. -/
theorem current_setMemory (server : Server) (number : Nat) (memory : Resolver) :
    (server.setMemory number memory).current = server.current := by
  simp [setMemory, current]

/-- A memory that was replaced is the one that is found. -/
theorem Live.currentSession_setMemory (hlive : server.Live place) (memory : Resolver) :
    (server.setMemory server.current memory).currentSession =
      { server.currentSession with memory := memory } := by
  have hlt := hlive.current_lt
  unfold currentSession
  rw [current_setMemory]
  simp [setMemory, session, List.getD, List.getElem?_eq_getElem hlt]

/-- A live session stays live with a new memory. -/
theorem Live.setMemory (hlive : server.Live place) (memory : Resolver) :
    (server.setMemory server.current memory).Live place := by
  constructor
  · rw [hlive.currentSession_setMemory]
    exact hlive.asks
  · exact hlive.alive

/-- A live session stays live as long as its connection is alive. -/
theorem Live.setConnection (hlive : server.Live place) {next : Analyzer.Connection}
    (halive : next.alive = true) : (server.setConnection place next).Live place := by
  constructor
  · exact hlive.asks
  · have hlt := hlive.place_lt
    simp [Server.setConnection, Server.connection, List.getD, hlt, halive]

/-- A live session stays live when a request is given up. -/
theorem Live.abandon (hlive : server.Live place) (id : Nat) :
    (server.abandon place id).Live place :=
  hlive.setConnection hlive.alive

/-- A request of the current session is sent while the analysis is alive. -/
theorem Live.exists_request? (hlive : server.Live place) (call : Analyzer.Call) :
    ∃ (next : Analyzer.Connection) (id : Nat), next.alive = true ∧
      server.request? server.current call =
        some (server.setConnection place next, place, id, .call id call) := by
  have hasks : (server.session server.current).connection = some place := hlive.asks
  refine ⟨(server.connection place).takeNumber.1.enter (server.connection place).nextId,
    (server.connection place).nextId, hlive.alive, ?_⟩
  unfold request?
  rw [hasks]
  simp only [Option.bind_eq_bind, Option.bind_some, Analyzer.Call.start,
    Analyzer.Connection.request, hlive.alive, if_true]
  rfl

/-- A lookup that has finished asks nothing. -/
theorem ask_finished (server : Server) (number : Nat) (cancelled : Bool)
    (className : Option String) :
    server.ask number cancelled (.finished className) = ⟨server, [], .found className⟩ := by
  rw [ask]
  rfl

/-- A lookup that asks something waits for the answer, while the analysis is alive. -/
theorem Live.exists_ask (hlive : server.Live place) (cancelled : Bool)
    {progress : LookupProgress} {call : Analyzer.Call} (hcall : progress.call? = some call) :
    ∃ (next : Analyzer.Connection) (id : Nat), next.alive = true ∧
      server.ask server.current cancelled progress =
        ⟨server.setConnection place next, [.toAnalyzer place (.call id call)],
          .waiting ⟨server.current, place, id, call, progress⟩⟩ := by
  obtain ⟨next, id, halive, hrequest⟩ := hlive.exists_request? call
  refine ⟨next, id, halive, ?_⟩
  rw [ask]
  split
  · rename_i hnone
    rw [hcall] at hnone
    cases hnone
  · rename_i asked hasked
    have hsame : asked = call := by
      rw [hcall] at hasked
      exact (Option.some.inj hasked).symm
    subst hsame
    rw [hrequest]

/-- A lookup of a call whose class is remembered ends at once. -/
theorem lookup_remembered (server : Server) (cancelled : Bool) (request : LookupRequest)
    {className : Option String}
    (hget : server.currentSession.memory.classes.get? request.classKey = some className) :
    server.lookup cancelled request =
      ⟨server.setMemory server.current server.currentSession.memory, [], .found className⟩ := by
  have hended (settings : Resolver.Settings) (available : Bool) :
      Resolver.lookup settings available cancelled server.currentSession.memory request =
        (server.currentSession.memory, .finished className) := by
    unfold Resolver.lookup
    rw [hget]
  unfold Server.lookup
  dsimp only
  rw [show server.session server.current = server.currentSession from rfl, hended, ask_finished]

/-! ## Lookups that are not let down -/

open Resolver (World Faithful Sound InScope)

/-- How a lookup stands that is neither cancelled nor let down: it has found the class of its call,
which is now remembered, or it waits for an answer of the analysis. Nothing is said about the class
of a call that is out of the scope. -/
def Expects (world : World) (scope : Url → Int → Prop) (key : ClassKey) (place : Nat)
    (server : Server) : LookupState → Prop
  | .found className => InScope scope key →
    className = world.classOf server.currentSession.settings.classMap key ∧
      server.currentSession.memory.classes.get? key = some className
  | .waiting query =>
    query.session = server.current ∧ query.connection = place ∧
      query.progress.call? = some query.call ∧
      Sound world scope server.currentSession.settings.classMap key (¬ InScope scope key)
        query.progress

/-- A step of a lookup that is neither cancelled nor let down. Nothing but the connections and the
memory of the current session has changed since the lookup started on a server. -/
structure Steady (world : World) (scope : Url → Int → Prop) (key : ClassKey) (place : Nat)
    (server : Server) (turn : LookupTurn) : Prop where
  same : turn.server =
    { server with connections := turn.server.connections, sessions := turn.server.sessions }
  live : turn.server.Live place
  settings : turn.server.currentSession.settings = server.currentSession.settings
  faithful : Faithful world scope turn.server.currentSession.settings.classMap
    turn.server.currentSession.memory
  calls : ∀ message ∈ turn.sent, ∃ id call, message = .toAnalyzer place (.call id call)
  state : Expects world scope key place turn.server turn.state

variable {world : World} {scope : Url → Int → Prop} {key : ClassKey}

/-- What is asked next. -/
theorem Live.ask_steady (hlive : server.Live place)
    (hfaithful : Faithful world scope server.currentSession.settings.classMap
      server.currentSession.memory)
    {progress : LookupProgress}
    (hsound : Sound world scope server.currentSession.settings.classMap key (¬ InScope scope key)
      progress)
    (hended : InScope scope key → ∀ className, progress = .finished className →
      server.currentSession.memory.classes.get? key = some className) :
    Steady world scope key place server (server.ask server.current false progress) ∧
      (server.ask server.current false progress).state.openQuestions = progress.openQuestions := by
  cases hcall : progress.call? with
  | none =>
    have hfinished : ∃ className, progress = .finished className := by
      cases progress with
      | finished className => exact ⟨className, rfl⟩
      | asking request failed stage later => cases hcall
      | tracing request failed => cases hcall
    obtain ⟨className, rfl⟩ := hfinished
    rw [ask_finished]
    refine ⟨⟨rfl, hlive, rfl, hfaithful, by simp, ?_⟩, rfl⟩
    intro hscope
    exact ⟨hsound.resolve_left (not_not_intro hscope), hended hscope className rfl⟩
  | some call =>
    obtain ⟨next, id, halive, hask⟩ := hlive.exists_ask false hcall
    rw [hask]
    refine ⟨⟨rfl, hlive.setConnection halive, rfl, hfaithful, ?_, rfl, rfl, hcall, hsound⟩, rfl⟩
    intro message hmem
    rw [List.mem_singleton] at hmem
    exact ⟨id, call, hmem⟩

/-- A step is steady since an earlier moment, if nothing else changed in between. -/
theorem Steady.since {earlier : Server} {turn : LookupTurn}
    (hsteady : Steady world scope key place server turn)
    (hsame : server =
      { earlier with connections := server.connections, sessions := server.sessions })
    (hsettings : server.currentSession.settings = earlier.currentSession.settings) :
    Steady world scope key place earlier turn := by
  refine { hsteady with same := ?_, settings := hsteady.settings.trans hsettings }
  have hturn := hsteady.same
  rw [hsame] at hturn
  exact hturn

/-- What is asked next, after something was remembered. -/
theorem Live.ask_setMemory_steady (hlive : server.Live place) {memory : Resolver}
    (hfaithful : Faithful world scope server.currentSession.settings.classMap memory)
    {progress : LookupProgress}
    (hsound : Sound world scope server.currentSession.settings.classMap key (¬ InScope scope key)
      progress)
    (hended : InScope scope key → ∀ className, progress = .finished className →
      memory.classes.get? key = some className) :
    Steady world scope key place server
        ((server.setMemory server.current memory).ask server.current false progress) ∧
      ((server.setMemory server.current memory).ask server.current false
        progress).state.openQuestions = progress.openQuestions := by
  have hsession := hlive.currentSession_setMemory memory
  obtain ⟨hsteady, hopen⟩ := (hlive.setMemory memory).ask_steady
    (by rw [hsession]; exact hfaithful) (by rw [hsession]; exact hsound)
    (by rw [hsession]; exact hended)
  rw [current_setMemory] at hsteady hopen
  exact ⟨hsteady.since rfl (by rw [hsession]), hopen⟩

/-- A lookup starts. -/
theorem Live.lookup_steady (hlive : server.Live place)
    (hfaithful : Faithful world scope server.currentSession.settings.classMap
      server.currentSession.memory) :
    Steady world scope key place server (server.lookup false (world.request key)) ∧
      (server.lookup false (world.request key)).state.openQuestions ≤ Resolver.mostAnswers := by
  obtain ⟨hremembered, hstarted⟩ := Resolver.lookup_sound key hfaithful true false
  have hsound : Sound world scope server.currentSession.settings.classMap key
      (¬ InScope scope key) _ := hstarted.mono (by
    rintro (hcancelled | ⟨-, havailable⟩ | hscope)
    · cases hcancelled
    · cases havailable
    · exact hscope)
  obtain ⟨hsteady, hopen⟩ := hlive.ask_setMemory_steady hremembered hsound
    (fun _ className hended => Resolver.get?_of_lookup_finished hended)
  have hquestions := Resolver.openQuestions_lookup_le server.currentSession.settings true false
    server.currentSession.memory (world.request key)
  unfold lookup
  dsimp only
  rw [hlive.isAvailable]
  exact ⟨hsteady, Nat.le_trans (Nat.le_of_eq hopen) hquestions⟩

/-- A lookup goes on with the answer of the analysis. -/
theorem Live.receiveAnswer_steady (hlive : server.Live place)
    (hfaithful : Faithful world scope server.currentSession.settings.classMap
      server.currentSession.memory)
    {query : Query} (hexpects : Expects world scope key place server (.waiting query))
    {result : Except AnalyzerError Json}
    (hanswer : HoverAnswer.of (query.call.conclude (server.connection place) result).2 =
      world.answer false query.progress) :
    Steady world scope key place server (server.receiveAnswer false query result) ∧
      (server.receiveAnswer false query result).state.openQuestions <
        query.progress.openQuestions := by
  obtain ⟨hsession, hconnection, hcall, hwaiting⟩ := hexpects
  have hpos := LookupProgress.openQuestions_pos_of_call? hcall
  obtain ⟨hremembered, hnext⟩ := Resolver.receive_sound hfaithful hwaiting false false
  have hsound : Sound world scope server.currentSession.settings.classMap key
      (¬ InScope scope key) _ := hnext.mono (by
    rintro (hexcused | hcancelled | hfailed | hscope)
    · exact hexcused
    · cases hcancelled
    · cases hprogress : query.progress <;> rw [hprogress] at hfailed <;> cases hfailed
    · exact hscope)
  obtain ⟨hsteady, hopen⟩ := hlive.ask_setMemory_steady hremembered hsound
    (fun hscope className hended =>
      Resolver.get?_of_receive_finished hwaiting (not_not_intro hscope) hpos hended)
  have hless := Resolver.openQuestions_receive_lt server.currentSession.settings false
    server.currentSession.memory query.progress (world.answer false query.progress) hpos
  unfold receiveAnswer
  dsimp only
  rw [hconnection, hanswer, hsession]
  exact ⟨hsteady, Nat.lt_of_le_of_lt (Nat.le_of_eq hopen) hless⟩

end Server

end FluentAssist
