import FluentAssist.Analyzer.Connection
import Mathlib.Data.List.Induction
import Mathlib.Data.List.Nodup

/-!
# Which answer belongs to which request

Requests start and are dropped by their callers, messages of any shape come in, and at some time the
stream ends. `Traffic` is a connection with a record of what became of its requests, and a run is
any sequence of these events.

`Traffic.Sound` is what every event preserves: numbers are used once, a request has at most one
outcome, and the pending requests are exactly those that were started and have neither an outcome
nor been dropped. Where an outcome comes from is a statement about the run: `outcome_origin` finds
the message that gave it, and that message is the first that could.
-/

set_option autoImplicit false

namespace FluentAssist.Analyzer

/-- A message answers a request: it has no method, and its number is that of the request. -/
def Answers (message : Json) (id : Nat) : Prop :=
  (message.get? "method").bind Json.string? = none ∧
    ∃ value, message.get? "id" = some value ∧ value.int64? = some (id : Int)

/-- The numbers of requests are the natural numbers among the signed ones. -/
theorem natBelow?_eq_some_iff (value : Json) (id : Nat) :
    value.natBelow? wordSize63 = some id ↔ value.int64? = some (id : Int) := by
  unfold Json.natBelow? Json.int64?
  split
  · rename_i number
    rw [Option.ite_none_right_eq_some, Option.ite_none_right_eq_some, Option.some.injEq,
      Option.some.injEq]
    omega
  · simp

/-- The outcomes of requests among effects. -/
def outcomesIn (effects : List Effect) : List (Nat × Except AnalyzerError Json) :=
  effects.filterMap fun
    | .outcome id result => some (id, result)
    | .reply _ => none

/-- The outcomes among effects one after another come in their order. -/
theorem outcomesIn_append (effects more : List Effect) :
    outcomesIn (effects ++ more) = outcomesIn effects ++ outcomesIn more :=
  List.filterMap_append

namespace Connection

variable {connection : Connection} {message : Json}

/-- A value that names a pending request names its number. -/
theorem pendingId?_eq_some_iff (value : Json) (id : Nat) :
    connection.pendingId? value = some id ↔
      value.int64? = some (id : Int) ∧ id ∈ connection.pending := by
  unfold pendingId?
  rw [Option.filter_eq_some_iff, natBelow?_eq_some_iff, List.contains_iff_mem]

/-- The answer to a pending request ends it. -/
theorem dispatch_of_answers {id : Nat} (hanswers : Answers message id)
    (hpending : id ∈ connection.pending) :
    connection.dispatch message =
      (connection.settle id, [.outcome id (responseResult message)]) := by
  obtain ⟨hmethod, value, hvalue, hnumber⟩ := hanswers
  have hid : connection.pendingId? value = some id :=
    (pendingId?_eq_some_iff value id).mpr ⟨hnumber, hpending⟩
  unfold dispatch
  simp only [hvalue, hmethod, hid]

/-- A message that answers no pending request changes nothing and has no outcome. -/
theorem dispatch_of_not_answers (hstray : ∀ id ∈ connection.pending, ¬ Answers message id) :
    (connection.dispatch message).1 = connection ∧
      outcomesIn (connection.dispatch message).2 = [] := by
  unfold dispatch
  cases hvalue : message.get? "id" with
  | none => exact ⟨rfl, rfl⟩
  | some value =>
    cases hmethod : (message.get? "method").bind Json.string? with
    | some method => exact ⟨rfl, rfl⟩
    | none =>
      dsimp only
      cases hid : connection.pendingId? value with
      | none => exact ⟨rfl, rfl⟩
      | some id =>
        obtain ⟨hnumber, hpending⟩ := (pendingId?_eq_some_iff value id).mp hid
        exact absurd ⟨hmethod, value, hvalue, hnumber⟩ (hstray id hpending)

/-- Settling a request takes it out of the pending ones, and no other. -/
theorem mem_pending_settle {id other : Nat} :
    other ∈ (connection.settle id).pending ↔ other ∈ connection.pending ∧ other ≠ id := by
  simp [settle]

/-- Handling a message does not end a connection. -/
theorem alive_dispatch (connection : Connection) (message : Json) :
    (connection.dispatch message).1.alive = connection.alive := by
  by_cases hstray : ∀ id ∈ connection.pending, ¬ Answers message id
  · rw [(dispatch_of_not_answers hstray).1]
  · push Not at hstray
    obtain ⟨id, hpending, hanswers⟩ := hstray
    rw [dispatch_of_answers hanswers hpending]
    rfl

/-- The end of a connection gives every pending request the outcome that it is closed. -/
theorem outcomesIn_finish (connection : Connection) :
    outcomesIn connection.finish.2 =
      connection.pending.map fun id => (id, Except.error AnalyzerError.closed) := by
  simp [finish, stop, clear, outcomesIn, List.filterMap_map]

end Connection

/-! ## Runs -/

/-- A connection and what became of its requests. -/
structure Traffic where
  connection : Connection
  /-- The numbers of the requests in the order in which they were started. -/
  issued : List Nat
  /-- The outcomes of requests in the order in which they came. -/
  outcomes : List (Nat × Except AnalyzerError Json)
  /-- The requests whose callers went away. -/
  dropped : List Nat

/-- What may happen next. -/
inductive TrafficEvent
  | starts
  /-- The caller of a request goes away. -/
  | drops (id : Nat)
  /-- A message comes in. -/
  | hears (message : Json)
  /-- The stream ends. -/
  | ends

namespace Traffic

/-- A new connection. -/
def start : Traffic := ⟨{}, [], [], []⟩

/-- Lets an event happen. A request that was never started cannot be dropped, and after the end of
the stream nothing is read. -/
def step (traffic : Traffic) : TrafficEvent → Traffic
  | .starts =>
    match traffic.connection.request with
    | .ok (next, id) => { traffic with connection := next, issued := traffic.issued ++ [id] }
    | .error _ => traffic
  | .drops id =>
    if id ∈ traffic.issued then
      { traffic with
        connection := traffic.connection.settle id
        dropped := traffic.dropped ++ [id] }
    else traffic
  | .hears message =>
    if traffic.connection.alive then
      let (next, effects) := traffic.connection.dispatch message
      { traffic with connection := next, outcomes := traffic.outcomes ++ outcomesIn effects }
    else traffic
  | .ends =>
    if traffic.connection.alive then
      let (next, effects) := traffic.connection.finish
      { traffic with connection := next, outcomes := traffic.outcomes ++ outcomesIn effects }
    else traffic

/-- Lets events happen one after another. -/
def run (traffic : Traffic) (events : List TrafficEvent) : Traffic :=
  events.foldl step traffic

/-- The requests with an outcome. -/
def resolved (traffic : Traffic) : List Nat := traffic.outcomes.map Prod.fst

/-! ## What every event preserves -/

/-- Numbers are used once, a request has at most one outcome, and pending are the requests that were
started and have neither an outcome nor been dropped. -/
structure Sound (traffic : Traffic) : Prop where
  below : ∀ id ∈ traffic.issued, id < traffic.connection.nextId
  fresh : traffic.issued.Nodup
  once : traffic.resolved.Nodup
  started : ∀ id ∈ traffic.resolved, id ∈ traffic.issued
  given : ∀ id ∈ traffic.dropped, id ∈ traffic.issued
  distinct : traffic.connection.pending.Nodup
  outstanding : ∀ id, id ∈ traffic.connection.pending ↔
    id ∈ traffic.issued ∧ id ∉ traffic.resolved ∧ id ∉ traffic.dropped
  ended : traffic.connection.alive = false → traffic.connection.pending = []

/-- Nothing is wrong before the first event. -/
theorem start_sound : start.Sound := by
  constructor <;> simp [start, resolved]

variable {traffic : Traffic}

/-- While a request is pending, the stream has not ended. -/
theorem Sound.alive_of_mem (hsound : traffic.Sound) {id : Nat}
    (hpending : id ∈ traffic.connection.pending) : traffic.connection.alive = true := by
  cases halive : traffic.connection.alive with
  | true => rfl
  | false =>
    rw [hsound.ended halive] at hpending
    cases hpending

/-- While the analysis is there, a request starts under the next number. -/
theorem step_starts (halive : traffic.connection.alive = true) :
    traffic.step .starts =
      { traffic with
        connection := traffic.connection.takeNumber.1.enter traffic.connection.nextId
        issued := traffic.issued ++ [traffic.connection.nextId] } := by
  dsimp only [step, Connection.request]
  rw [if_pos halive]
  rfl

/-- The answer to a pending request is its outcome. -/
theorem Sound.step_hears_of_answers (hsound : traffic.Sound) {message : Json} {id : Nat}
    (hanswers : Answers message id) (hpending : id ∈ traffic.connection.pending) :
    traffic.step (.hears message) =
      { traffic with
        connection := traffic.connection.settle id
        outcomes := traffic.outcomes ++ [(id, responseResult message)] } := by
  dsimp only [step]
  rw [if_pos (hsound.alive_of_mem hpending),
    Connection.dispatch_of_answers hanswers hpending]
  rfl

/-- A message that answers no pending request changes nothing. -/
theorem step_hears_of_not_answers {message : Json}
    (hstray : ∀ id ∈ traffic.connection.pending, ¬ Answers message id) :
    traffic.step (.hears message) = traffic := by
  obtain ⟨hconnection, houtcomes⟩ := Connection.dispatch_of_not_answers hstray
  dsimp only [step]
  rw [hconnection, houtcomes, List.append_nil]
  exact ite_self _

/-- The end of the stream is the outcome of all pending requests. -/
theorem step_ends (halive : traffic.connection.alive = true) :
    traffic.step .ends =
      { traffic with
        connection := traffic.connection.finish.1
        outcomes := traffic.outcomes ++
          traffic.connection.pending.map fun id => (id, .error .closed) } := by
  dsimp only [step]
  rw [if_pos halive, Connection.outcomesIn_finish]

/-- A new request leaves everything sound. -/
theorem Sound.starts (hsound : traffic.Sound) : (traffic.step .starts).Sound := by
  cases halive : traffic.connection.alive with
  | false =>
    have hsame : traffic.step .starts = traffic := by
      simp [Traffic.step, Connection.request, halive]
    rw [hsame]
    exact hsound
  | true =>
    have hnew : traffic.connection.nextId ∉ traffic.issued := fun hmem =>
      Nat.lt_irrefl _ (hsound.below _ hmem)
    rw [step_starts halive]
    constructor
    · intro id hmem
      rcases List.mem_append.mp hmem with hold | hlast
      · exact Nat.lt_succ_of_lt (hsound.below id hold)
      · rw [List.mem_singleton] at hlast
        rw [hlast]
        exact Nat.lt_succ_self _
    · exact List.nodup_append.mpr ⟨hsound.fresh, List.nodup_singleton _, by
        intro id hmem other hlast heq
        rw [List.mem_singleton] at hlast
        rw [heq, hlast] at hmem
        exact hnew hmem⟩
    · exact hsound.once
    · intro id hmem
      exact List.mem_append_left _ (hsound.started id hmem)
    · intro id hmem
      exact List.mem_append_left _ (hsound.given id hmem)
    · exact List.nodup_append.mpr ⟨hsound.distinct, List.nodup_singleton _, by
        intro id hmem other hlast heq
        rw [List.mem_singleton] at hlast
        rw [heq, hlast] at hmem
        exact hnew ((hsound.outstanding _).mp hmem).1⟩
    · intro id
      have hresolved : traffic.connection.nextId ∉ traffic.resolved := fun hmem =>
        hnew (hsound.started _ hmem)
      have hdropped : traffic.connection.nextId ∉ traffic.dropped := fun hmem =>
        hnew (hsound.given _ hmem)
      have hold := hsound.outstanding id
      simp only [Connection.enter, Connection.takeNumber, List.mem_append, List.mem_singleton,
        resolved] at hold hresolved hdropped ⊢
      grind
    · intro hdead
      rw [show (traffic.connection.takeNumber.1.enter traffic.connection.nextId).alive =
        traffic.connection.alive from rfl, halive] at hdead
      cases hdead

/-- Giving a request up leaves everything sound. -/
theorem Sound.drops (hsound : traffic.Sound) (id : Nat) : (traffic.step (.drops id)).Sound := by
  dsimp only [step]
  split
  · rename_i hissued
    constructor
    · exact hsound.below
    · exact hsound.fresh
    · exact hsound.once
    · exact hsound.started
    · intro other hmem
      rcases List.mem_append.mp hmem with hold | hlast
      · exact hsound.given other hold
      · rw [List.mem_singleton] at hlast
        rw [hlast]
        exact hissued
    · exact hsound.distinct.filter _
    · intro other
      rw [Connection.mem_pending_settle, hsound.outstanding other, List.mem_append,
        List.mem_singleton]
      constructor
      · rintro ⟨⟨hstarted, hresolved, hdropped⟩, hne⟩
        exact ⟨hstarted, hresolved, fun hmem => hmem.elim hdropped hne⟩
      · rintro ⟨hstarted, hresolved, hdropped⟩
        exact ⟨⟨hstarted, hresolved, fun hmem => hdropped (Or.inl hmem)⟩,
          fun heq => hdropped (Or.inr heq)⟩
    · intro hdead
      have hnone := hsound.ended hdead
      simp [Connection.settle, hnone]
  · exact hsound

/-- New outcomes preserve the invariant if they are those of different pending requests, which are
then no longer pending. -/
theorem Sound.resolve (hsound : traffic.Sound) {next : Connection}
    {more : List (Nat × Except AnalyzerError Json)}
    (hnumber : next.nextId = traffic.connection.nextId) (hdistinct : next.pending.Nodup)
    (hmore : (more.map Prod.fst).Nodup)
    (hpending : ∀ id ∈ more.map Prod.fst, id ∈ traffic.connection.pending)
    (hleft : ∀ id, id ∈ next.pending ↔
      id ∈ traffic.connection.pending ∧ id ∉ more.map Prod.fst)
    (hended : next.alive = false → next.pending = []) :
    Sound { traffic with connection := next, outcomes := traffic.outcomes ++ more } := by
  have hresolved : resolved { traffic with
      connection := next
      outcomes := traffic.outcomes ++ more } = traffic.resolved ++ more.map Prod.fst :=
    List.map_append
  constructor
  · rw [hnumber]
    exact hsound.below
  · exact hsound.fresh
  · rw [hresolved]
    refine List.nodup_append.mpr ⟨hsound.once, hmore, ?_⟩
    intro id hold other hnew heq
    rw [← heq] at hnew
    exact ((hsound.outstanding id).mp (hpending id hnew)).2.1 hold
  · intro id hmem
    rw [hresolved, List.mem_append] at hmem
    rcases hmem with hold | hnew
    · exact hsound.started id hold
    · exact ((hsound.outstanding id).mp (hpending id hnew)).1
  · exact hsound.given
  · exact hdistinct
  · intro id
    rw [hleft, hresolved, hsound.outstanding id, List.mem_append]
    constructor
    · rintro ⟨⟨hstarted, hopen, hdropped⟩, hnew⟩
      exact ⟨hstarted, fun hmem => hmem.elim hopen hnew, hdropped⟩
    · rintro ⟨hstarted, hopen, hdropped⟩
      exact ⟨⟨hstarted, fun hmem => hopen (Or.inl hmem), hdropped⟩,
        fun hnew => hopen (Or.inr hnew)⟩
  · exact hended

/-- A message that is heard leaves everything sound. -/
theorem Sound.hears (hsound : traffic.Sound) (message : Json) :
    (traffic.step (.hears message)).Sound := by
  by_cases hstray : ∀ id ∈ traffic.connection.pending, ¬ Answers message id
  · rw [step_hears_of_not_answers hstray]
    exact hsound
  · push Not at hstray
    obtain ⟨id, hpending, hanswers⟩ := hstray
    rw [hsound.step_hears_of_answers hanswers hpending]
    apply hsound.resolve
    · rfl
    · exact hsound.distinct.filter _
    · exact List.nodup_singleton _
    · intro other hmem
      rw [List.map_singleton, List.mem_singleton] at hmem
      rw [hmem]
      exact hpending
    · intro other
      rw [Connection.mem_pending_settle, List.map_singleton, List.mem_singleton]
    · intro hdead
      have hnone := hsound.ended hdead
      simp [Connection.settle, hnone]

/-- The end of the connection leaves everything sound. -/
theorem Sound.ends (hsound : traffic.Sound) : (traffic.step .ends).Sound := by
  cases halive : traffic.connection.alive with
  | false =>
    have hsame : traffic.step .ends = traffic := by
      simp [Traffic.step, halive]
    rw [hsame]
    exact hsound
  | true =>
    have hall : (traffic.connection.pending.map fun id =>
        (id, (Except.error AnalyzerError.closed : Except AnalyzerError Json))).map Prod.fst =
        traffic.connection.pending := by
      simp [Function.comp_def]
    rw [step_ends halive]
    apply hsound.resolve
    · rfl
    · exact List.nodup_nil
    · rw [hall]
      exact hsound.distinct
    · rw [hall]
      exact fun id hmem => hmem
    · intro id
      rw [hall]
      constructor
      · intro hmem
        cases hmem
      · rintro ⟨hpending, hleft⟩
        exact absurd hpending hleft
    · intro _
      rfl

/-- Every event preserves the invariant. -/
theorem Sound.step (hsound : traffic.Sound) (event : TrafficEvent) :
    (traffic.step event).Sound := by
  cases event with
  | starts => exact hsound.starts
  | drops id => exact hsound.drops id
  | hears message => exact hsound.hears message
  | ends => exact hsound.ends

/-- Every run preserves the invariant. -/
theorem Sound.run (hsound : traffic.Sound) (events : List TrafficEvent) :
    (traffic.run events).Sound := by
  induction events generalizing traffic with
  | nil => exact hsound
  | cons event later ih => exact ih (hsound.step event)

/-! ## Where outcomes come from -/

/-- A new outcome is that of a pending request, and it comes from an answer to the request or from
the end of the stream. -/
theorem Sound.mem_outcomes_step (hsound : traffic.Sound) {event : TrafficEvent} {id : Nat}
    {result : Except AnalyzerError Json}
    (hmem : (id, result) ∈ (traffic.step event).outcomes) :
    (id, result) ∈ traffic.outcomes ∨
      id ∈ traffic.connection.pending ∧
        ((∃ message, event = .hears message ∧ Answers message id ∧
          result = responseResult message) ∨
        event = .ends ∧ result = .error .closed) := by
  cases event with
  | starts =>
    left
    dsimp only [Traffic.step] at hmem
    split at hmem <;> exact hmem
  | drops other =>
    left
    dsimp only [Traffic.step] at hmem
    split at hmem <;> exact hmem
  | hears message =>
    by_cases hstray : ∀ other ∈ traffic.connection.pending, ¬ Answers message other
    · rw [step_hears_of_not_answers hstray] at hmem
      exact Or.inl hmem
    · push Not at hstray
      obtain ⟨other, hpending, hanswers⟩ := hstray
      rw [hsound.step_hears_of_answers hanswers hpending, List.mem_append,
        List.mem_singleton] at hmem
      rcases hmem with hold | hnew
      · exact Or.inl hold
      · cases hnew
        exact Or.inr ⟨hpending, Or.inl ⟨message, rfl, hanswers, rfl⟩⟩
  | ends =>
    cases halive : traffic.connection.alive with
    | false =>
      left
      dsimp only [Traffic.step] at hmem
      rw [halive] at hmem
      exact hmem
    | true =>
      rw [step_ends halive, List.mem_append, List.mem_map] at hmem
      rcases hmem with hold | ⟨other, hpending, hnew⟩
      · exact Or.inl hold
      · cases hnew
        exact Or.inr ⟨hpending, Or.inr ⟨rfl, rfl⟩⟩

/-- An event only adds outcomes. -/
theorem exists_outcomes_step (traffic : Traffic) (event : TrafficEvent) :
    ∃ more, (traffic.step event).outcomes = traffic.outcomes ++ more := by
  cases event with
  | starts =>
    dsimp only [step]
    split <;> exact ⟨[], (List.append_nil _).symm⟩
  | drops id =>
    dsimp only [step]
    split <;> exact ⟨[], (List.append_nil _).symm⟩
  | hears message =>
    dsimp only [step]
    split
    · exact ⟨_, rfl⟩
    · exact ⟨[], (List.append_nil _).symm⟩
  | ends =>
    dsimp only [step]
    split
    · exact ⟨_, rfl⟩
    · exact ⟨[], (List.append_nil _).symm⟩

/-- A request that has an outcome keeps it. -/
theorem mem_resolved_run {id : Nat} (hresolved : id ∈ traffic.resolved)
    (events : List TrafficEvent) : id ∈ (traffic.run events).resolved := by
  induction events generalizing traffic with
  | nil => exact hresolved
  | cons event later ih =>
    apply ih
    obtain ⟨more, hmore⟩ := exists_outcomes_step traffic event
    unfold resolved
    rw [hmore, List.map_append]
    exact List.mem_append_left _ hresolved

/-- Events one after another are two runs one after the other. -/
theorem run_append (traffic : Traffic) (before after : List TrafficEvent) :
    traffic.run (before ++ after) = (traffic.run before).run after :=
  List.foldl_append

/-- A message is the first that comes while a request is pending and answers it. -/
def FirstAnswer (events : List TrafficEvent) (id : Nat) (message : Json) : Prop :=
  ∃ before after, events = before ++ .hears message :: after ∧ Answers message id ∧
    id ∈ (start.run before).connection.pending ∧
    ∀ earlier later other, before = earlier ++ .hears other :: later → Answers other id →
      id ∉ (start.run earlier).connection.pending

/-- The stream ends while a request is pending. -/
def EndsPending (events : List TrafficEvent) (id : Nat) : Prop :=
  ∃ before after, events = before ++ .ends :: after ∧
    id ∈ (start.run before).connection.pending

/-- No message could have answered a request that is still pending. -/
theorem not_pending_of_answered {before earlier later : List TrafficEvent} {other : Json}
    {id : Nat} (hpending : id ∈ (start.run before).connection.pending)
    (hbefore : before = earlier ++ .hears other :: later) (hanswers : Answers other id) :
    id ∉ (start.run earlier).connection.pending := by
  -- Otherwise the message would have resolved the request, and it would not be pending now.
  intro hearlier
  have hsound : (start.run earlier).Sound := start_sound.run earlier
  have hresolved : id ∈ ((start.run earlier).step (.hears other)).resolved := by
    rw [hsound.step_hears_of_answers hanswers hearlier]
    simp [resolved]
  have hlast : id ∈ (start.run before).resolved := by
    rw [hbefore, run_append]
    exact mem_resolved_run hresolved later
  exact (((start_sound.run before).outstanding id).mp hpending).2.1 hlast

/-- Every outcome is the result in the first answer, or it says that the stream ended. -/
theorem outcome_origin (events : List TrafficEvent) {id : Nat}
    {result : Except AnalyzerError Json} (hmem : (id, result) ∈ (start.run events).outcomes) :
    (∃ message, FirstAnswer events id message ∧ result = responseResult message) ∨
      EndsPending events id ∧ result = .error .closed := by
  -- The last event is split off: an outcome is older than it or comes from it.
  induction events using List.reverseRecOn with
  | nil => cases hmem
  | append_singleton events event ih =>
    rw [run_append] at hmem
    rcases (start_sound.run events).mem_outcomes_step hmem with
      hold | ⟨hpending, ⟨message, rfl, hanswers, hresult⟩ | ⟨rfl, hresult⟩⟩
    · rcases ih hold with
        ⟨message, ⟨before, after, hsplit, hfirst⟩, hresult⟩ |
        ⟨⟨before, after, hsplit, hend⟩, hresult⟩
      · refine Or.inl ⟨message, ⟨before, after ++ [event], ?_, hfirst⟩, hresult⟩
        rw [hsplit, List.append_assoc, List.cons_append]
      · refine Or.inr ⟨⟨before, after ++ [event], ?_, hend⟩, hresult⟩
        rw [hsplit, List.append_assoc, List.cons_append]
    · refine Or.inl ⟨message, ⟨events, [], rfl, hanswers, hpending, ?_⟩, hresult⟩
      intro earlier later other hbefore hother
      exact not_pending_of_answered hpending hbefore hother
    · exact Or.inr ⟨⟨events, [], rfl, hpending⟩, hresult⟩

/-- **Answers reach their requests.** After every run, each request that starts gets a number that
none had before; no request has two outcomes; an outcome is the result in the first message without
a method that carries the number of the request and comes while it is pending, or it says that the
stream ended while it was pending; such a message resolves its request and every other message
changes nothing; pending are exactly the requests that were started and have neither an outcome nor
been dropped; and the end of the stream resolves them all. -/
theorem run_correlates (events : List TrafficEvent) :
    let last := start.run events
    (last.issued.Nodup ∧ (last.connection.alive = true →
      ∃ id, id ∉ last.issued ∧ (last.step .starts).issued = last.issued ++ [id])) ∧
    (last.resolved.Nodup ∧ ∀ id ∈ last.resolved, id ∈ last.issued) ∧
    (∀ id result, (id, result) ∈ last.outcomes →
      (∃ message, FirstAnswer events id message ∧ result = responseResult message) ∨
        EndsPending events id ∧ result = .error .closed) ∧
    (∀ message id, Answers message id → id ∈ last.connection.pending →
      last.step (.hears message) = { last with
        connection := last.connection.settle id
        outcomes := last.outcomes ++ [(id, responseResult message)] }) ∧
    (∀ message, (∀ id ∈ last.connection.pending, ¬ Answers message id) →
      last.step (.hears message) = last) ∧
    (∀ id, id ∈ last.connection.pending ↔
      id ∈ last.issued ∧ id ∉ last.resolved ∧ id ∉ last.dropped) ∧
    ((last.step .ends).connection.pending = [] ∧
      (last.step .ends).outcomes =
        last.outcomes ++ last.connection.pending.map fun id => (id, .error .closed)) := by
  intro last
  have hsound : last.Sound := start_sound.run events
  refine ⟨⟨hsound.fresh, ?_⟩, ⟨hsound.once, hsound.started⟩, ?_, ?_, ?_, hsound.outstanding, ?_⟩
  · intro halive
    refine ⟨last.connection.nextId, fun hmem => Nat.lt_irrefl _ (hsound.below _ hmem), ?_⟩
    rw [step_starts halive]
  · exact fun id result hmem => outcome_origin events hmem
  · exact fun message id hanswers hpending => hsound.step_hears_of_answers hanswers hpending
  · exact fun message hstray => step_hears_of_not_answers hstray
  · cases halive : last.connection.alive with
    | true =>
      rw [step_ends halive]
      exact ⟨rfl, rfl⟩
    | false =>
      have hsame : last.step .ends = last := by
        simp [step, halive]
      rw [hsame, hsound.ended halive]
      exact ⟨rfl, (List.append_nil _).symm⟩

/-! ## Reading bytes -/

/-- What happens when bytes are read: the messages in them come in, and the stream may end. -/
def heard (connection : Connection) (bytes : List UInt8) (ended : Bool) : List TrafficEvent :=
  let stream := connection.unread ++ bytes
  (Frame.values (Frame.readAll ended stream)).map .hears ++
    if (Frame.unread? ended stream).isSome then [] else [.ends]

/-- Messages come in one after another. -/
theorem run_hears (traffic : Traffic) (halive : traffic.connection.alive = true)
    (messages : List Json) :
    traffic.run (messages.map .hears) =
      { traffic with
        connection := (traffic.connection.dispatchAll messages).1
        outcomes := traffic.outcomes ++
          outcomesIn (traffic.connection.dispatchAll messages).2 } ∧
      (traffic.connection.dispatchAll messages).1.alive = true := by
  induction messages generalizing traffic with
  | nil => exact ⟨by simp [run, Connection.dispatchAll, outcomesIn], halive⟩
  | cons message later ih =>
    have hnext : traffic.step (.hears message) =
        { traffic with
          connection := (traffic.connection.dispatch message).1
          outcomes := traffic.outcomes ++
            outcomesIn (traffic.connection.dispatch message).2 } := by
      dsimp only [step]
      rw [if_pos halive]
    have halive' : (traffic.step (.hears message)).connection.alive = true := by
      rw [hnext]
      exact (Connection.alive_dispatch _ _).trans halive
    obtain ⟨hrun, hlast⟩ := ih (traffic.step (.hears message)) halive'
    rw [hnext] at hrun hlast
    refine ⟨?_, hlast⟩
    rw [List.map_cons, run, List.foldl_cons, ← run, hnext, hrun]
    simp [Connection.dispatchAll, outcomesIn_append]

/-- Reading bytes is a run: it leaves the same requests pending and has the same outcomes. -/
theorem run_heard (traffic : Traffic) (halive : traffic.connection.alive = true)
    (bytes : List UInt8) (ended : Bool) :
    let last := traffic.run (heard traffic.connection bytes ended)
    let read := traffic.connection.receive bytes ended
    read.1 = { last.connection with unread := read.1.unread } ∧
      last.outcomes = traffic.outcomes ++ outcomesIn read.2 := by
  obtain ⟨hrun, hlast⟩ := run_hears traffic halive
    (Frame.values (Frame.readAll ended (traffic.connection.unread ++ bytes)))
  intro last read
  have hread : read = traffic.connection.receive bytes ended := rfl
  have hevents : last = traffic.run (heard traffic.connection bytes ended) := rfl
  unfold Connection.receive at hread
  unfold heard at hevents
  dsimp only at hread hevents
  rw [if_pos halive] at hread
  rw [run_append, hrun] at hevents
  cases hunread : Frame.unread? ended (traffic.connection.unread ++ bytes) with
  | some unread =>
    rw [hunread] at hread hevents
    rw [hread, hevents]
    exact ⟨rfl, rfl⟩
  | none =>
    rw [hunread] at hread hevents
    rw [hread, hevents]
    dsimp only [Option.isSome, run]
    rw [if_neg Bool.false_ne_true, List.foldl_cons, List.foldl_nil, step_ends hlast]
    refine ⟨rfl, ?_⟩
    dsimp only
    rw [outcomesIn_append, Connection.outcomesIn_finish, List.append_assoc]

end Traffic

end FluentAssist.Analyzer
