import FluentAssist.Proofs.Analyzer.Correlation
import Mathlib.Logic.Function.Basic

/-!
# Requests that race with the end of the stream

A request checks that the analysis is there, takes a number, makes itself pending, checks again,
sends its message and waits. The reader of the stream ends in two steps: it marks the analysis as
gone and then forgets the pending requests, which ends those that wait. Any number of requests take
these steps in any order between each other and the reader.

`Race.Sound` is the invariant. Its last clause is the point of the second check: once the reader is
done, no request that has passed the check is pending. So each of them has an answer or knows that
there will be none, and `closing_leaves_no_request_waiting` follows.
-/

set_option autoImplicit false

namespace FluentAssist.Analyzer

/-- The way on which a request hears of its outcome. -/
inductive Channel
  /-- The sender is still there and has sent nothing. -/
  | unused
  | used (result : Except AnalyzerError Json)
  /-- The sender is gone and has sent nothing. -/
  | dropped

/-- How a request ends. -/
inductive Ending
  | unavailable
  | closed
  /-- Its message could not be sent. -/
  | unsent
  | answered (result : Except AnalyzerError Json)
  /-- Its caller went away. -/
  | abandoned

/-- How far a request is. -/
inductive Phase
  | fresh
  /-- The analysis was there at the first check. -/
  | checked
  | numbered (id : Nat)
  /-- It is pending, unless it was answered or forgotten since. -/
  | entered (id : Nat)
  /-- The analysis was there at the second check. -/
  | admitted (id : Nat)
  | awaiting (id : Nat)
  | ended (ending : Ending)

namespace Phase

/-- The next step of a request. `sent` tells whether a message can be sent. A request that ends is
no longer pending. -/
def turn (connection : Connection) (channels : Nat → Channel) (sent : Bool) :
    Phase → Connection × Phase
  | .fresh => (connection, if connection.alive then .checked else .ended .unavailable)
  | .checked => (connection.takeNumber.1, .numbered connection.takeNumber.2)
  | .numbered id => (connection.enter id, .entered id)
  | .entered id =>
    if connection.alive then (connection, .admitted id)
    else (connection.settle id, .ended .closed)
  | .admitted id =>
    if sent then (connection, .awaiting id) else (connection.settle id, .ended .unsent)
  | .awaiting id =>
    match channels id with
    | .unused => (connection, .awaiting id)
    | .used result => (connection.settle id, .ended (.answered result))
    | .dropped => (connection.settle id, .ended .closed)
  | .ended ending => (connection, .ended ending)

/-- The caller of a request goes away. -/
def giveUp (connection : Connection) : Phase → Connection × Phase
  | .fresh => (connection, .ended .abandoned)
  | .checked => (connection, .ended .abandoned)
  | .numbered _ => (connection, .ended .abandoned)
  | .entered id => (connection.settle id, .ended .abandoned)
  | .admitted id => (connection.settle id, .ended .abandoned)
  | .awaiting id => (connection.settle id, .ended .abandoned)
  | .ended ending => (connection, .ended ending)

/-- The number of a request that has one and has not ended. -/
def number? : Phase → Option Nat
  | .numbered id => some id
  | .entered id => some id
  | .admitted id => some id
  | .awaiting id => some id
  | _ => none

/-- The number of a request that made itself pending and has not ended. -/
def entered? : Phase → Option Nat
  | .entered id => some id
  | .admitted id => some id
  | .awaiting id => some id
  | _ => none

/-- The number of a request that has passed the second check and has not ended. -/
def admitted? : Phase → Option Nat
  | .admitted id => some id
  | .awaiting id => some id
  | _ => none

/-- The steps that a request has still to take once the reader is done. -/
def left : Phase → Nat
  | .fresh => 1
  | .checked => 3
  | .numbered _ => 2
  | .entered _ => 1
  | .admitted _ => 2
  | .awaiting _ => 1
  | .ended _ => 0

end Phase

/-- How far the reader of the stream is. -/
inductive Reader
  | reading
  /-- The analysis is marked as gone. -/
  | stopped
  /-- The pending requests are forgotten. -/
  | done
  deriving DecidableEq

/-- Requests and the reader of the stream. -/
structure Race where
  connection : Connection
  /-- The channels of the requests, by their numbers. -/
  channels : Nat → Channel
  reader : Reader
  requests : List Phase

/-- Who takes the next step. -/
inductive RaceEvent
  /-- A new request comes. -/
  | calls
  | turns (place : Nat) (sent : Bool)
  | givesUp (place : Nat)
  | hears (message : Json)
  | stops
  | clears

/-- Whether an event is a turn of the request at a place. -/
def RaceEvent.isTurnOf (number : Nat) : RaceEvent → Bool
  | .turns other _ => other = number
  | _ => false

namespace Race

/-- Nothing was requested yet. -/
def start : Race := ⟨{}, fun _ => .unused, .reading, []⟩

/-- Replaces a request, and the connection that it leaves. -/
def place (race : Race) (number : Nat) (next : Connection × Phase) : Race :=
  { race with connection := next.1, requests := race.requests.set number next.2 }

/-- Outcomes are sent on the channels of their requests. -/
def deliver (channels : Nat → Channel) (outcomes : List (Nat × Except AnalyzerError Json)) :
    Nat → Channel :=
  outcomes.foldl (fun channels outcome =>
    Function.update channels outcome.1 (.used outcome.2)) channels

/-- Lets an event happen. -/
def step (race : Race) : RaceEvent → Race
  | .calls => { race with requests := race.requests ++ [.fresh] }
  | .turns number sent =>
    match race.requests[number]? with
    | none => race
    | some phase => race.place number (phase.turn race.connection race.channels sent)
  | .givesUp number =>
    match race.requests[number]? with
    | none => race
    | some phase => race.place number (phase.giveUp race.connection)
  | .hears message =>
    if race.reader = .reading then
      { race with
        connection := (race.connection.dispatch message).1
        channels := deliver race.channels (outcomesIn (race.connection.dispatch message).2) }
    else race
  | .stops =>
    if race.reader = .reading then
      { race with connection := race.connection.stop, reader := .stopped }
    else race
  | .clears =>
    if race.reader = .stopped then
      { race with
        connection := race.connection.clear.1
        channels := fun id =>
          if id ∈ race.connection.pending then .dropped else race.channels id
        reader := .done }
    else race

/-- Lets events happen one after another. -/
def run (race : Race) (events : List RaceEvent) : Race := events.foldl step race

/-! ## The invariant -/

/-- The analysis is there while the reader reads; numbers are taken once; a request that made itself
pending is pending or its channel is no longer unused; and when the reader is done, no request that
has passed the second check is pending. -/
structure Sound (race : Race) : Prop where
  alive : race.connection.alive = true ↔ race.reader = .reading
  below : ∀ (number : Nat) (phase : Phase) (id : Nat), race.requests[number]? = some phase →
    phase.number? = some id → id < race.connection.nextId
  distinct : ∀ (number other : Nat) (phase phase' : Phase) (id : Nat),
    race.requests[number]? = some phase → race.requests[other]? = some phase' →
    phase.number? = some id → phase'.number? = some id → number = other
  guarded : ∀ (number : Nat) (phase : Phase) (id : Nat), race.requests[number]? = some phase →
    phase.entered? = some id → id ∈ race.connection.pending ∨ race.channels id ≠ .unused
  closed : race.reader = .done → ∀ (number : Nat) (phase : Phase) (id : Nat),
    race.requests[number]? = some phase → phase.admitted? = some id →
    id ∉ race.connection.pending

/-- A connection without requests is sound. -/
theorem start_sound : start.Sound := by
  constructor <;> simp [start]

/-- What a request may do on its own: it takes a new number or keeps its own, it adds nothing but
its own number to the pending requests and removes no other, and its new phase agrees with the
invariant. -/
structure Move (race : Race) (phase : Phase) (next : Connection × Phase) : Prop where
  alive : next.1.alive = race.connection.alive
  below : race.connection.nextId ≤ next.1.nextId
  number : ∀ id, next.2.number? = some id → phase.number? = some id ∨
    id = race.connection.nextId ∧ id < next.1.nextId
  added : ∀ id ∈ next.1.pending, id ∈ race.connection.pending ∨ phase.number? = some id
  removed : ∀ id ∈ race.connection.pending, id ∈ next.1.pending ∨ phase.number? = some id
  guarded : ∀ id, next.2.entered? = some id →
    id ∈ next.1.pending ∨ race.channels id ≠ .unused
  closed : race.reader = .done → ∀ id, next.2.admitted? = some id → id ∉ next.1.pending

/-- A request that has entered the table has a number, the one it has entered with. -/
theorem number?_of_entered? {phase : Phase} {id : Nat} (hentered : phase.entered? = some id) :
    phase.number? = some id := by
  cases phase <;> simp_all [Phase.entered?, Phase.number?]

/-- A request that was admitted has entered the table. -/
theorem entered?_of_admitted? {phase : Phase} {id : Nat} (hadmitted : phase.admitted? = some id) :
    phase.entered? = some id := by
  cases phase <;> simp_all [Phase.admitted?, Phase.entered?]

variable {race : Race} {number : Nat} {phase : Phase}

/-- A request may go on with its number. -/
theorem move_forward {next : Phase} (hnumber : ∀ id, next.number? = some id →
      phase.number? = some id)
    (hguarded : ∀ id, next.entered? = some id →
      id ∈ race.connection.pending ∨ race.channels id ≠ .unused)
    (hclosed : race.reader = .done → ∀ id, next.admitted? = some id →
      id ∉ race.connection.pending) :
    race.Move phase (race.connection, next) :=
  ⟨rfl, Nat.le_refl _, fun id hid => Or.inl (hnumber id hid), fun _ hmem => Or.inl hmem,
    fun _ hmem => Or.inl hmem, hguarded, hclosed⟩

/-- A request may end that is not pending. -/
theorem move_ended (ending : Ending) : race.Move phase (race.connection, .ended ending) :=
  move_forward (fun id hid => by cases hid) (fun id hid => by cases hid)
    (fun _ id hid => by cases hid)

/-- A request may end and be no longer pending. -/
theorem move_settled {id : Nat} (hnumber : phase.number? = some id) (ending : Ending) :
    race.Move phase (race.connection.settle id, .ended ending) := by
  constructor
  · rfl
  · exact Nat.le_refl _
  · intro other hother
    cases hother
  · intro other hmem
    exact Or.inl (Connection.mem_pending_settle.mp hmem).1
  · intro other hmem
    by_cases heq : other = id
    · exact Or.inr (by rw [hnumber, heq])
    · exact Or.inl (Connection.mem_pending_settle.mpr ⟨hmem, heq⟩)
  · intro other hother
    cases hother
  · intro _ other hother
    cases hother

/-- A turn of a request is a move. -/
theorem Sound.turn_move (hsound : race.Sound) (hphase : race.requests[number]? = some phase)
    (sent : Bool) : race.Move phase (phase.turn race.connection race.channels sent) := by
  have hguarded := hsound.guarded number phase
  cases phase with
  | fresh =>
    dsimp only [Phase.turn]
    split
    · exact move_forward (fun id hid => hid) (fun id hid => by cases hid)
        (fun _ id hid => by cases hid)
    · exact move_ended _
  | checked =>
    constructor
    · rfl
    · exact Nat.le_succ _
    · intro id hid
      cases hid
      exact Or.inr ⟨rfl, Nat.lt_succ_self _⟩
    · exact fun id hmem => Or.inl hmem
    · exact fun id hmem => Or.inl hmem
    · intro id hid
      cases hid
    · intro _ id hid
      cases hid
  | numbered id =>
    constructor
    · rfl
    · exact Nat.le_refl _
    · exact fun other hother => Or.inl hother
    · intro other hmem
      rcases List.mem_append.mp hmem with hold | hnew
      · exact Or.inl hold
      · rw [List.mem_singleton] at hnew
        rw [hnew]
        exact Or.inr rfl
    · exact fun other hmem => Or.inl (List.mem_append_left _ hmem)
    · intro other hother
      cases hother
      exact Or.inl (List.mem_append_right _ List.mem_cons_self)
    · intro _ other hother
      cases hother
  | entered id =>
    dsimp only [Phase.turn]
    split
    · rename_i halive
      refine move_forward (fun other hother => hother) (fun other => hguarded other hphase) ?_
      -- The second check: the analysis is still there, so the reader is not done.
      intro hdone
      rw [hsound.alive.mp halive] at hdone
      cases hdone
    · exact move_settled rfl _
  | admitted id =>
    dsimp only [Phase.turn]
    split
    · exact move_forward (fun other hother => hother) (fun other => hguarded other hphase)
        (fun hdone other => hsound.closed hdone number (.admitted id) other hphase)
    · exact move_settled rfl _
  | awaiting id =>
    dsimp only [Phase.turn]
    split
    · exact move_forward (fun other hother => hother) (fun other => hguarded other hphase)
        (fun hdone other => hsound.closed hdone number (.awaiting id) other hphase)
    · exact move_settled rfl _
    · exact move_settled rfl _
  | ended ending => exact move_ended ending

/-- Giving a request up is a sound move. -/
theorem giveUp_move (race : Race) (phase : Phase) :
    race.Move phase (phase.giveUp race.connection) := by
  cases phase with
  | fresh => exact move_ended _
  | checked => exact move_ended _
  | numbered id => exact move_ended _
  | entered id => exact move_settled rfl _
  | admitted id => exact move_settled rfl _
  | awaiting id => exact move_settled rfl _
  | ended ending => exact move_ended ending

/-- After a move of one request each request is the one that moved or stands as before. -/
theorem requests_place {next : Connection × Phase} {other : Nat} {found : Phase}
    (hfound : (race.place number next).requests[other]? = some found) :
    other = number ∧ found = next.2 ∨ other ≠ number ∧ race.requests[other]? = some found := by
  unfold place at hfound
  dsimp only at hfound
  rw [List.getElem?_set] at hfound
  by_cases heq : number = other
  · rw [if_pos heq] at hfound
    split at hfound
    · cases hfound
      exact Or.inl ⟨heq.symm, rfl⟩
    · cases hfound
  · rw [if_neg heq] at hfound
    exact Or.inr ⟨fun h => heq h.symm, hfound⟩

/-- A move of a request preserves the invariant. -/
theorem Sound.place (hsound : race.Sound) (hphase : race.requests[number]? = some phase)
    {next : Connection × Phase} (hmove : race.Move phase next) :
    (race.place number next).Sound := by
  -- The number of a request at another place is neither that of the moving one nor a new one.
  have hother : ∀ (other : Nat) (found : Phase) (id : Nat), other ≠ number →
      race.requests[other]? = some found → found.number? = some id →
      phase.number? ≠ some id ∧ next.2.number? ≠ some id := by
    intro other found id hne hfound hid
    have hown : phase.number? ≠ some id := fun hsame =>
      hne (hsound.distinct other number found phase id hfound hphase hid hsame)
    refine ⟨hown, fun hsame => ?_⟩
    rcases hmove.number id hsame with hold | ⟨hnew, -⟩
    · exact hown hold
    · exact Nat.lt_irrefl _ (hnew ▸ hsound.below other found id hfound hid)
  constructor
  · have halive : (race.place number next).connection.alive = race.connection.alive := hmove.alive
    rw [halive]
    exact hsound.alive
  · intro other found id hfound hid
    rcases requests_place hfound with ⟨rfl, rfl⟩ | ⟨hne, hold⟩
    · rcases hmove.number id hid with hown | ⟨-, hlt⟩
      · exact Nat.lt_of_lt_of_le (hsound.below _ phase id hphase hown) hmove.below
      · exact hlt
    · exact Nat.lt_of_lt_of_le (hsound.below other found id hold hid) hmove.below
  · intro left right found found' id hleft hright hid hid'
    rcases requests_place hleft with ⟨rfl, rfl⟩ | ⟨hne, hold⟩
    · rcases requests_place hright with ⟨rfl, rfl⟩ | ⟨hne', hold'⟩
      · rfl
      · exact absurd hid (hother right found' id hne' hold' hid').2
    · rcases requests_place hright with ⟨rfl, rfl⟩ | ⟨hne', hold'⟩
      · exact absurd hid' (hother left found id hne hold hid).2
      · exact hsound.distinct left right found found' id hold hold' hid hid'
  · intro other found id hfound hid
    rcases requests_place hfound with ⟨rfl, rfl⟩ | ⟨hne, hold⟩
    · exact hmove.guarded id hid
    · -- A request removes no number but its own.
      have hown := (hother other found id hne hold (number?_of_entered? hid)).1
      rcases hsound.guarded other found id hold hid with hpending | hheard
      · exact Or.inl ((hmove.removed id hpending).resolve_right hown)
      · exact Or.inr hheard
  · intro hdone other found id hfound hid
    rcases requests_place hfound with ⟨rfl, rfl⟩ | ⟨hne, hold⟩
    · exact hmove.closed hdone id hid
    · -- A late request may still make itself pending, but under its own number.
      intro hmem
      have hown := (hother other found id hne hold
        (number?_of_entered? (entered?_of_admitted? hid))).1
      exact hsound.closed hdone other found id hold hid
        ((hmove.added id hmem).resolve_right hown)

/-- A new request leaves the race sound. -/
theorem Sound.calls (hsound : race.Sound) : (race.step .calls).Sound := by
  have hfound : ∀ (number : Nat) (found : Phase),
      (race.step .calls).requests[number]? = some found →
      race.requests[number]? = some found ∨ found = .fresh := by
    intro number found hfound
    dsimp only [step] at hfound
    rw [List.getElem?_append] at hfound
    split at hfound
    · exact Or.inl hfound
    · have hmem := List.mem_of_getElem? hfound
      rw [List.mem_singleton] at hmem
      exact Or.inr hmem
  constructor
  · exact hsound.alive
  · intro number found id hnumber hid
    rcases hfound number found hnumber with hold | rfl
    · exact hsound.below number found id hold hid
    · cases hid
  · intro number other found found' id hnumber hother hid hid'
    rcases hfound number found hnumber with hold | rfl
    · rcases hfound other found' hother with hold' | rfl
      · exact hsound.distinct number other found found' id hold hold' hid hid'
      · cases hid'
    · cases hid
  · intro number found id hnumber hid
    rcases hfound number found hnumber with hold | rfl
    · exact hsound.guarded number found id hold hid
    · cases hid
  · intro hdone number found id hnumber hid
    rcases hfound number found hnumber with hold | rfl
    · exact hsound.closed hdone number found id hold hid
    · cases hid

/-- A message that answers no pending request changes nothing. -/
theorem step_hears_of_not_answers {message : Json}
    (hstray : ∀ id ∈ race.connection.pending, ¬ Answers message id) :
    race.step (.hears message) = race := by
  obtain ⟨hconnection, houtcomes⟩ := Connection.dispatch_of_not_answers hstray
  dsimp only [step]
  rw [hconnection, houtcomes]
  exact ite_self _

/-- The answer to a pending request is sent on its channel. -/
theorem step_hears_of_answers {message : Json} {id : Nat} (hanswers : Answers message id)
    (hpending : id ∈ race.connection.pending) (hreading : race.reader = .reading) :
    race.step (.hears message) =
      { race with
        connection := race.connection.settle id
        channels := Function.update race.channels id (.used (responseResult message)) } := by
  dsimp only [step]
  rw [if_pos hreading, Connection.dispatch_of_answers hanswers hpending]
  rfl

/-- A message that is heard leaves the race sound. -/
theorem Sound.hears (hsound : race.Sound) (message : Json) :
    (race.step (.hears message)).Sound := by
  by_cases hstray : ∀ id ∈ race.connection.pending, ¬ Answers message id
  · rw [step_hears_of_not_answers hstray]
    exact hsound
  by_cases hreading : race.reader = .reading
  · push Not at hstray
    obtain ⟨id, hpending, hanswers⟩ := hstray
    rw [step_hears_of_answers hanswers hpending hreading]
    refine ⟨hsound.alive, hsound.below, hsound.distinct, ?_, ?_⟩
    · intro number found other hnumber hother
      by_cases heq : other = id
      · right
        dsimp only
        rw [heq, Function.update_self]
        exact fun h => by cases h
      · rcases hsound.guarded number found other hnumber hother with hold | hheard
        · exact Or.inl (Connection.mem_pending_settle.mpr ⟨hold, heq⟩)
        · right
          dsimp only
          rw [Function.update_of_ne heq]
          exact hheard
    · intro hdone
      rw [hreading] at hdone
      cases hdone
  · have hsame : race.step (.hears message) = race := by
      dsimp only [Race.step]
      exact if_neg hreading
    rw [hsame]
    exact hsound

/-- The reader's mark that the connection is closed leaves the race sound. -/
theorem Sound.stops (hsound : race.Sound) : (race.step .stops).Sound := by
  dsimp only [Race.step]
  split
  · refine ⟨?_, hsound.below, hsound.distinct, hsound.guarded, ?_⟩
    · constructor
      · intro halive
        cases halive
      · intro hreading
        cases hreading
    · intro hdone
      cases hdone
  · exact hsound

/-- Clearing the table of pending requests leaves the race sound. -/
theorem Sound.clears (hsound : race.Sound) : (race.step .clears).Sound := by
  dsimp only [Race.step]
  split
  · rename_i hstopped
    refine ⟨?_, hsound.below, hsound.distinct, ?_, ?_⟩
    · constructor
      · intro halive
        rw [hsound.alive.mp halive] at hstopped
        cases hstopped
      · intro hreading
        cases hreading
    · intro number found id hnumber hid
      right
      dsimp only
      split
      · exact fun h => by cases h
      · rename_i hleft
        exact (hsound.guarded number found id hnumber hid).resolve_left hleft
    · intro _ number found id _ _ hmem
      cases hmem
  · exact hsound

/-- Every event preserves the invariant. -/
theorem Sound.step (hsound : race.Sound) (event : RaceEvent) : (race.step event).Sound := by
  cases event with
  | calls => exact hsound.calls
  | turns number sent =>
    dsimp only [Race.step]
    split
    · exact hsound
    · rename_i phase hphase
      exact hsound.place hphase (hsound.turn_move hphase sent)
  | givesUp number =>
    dsimp only [Race.step]
    split
    · exact hsound
    · rename_i phase hphase
      exact hsound.place hphase (giveUp_move race phase)
  | hears message => exact hsound.hears message
  | stops => exact hsound.stops
  | clears => exact hsound.clears

/-- Every run preserves the invariant. -/
theorem Sound.run (hsound : race.Sound) (events : List RaceEvent) : (race.run events).Sound := by
  induction events generalizing race with
  | nil => exact hsound
  | cons event later ih => exact ih (hsound.step event)

/-- Once the reader is done, a request that waits has an answer or knows that there is none. -/
theorem Sound.channel_ne_unused (hsound : race.Sound) (hdone : race.reader = .done) {id : Nat}
    (hwaits : race.requests[number]? = some (.awaiting id)) : race.channels id ≠ .unused :=
  (hsound.guarded number _ id hwaits rfl).resolve_left
    (hsound.closed hdone number _ id hwaits rfl)

/-! ## What a request does after the reader is done -/

/-- An event changes a request only by a turn of it or when its caller goes away. -/
theorem requests_step (hphase : race.requests[number]? = some phase) (event : RaceEvent) :
    event.isTurnOf number = false ∧ (race.step event).requests[number]? = some phase ∨
    (∃ sent, event = .turns number sent ∧ (race.step event).requests[number]? =
      some (phase.turn race.connection race.channels sent).2) ∨
    event = .givesUp number ∧
      (race.step event).requests[number]? = some (phase.giveUp race.connection).2 := by
  have hlt : number < race.requests.length := (List.getElem?_eq_some_iff.mp hphase).1
  cases event with
  | calls =>
    left
    refine ⟨rfl, ?_⟩
    dsimp only [step]
    rw [List.getElem?_append_left hlt]
    exact hphase
  | turns other sent =>
    by_cases heq : other = number
    · subst heq
      right
      left
      refine ⟨sent, rfl, ?_⟩
      dsimp only [step]
      rw [hphase]
      exact List.getElem?_set_self hlt
    · left
      refine ⟨by simp [RaceEvent.isTurnOf, heq], ?_⟩
      dsimp only [step]
      split
      · exact hphase
      · dsimp only [place]
        rw [List.getElem?_set_ne heq]
        exact hphase
  | givesUp other =>
    by_cases heq : other = number
    · subst heq
      right
      right
      refine ⟨rfl, ?_⟩
      dsimp only [step]
      rw [hphase]
      exact List.getElem?_set_self hlt
    · left
      refine ⟨rfl, ?_⟩
      dsimp only [step]
      split
      · exact hphase
      · dsimp only [place]
        rw [List.getElem?_set_ne heq]
        exact hphase
  | hears message =>
    left
    refine ⟨rfl, ?_⟩
    dsimp only [step]
    split <;> exact hphase
  | stops =>
    left
    refine ⟨rfl, ?_⟩
    dsimp only [step]
    split <;> exact hphase
  | clears =>
    left
    refine ⟨rfl, ?_⟩
    dsimp only [step]
    split <;> exact hphase

/-- A reader that is done stays done. -/
theorem reader_step (hdone : race.reader = .done) (event : RaceEvent) :
    (race.step event).reader = .done := by
  cases event with
  | calls => exact hdone
  | turns number sent =>
    dsimp only [step]
    split <;> exact hdone
  | givesUp number =>
    dsimp only [step]
    split <;> exact hdone
  | hears message => simp [step, hdone]
  | stops => simp [step, hdone]
  | clears => simp [step, hdone]

/-- Every turn of a request brings it nearer to its end. -/
theorem Sound.left_turn (hsound : race.Sound) (hdone : race.reader = .done)
    (hphase : race.requests[number]? = some phase) (sent : Bool) :
    (phase.turn race.connection race.channels sent).2.left ≤ phase.left - 1 := by
  have hdead : race.connection.alive = false := by
    rw [Bool.eq_false_iff]
    intro halive
    rw [hsound.alive.mp halive] at hdone
    cases hdone
  cases phase with
  | fresh => simp [Phase.turn, Phase.left, hdead]
  | checked => exact Nat.le_refl _
  | numbered id => exact Nat.le_refl _
  | entered id => simp [Phase.turn, Phase.left, hdead]
  | admitted id => cases sent <;> simp [Phase.turn, Phase.left]
  | awaiting id =>
    have hheard := hsound.channel_ne_unused hdone hphase
    cases hchannel : race.channels id with
    | unused => exact absurd hchannel hheard
    | used result => simp [Phase.turn, Phase.left, hchannel]
    | dropped => simp [Phase.turn, Phase.left, hchannel]
  | ended ending => exact Nat.le_refl _

/-- A request that is given up has no turns left. -/
theorem left_giveUp (connection : Connection) (phase : Phase) :
    (phase.giveUp connection).2.left = 0 := by
  cases phase <;> rfl

/-- Once the reader is done, a request has as many steps less to take as it had turns. -/
theorem Sound.exists_left_run (hsound : race.Sound) (hdone : race.reader = .done)
    (hphase : race.requests[number]? = some phase) (events : List RaceEvent) :
    ∃ last, (race.run events).requests[number]? = some last ∧
      last.left ≤ phase.left - events.countP (RaceEvent.isTurnOf number) := by
  induction events generalizing race phase with
  | nil => exact ⟨phase, hphase, Nat.le_refl _⟩
  | cons event later ih =>
    -- Stated with `max`, because a request that has ended may still take turns.
    have hnext : ∃ next, (race.step event).requests[number]? = some next ∧
        next.left + (if event.isTurnOf number then 1 else 0) ≤
          max phase.left (if event.isTurnOf number then 1 else 0) := by
      rcases requests_step hphase event with
        ⟨hother, hsame⟩ | ⟨sent, rfl, hturn⟩ | ⟨rfl, hgiven⟩
      · exact ⟨phase, hsame, by simp [hother]⟩
      · have hless := hsound.left_turn hdone hphase sent
        refine ⟨_, hturn, ?_⟩
        simp only [RaceEvent.isTurnOf, decide_true, if_true]
        omega
      · refine ⟨_, hgiven, ?_⟩
        rw [left_giveUp]
        simp [RaceEvent.isTurnOf]
    obtain ⟨next, hphase', hless⟩ := hnext
    obtain ⟨last, hlast, hleft⟩ := ih (hsound.step event) (reader_step hdone event) hphase'
    refine ⟨last, hlast, ?_⟩
    rw [List.countP_cons]
    omega

/-! ## Requests without an answer -/

/-- A request has passed the second check, and if it has ended, then because the analysis is gone or
its message could not be sent. -/
def Past (id : Nat) : Phase → Prop
  | .admitted other => other = id
  | .awaiting other => other = id
  | .ended .closed => True
  | .ended .unsent => True
  | _ => False

/-- No event answers a request. -/
def Silent (id : Nat) (events : List RaceEvent) : Prop :=
  ∀ message, .hears message ∈ events → ¬ Answers message id

/-- Nothing is sent on the channel of a request that is not answered. -/
theorem channels_step {id : Nat} (hunused : ∀ result, race.channels id ≠ .used result)
    {event : RaceEvent} (hsilent : ∀ message, event = .hears message → ¬ Answers message id) :
    ∀ result, (race.step event).channels id ≠ .used result := by
  cases event with
  | calls => exact hunused
  | turns number sent =>
    dsimp only [step]
    split <;> exact hunused
  | givesUp number =>
    dsimp only [step]
    split <;> exact hunused
  | hears message =>
    by_cases hstray : ∀ other ∈ race.connection.pending, ¬ Answers message other
    · rw [step_hears_of_not_answers hstray]
      exact hunused
    by_cases hreading : race.reader = .reading
    · push Not at hstray
      obtain ⟨other, hpending, hanswers⟩ := hstray
      have hne : id ≠ other := by
        rintro rfl
        exact hsilent message rfl hanswers
      rw [step_hears_of_answers hanswers hpending hreading]
      dsimp only
      rw [Function.update_of_ne hne]
      exact hunused
    · dsimp only [step]
      rw [if_neg hreading]
      exact hunused
  | stops =>
    dsimp only [step]
    split <;> exact hunused
  | clears =>
    dsimp only [step]
    split
    · intro result
      dsimp only
      split
      · exact fun h => by cases h
      · exact hunused result
    · exact hunused

/-- A channel gets no outcome in a run in which nothing answers its request. -/
theorem channels_run {id : Nat} (hunused : ∀ result, race.channels id ≠ .used result)
    {events : List RaceEvent} (hsilent : Silent id events) :
    ∀ result, (race.run events).channels id ≠ .used result := by
  induction events generalizing race with
  | nil => exact hunused
  | cons event later ih =>
    apply ih
    · apply channels_step hunused
      rintro message rfl
      exact hsilent message List.mem_cons_self
    · exact fun message hmem => hsilent message (List.mem_cons_of_mem _ hmem)

/-- A turn of a request that is not answered keeps it past the check. -/
theorem past_turn {id : Nat} (hpast : Past id phase)
    (hunused : ∀ result, race.channels id ≠ .used result) (sent : Bool) :
    Past id (phase.turn race.connection race.channels sent).2 := by
  cases phase with
  | fresh => cases hpast
  | checked => cases hpast
  | numbered other => cases hpast
  | entered other => cases hpast
  | admitted other =>
    cases hpast
    cases sent <;> simp [Phase.turn, Past]
  | awaiting other =>
    cases hpast
    cases hchannel : race.channels id with
    | unused => simp [Phase.turn, Past, hchannel]
    | used result => exact absurd hchannel (hunused result)
    | dropped => simp [Phase.turn, Past, hchannel]
  | ended ending => exact hpast

/-- A request that has passed the second check stays past it in a run that does not answer it and in
which its caller stays. -/
theorem exists_past_run {id : Nat} (hphase : race.requests[number]? = some phase)
    (hpast : Past id phase) (hunused : ∀ result, race.channels id ≠ .used result)
    {events : List RaceEvent} (hsilent : Silent id events)
    (hstays : .givesUp number ∉ events) :
    ∃ last, (race.run events).requests[number]? = some last ∧ Past id last := by
  induction events generalizing race phase with
  | nil => exact ⟨phase, hphase, hpast⟩
  | cons event later ih =>
    have hnext : ∃ next, (race.step event).requests[number]? = some next ∧ Past id next := by
      rcases requests_step hphase event with
        ⟨-, hsame⟩ | ⟨sent, rfl, hturn⟩ | ⟨rfl, -⟩
      · exact ⟨phase, hsame, hpast⟩
      · exact ⟨_, hturn, past_turn hpast hunused sent⟩
      · exact absurd List.mem_cons_self hstays
    obtain ⟨next, hphase', hpast'⟩ := hnext
    apply ih hphase' hpast'
    · apply channels_step hunused
      rintro message rfl
      exact hsilent message List.mem_cons_self
    · exact fun message hmem => hsilent message (List.mem_cons_of_mem _ hmem)
    · exact fun hmem => hstays (List.mem_cons_of_mem _ hmem)

/-- A run of events one after another is two runs one after the other. -/
theorem run_append (race : Race) (before after : List RaceEvent) :
    race.run (before ++ after) = (race.run before).run after :=
  List.foldl_append

/-- A request without turns left has ended. -/
theorem exists_ended_of_left_eq_zero (hleft : phase.left = 0) :
    ∃ ending, phase = .ended ending := by
  cases phase with
  | ended ending => exact ⟨ending, rfl⟩
  | _ => cases hleft

/-- **No request waits for ever once the analysis is gone.** After every run in which the reader has
come to its end, no request waits whose channel is unused, and every request ends that takes three
more turns. If it had passed the second check, no message of the whole run answers it and its caller
stays, then it ends because the analysis is gone or because its message could not be sent. -/
theorem closing_leaves_no_request_waiting (events : List RaceEvent)
    (hdone : (start.run events).reader = .done) :
    (∀ number id : Nat, (start.run events).requests[number]? = some (.awaiting id) →
      (start.run events).channels id ≠ .unused) ∧
    ∀ (number : Nat) (phase : Phase) (later : List RaceEvent),
      (start.run events).requests[number]? = some phase →
      3 ≤ later.countP (RaceEvent.isTurnOf number) →
      ∃ ending, (start.run (events ++ later)).requests[number]? = some (.ended ending) ∧
        ∀ (before after : List RaceEvent) (id : Nat), events = before ++ after →
          (start.run before).requests[number]? = some (.admitted id) →
          Silent id (events ++ later) → .givesUp number ∉ after ++ later →
          ending = .closed ∨ ending = .unsent := by
  have hsound : (start.run events).Sound := start_sound.run events
  refine ⟨fun number id hwaits => hsound.channel_ne_unused hdone hwaits, ?_⟩
  intro number phase later hphase hturns
  obtain ⟨last, hlast, hleft⟩ := hsound.exists_left_run hdone hphase later
  have hfew : phase.left ≤ 3 := by
    cases phase <;> simp [Phase.left]
  have hzero : last.left = 0 := by omega
  obtain ⟨ending, rfl⟩ := exists_ended_of_left_eq_zero hzero
  rw [← run_append] at hlast
  refine ⟨ending, hlast, ?_⟩
  intro before after id hsplit hadmitted hsilent hstays
  have hbefore : ∀ result, (start.run before).channels id ≠ .used result := by
    apply channels_run
    · exact fun result h => by cases h
    · intro message hmem
      exact hsilent message (by simp [hsplit, hmem])
  have hafter : Silent id (after ++ later) := by
    intro message hmem
    apply hsilent message
    rw [hsplit, List.append_assoc]
    exact List.mem_append_right _ hmem
  obtain ⟨final, hfinal, hpast⟩ :=
    exists_past_run hadmitted (show Past id (.admitted id) from rfl) hbefore hafter hstays
  rw [← run_append, ← List.append_assoc, ← hsplit, hlast] at hfinal
  cases hfinal
  cases ending with
  | closed => exact Or.inl rfl
  | unsent => exact Or.inr rfl
  | unavailable => cases hpast
  | answered result => cases hpast
  | abandoned => cases hpast

/-- Two requests and the end of the stream: the first waits when the reader stops, and the second
has passed the first check only and makes itself pending when the reader is done. -/
def racing : List RaceEvent :=
  [.calls, .calls, .turns 0 true, .turns 0 true, .turns 0 true, .turns 0 true, .turns 1 true] ++
    [.turns 0 true, .stops, .turns 1 true, .clears, .turns 1 true]

/-- Both requests are let go on. -/
def goingOn : List RaceEvent :=
  [.turns 0 true, .turns 1 true, .turns 0 true, .turns 1 true, .turns 0 true, .turns 1 true]

/-- The request that waits ends, and so does the one that is pending for no reader. -/
theorem closing_leaves_no_request_waiting_racing :
    (start.run racing).reader = .done ∧ 2 ∈ (start.run racing).connection.pending ∧
    (start.run racing).channels 1 ≠ .unused ∧
    (∃ ending, (start.run (racing ++ goingOn)).requests[0]? = some (.ended ending) ∧
      (ending = .closed ∨ ending = .unsent)) ∧
    ∃ ending, (start.run (racing ++ goingOn)).requests[1]? = some (.ended ending) := by
  have hdone : (start.run racing).reader = .done := rfl
  have hsilent : Silent 1 (racing ++ goingOn) := by
    simp [Silent, racing, goingOn]
  obtain ⟨hheard, hends⟩ := closing_leaves_no_request_waiting racing hdone
  obtain ⟨ending, hending, hclosed⟩ := hends 0 (.awaiting 1) goingOn rfl (by decide)
  obtain ⟨other, hother, -⟩ := hends 1 (.entered 2) goingOn rfl (by decide)
  refine ⟨hdone, by decide, hheard 0 1 rfl, ⟨ending, hending, ?_⟩, other, hother⟩
  exact hclosed _ _ 1 rfl rfl hsilent (by simp [goingOn])

/-! ## The same steps without interruption -/

/-- The turn of a request that stands in its place is the turn of its phase. -/
theorem step_place (hlt : number < race.requests.length) (next : Connection × Phase)
    (sent : Bool) :
    (race.place number next).step (.turns number sent) =
      race.place number (next.2.turn next.1 race.channels sent) := by
  have hphase : (race.place number next).requests[number]? = some next.2 :=
    List.getElem?_set_self hlt
  dsimp only [step]
  rw [hphase]
  dsimp only [place]
  rw [List.set_set]

/-- Four turns of a request that nobody interrupts start it as `Connection.request` does. -/
theorem run_turns_request (hfresh : race.requests[number]? = some .fresh) {next : Connection}
    {id : Nat} (hrequest : race.connection.request = .ok (next, id)) :
    race.run (List.replicate 4 (.turns number true)) =
      race.place number (next, .admitted id) := by
  have hlt : number < race.requests.length := (List.getElem?_eq_some_iff.mp hfresh).1
  cases halive : race.connection.alive with
  | false =>
    rw [Connection.request, if_neg (by simp [halive])] at hrequest
    cases hrequest
  | true =>
    rw [Connection.request, if_pos halive] at hrequest
    cases hrequest
    have hfirst : race.step (.turns number true) =
        race.place number (race.connection, .checked) := by
      dsimp only [step]
      rw [hfresh]
      dsimp only [Phase.turn]
      rw [if_pos halive]
    have hsecond : Phase.turn (race.connection.takeNumber.1.enter race.connection.nextId)
        race.channels true (.entered race.connection.nextId) =
        (race.connection.takeNumber.1.enter race.connection.nextId,
          .admitted race.connection.nextId) :=
      if_pos halive
    simp only [run, List.replicate, List.foldl_cons, List.foldl_nil]
    rw [hfirst, step_place hlt, step_place hlt, step_place hlt]
    exact congrArg (race.place number) hsecond

/-- The two steps of the reader that nobody interrupts are those of `Connection.finish`. -/
theorem connection_run_finish (hreading : race.reader = .reading) :
    (race.run [.stops, .clears]).connection = race.connection.finish.1 := by
  simp [run, step, hreading, Connection.finish]

end Race

end FluentAssist.Analyzer
