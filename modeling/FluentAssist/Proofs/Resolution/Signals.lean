import FluentAssist.Proofs.Resolution.Supersession

/-!
# Signals over whole histories

Requests start, documents are closed, signals are copied, and those who hold a signal wait for its
cancellation and look from time to time. A history is any sequence of such events over any set of
documents.

The invariant `Signals.Exact` relates every signal that was handed out to the history: which request
it was given to, and that it is cancelled exactly if a later request or a closing of the same
document followed. A document that comes back has a new counter, which starts at one again, so
the numbers of a former life occur once more; the places of the counters tell them apart.

`signal_cancelled_iff_superseded` is the main statement.
-/

set_option autoImplicit false

namespace FluentAssist

/-- One who waits for the cancellation of a request, with the number that it saw last. -/
structure CancelSignal.Wait where
  signal : CancelSignal
  seen : Option Nat := none
  deriving DecidableEq, Repr

namespace CancelSignal.Wait

/-- Looks at the counter and tells whether the wait is over. A number that was not seen before is
compared with the one of the request. If there is none, or if it is that of the request, the wait
goes on as long as the counter can still change. -/
def look (wait : Wait) (table : Supersession) : Wait × Bool :=
  match wait.signal with
  | .never => (wait, false)
  | .on place generation =>
    match table.counters[place]? with
    | none => (wait, true)
    | some counter =>
      if wait.seen = some counter.generation then (wait, !counter.inUse)
      else if counter.generation ≠ generation then (wait, true)
      else ({ wait with seen := some generation }, !counter.inUse)

/-- One who still waits has seen nothing yet, or the number of its own request. -/
def Sound (wait : Wait) : Prop :=
  ∀ number, wait.seen = some number → ∃ place, wait.signal = .on place number

/-- A wait that is looked at is over exactly if its signal is ready. -/
theorem Sound.look {wait : Wait} (hsound : wait.Sound) (table : Supersession) :
    (wait.look table).1.Sound ∧ (wait.look table).2 = wait.signal.isReady table := by
  obtain ⟨signal, seen⟩ := wait
  cases signal with
  | never => exact ⟨hsound, rfl⟩
  | on place generation =>
    unfold Wait.look CancelSignal.isReady CancelSignal.wakeup
    dsimp only
    cases hplace : table.counters[place]? with
    | none => exact ⟨hsound, rfl⟩
    | some counter =>
      dsimp only
      by_cases hseen : seen = some counter.generation
      · -- Nothing new: what was seen is the number of the request.
        obtain ⟨other, hother⟩ := hsound counter.generation hseen
        cases hother
        rw [if_pos hseen]
        refine ⟨hsound, ?_⟩
        cases counter.inUse <;> simp
      · rw [if_neg hseen]
        by_cases hmoved : counter.generation = generation
        · refine ⟨?_, ?_⟩
          · simp only [hmoved, ne_eq, not_true_eq_false, if_false]
            intro number hnumber
            cases hnumber
            exact ⟨place, rfl⟩
          · cases counter.inUse <;> simp [hmoved]
        · simp only [ne_eq, hmoved, not_false_eq_true, if_true]
          exact ⟨hsound, trivial⟩

end CancelSignal.Wait

/-- A signal in somebody's hands. -/
structure Handle where
  signal : CancelSignal
  /-- The document of the request that the signal was given to. -/
  uri : Url
  /-- The number of events up to the start of that request. -/
  since : Nat
  deriving DecidableEq, Repr

/-- What may happen next. -/
inductive SignalEvent
  | begins (uri : Url)
  | forgets (uri : Url)
  /-- The signal at a place is copied. -/
  | clones (place : Nat)
  /-- Somebody starts to wait for a cancellation. -/
  | waits (signal : CancelSignal)
  /-- The one who waits at a place looks. -/
  | looks (place : Nat)
  deriving DecidableEq, Repr

/-- The counters, and the signals that were handed out. -/
structure Signals where
  table : Supersession
  handles : List Handle
  waits : List CancelSignal.Wait
  /-- The number of events so far. -/
  count : Nat
  deriving DecidableEq, Repr

namespace Signals

/-- No request was started yet. -/
def start : Signals := ⟨{}, [], [], 0⟩

/-- Lets an event happen. -/
def step (signals : Signals) (event : SignalEvent) : Signals :=
  let signals := { signals with count := signals.count + 1 }
  match event with
  | .begins uri =>
    { signals with
      table := (signals.table.start uri).1
      handles := signals.handles ++ [⟨(signals.table.start uri).2, uri, signals.count⟩] }
  | .forgets uri => { signals with table := signals.table.forget uri }
  | .clones place =>
    { signals with handles := signals.handles ++ (signals.handles[place]?).toList }
  | .waits signal => { signals with waits := signals.waits ++ [⟨signal, none⟩] }
  | .looks place =>
    { signals with
      waits := signals.waits.modify place fun wait => (wait.look signals.table).1 }

/-- Lets events happen one after another. -/
def run (signals : Signals) (events : List SignalEvent) : Signals := events.foldl step signals

/-- Events one after another are two runs one after the other. -/
theorem run_append (signals : Signals) (earlier later : List SignalEvent) :
    signals.run (earlier ++ later) = (signals.run earlier).run later :=
  List.foldl_append

/-! ## The invariant -/

/-- Whether an event ends the requests for a document that came before it. -/
def Ends (uri : Url) (event : SignalEvent) : Prop := event = .begins uri ∨ event = .forgets uri

/-- A signal was given to the request that started with one event of a history, and it is cancelled
exactly if a later event ends that request. -/
structure Traces (events : List SignalEvent) (table : Supersession) (handle : Handle) : Prop where
  holds : table.Holds handle.uri handle.signal
  origin : ∃ earlier later, events = earlier ++ .begins handle.uri :: later ∧
    handle.since = earlier.length + 1 ∧
    handle.signal = ((start.run earlier).table.start handle.uri).2
  status : handle.signal.isCancelled table = true ↔
    ∃ event ∈ events.drop handle.since, Ends handle.uri event

/-- The signals agree with the history that led to them. -/
structure Exact (events : List SignalEvent) (signals : Signals) : Prop where
  reached : signals = start.run events
  count : signals.count = events.length
  single : signals.table.Single
  traces : ∀ handle ∈ signals.handles, Traces events signals.table handle
  kept : ∀ earlier uri later, events = earlier ++ .begins uri :: later →
    ∃ handle ∈ signals.handles, handle.uri = uri ∧ handle.since = earlier.length + 1
  same : ∀ handle ∈ signals.handles, ∀ other ∈ signals.handles,
    handle.since = other.since → handle = other
  waits : ∀ wait ∈ signals.waits, wait.Sound

/-- Without a history there is nothing to agree with. -/
theorem start_exact : start.Exact [] := by
  constructor
  · rfl
  · rfl
  · exact Supersession.single_empty
  · simp [start]
  · simp
  · simp [start]
  · simp [start]

variable {events : List SignalEvent} {signals : Signals} {table next : Supersession}
variable {handle : Handle} {event : SignalEvent}

/-- A request starts within the history. -/
theorem Traces.since_le (htraces : Traces events table handle) :
    handle.since ≤ events.length := by
  obtain ⟨earlier, later, rfl, hsince, -⟩ := htraces.origin
  simp [hsince]

/-- A signal still agrees with the history after one more event, if the event cancels it exactly
when it ends the request. -/
theorem Traces.step (htraces : Traces events table handle) (hadvances : table.Advances next)
    (hends : Ends handle.uri event → handle.signal.isCancelled next = true)
    (hkeeps : ¬ Ends handle.uri event →
      handle.signal.isCancelled next = handle.signal.isCancelled table) :
    Traces (events ++ [event]) next handle := by
  refine ⟨htraces.holds.mono hadvances, ?_, ?_⟩
  · obtain ⟨earlier, later, rfl, horigin⟩ := htraces.origin
    exact ⟨earlier, later ++ [event], by simp, horigin⟩
  · rw [List.drop_append_of_le_length htraces.since_le]
    by_cases hevent : Ends handle.uri event
    · exact ⟨fun _ => ⟨event, by simp, hevent⟩, fun _ => hends hevent⟩
    · rw [hkeeps hevent, htraces.status]
      constructor
      · rintro ⟨other, hmem, hother⟩
        exact ⟨other, List.mem_append_left _ hmem, hother⟩
      · rintro ⟨other, hmem, hother⟩
        rcases List.mem_append.mp hmem with hold | hnew
        · exact ⟨other, hold, hother⟩
        · rw [List.mem_singleton] at hnew
          rw [hnew] at hother
          exact absurd hother hevent

/-- An event that touches no counter ends no request. -/
theorem Traces.idle (htraces : Traces events table handle) (hidle : ∀ uri, ¬ Ends uri event) :
    Traces (events ++ [event]) table handle :=
  htraces.step table.advances_refl (fun hends => absurd hends (hidle handle.uri)) fun _ => rfl

/-- An event of a history that is longer by one event is the new one or was there before. -/
theorem split_concat {first : SignalEvent} {earlier later : List SignalEvent}
    (hsplit : events ++ [event] = earlier ++ first :: later) :
    events = earlier ∧ event = first ∨ ∃ rest, events = earlier ++ first :: rest := by
  rcases List.eq_nil_or_concat later with rfl | ⟨rest, last, rfl⟩
  · obtain ⟨hearlier, hlast⟩ := List.append_inj' hsplit rfl
    exact Or.inl ⟨hearlier, List.singleton_inj.mp hlast⟩
  · have hconcat : events ++ [event] = (earlier ++ first :: rest) ++ [last] := by
      rw [hsplit]
      simp
    exact Or.inr ⟨rest, (List.append_inj' hconcat rfl).1⟩

/-- A request agrees with the history that it has just become a part of. -/
theorem traces_new (events : List SignalEvent) (uri : Url) :
    Traces (events ++ [.begins uri]) ((start.run events).table.start uri).1
      ⟨((start.run events).table.start uri).2, uri, events.length + 1⟩ := by
  refine ⟨Supersession.holds_start _ _, ⟨events, [], rfl, rfl, rfl⟩, ?_⟩
  rw [Supersession.isCancelled_start]
  simp

/-- A new request keeps the signals in agreement with the history. -/
theorem Exact.begins (hexact : signals.Exact events) (uri : Url) :
    (signals.step (.begins uri)).Exact (events ++ [.begins uri]) := by
  have hnew : ∀ handle ∈ (signals.step (.begins uri)).handles, handle ∈ signals.handles ∨
      handle = ⟨(signals.table.start uri).2, uri, events.length + 1⟩ := by
    intro handle hmem
    simpa [Signals.step, hexact.count] using hmem
  constructor
  · rw [run_append, ← hexact.reached]
    rfl
  · simp [Signals.step, hexact.count]
  · exact hexact.single.start uri
  · intro handle hmem
    rcases hnew handle hmem with hold | rfl
    · have htraces := hexact.traces handle hold
      apply htraces.step (Supersession.advances_start _ uri)
      · rintro (hsame | hother)
        · cases hsame
          exact htraces.holds.isCancelled_start_self hexact.single
        · cases hother
      · intro hevent
        apply htraces.holds.isCancelled_start_of_ne
        rintro rfl
        exact hevent (Or.inl rfl)
    · rw [hexact.reached]
      exact traces_new events uri
  · intro earlier other later hsplit
    rcases split_concat hsplit with ⟨rfl, hlast⟩ | ⟨rest, hevents⟩
    · cases hlast
      exact ⟨⟨(signals.table.start uri).2, uri, events.length + 1⟩,
        by simp [Signals.step, hexact.count], rfl, rfl⟩
    · obtain ⟨handle, hmem, hhandle⟩ := hexact.kept earlier other rest hevents
      exact ⟨handle, List.mem_append_left _ hmem, hhandle⟩
  · have hbelow : ∀ handle ∈ signals.handles, handle.since ≠ events.length + 1 :=
      fun handle hmem hsince => by
        have hle := (hexact.traces handle hmem).since_le
        omega
    intro handle hmem other hmem' hsince
    rcases hnew handle hmem with hold | rfl <;> rcases hnew other hmem' with hold' | rfl
    · exact hexact.same handle hold other hold' hsince
    · exact absurd hsince (hbelow handle hold)
    · exact absurd hsince.symm (hbelow other hold')
    · rfl
  · exact hexact.waits

/-- Events other than a start hand out no new signal. -/
theorem Exact.step_of_not_begins (hexact : signals.Exact events)
    (hbegins : ∀ uri, event ≠ .begins uri)
    (hsingle : (signals.step event).table.Single)
    (hhandles : ∀ handle, handle ∈ (signals.step event).handles ↔ handle ∈ signals.handles)
    (htraces : ∀ handle ∈ signals.handles,
      Traces (events ++ [event]) (signals.step event).table handle)
    (hwaits : ∀ wait ∈ (signals.step event).waits, wait.Sound) :
    (signals.step event).Exact (events ++ [event]) := by
  constructor
  · rw [run_append, ← hexact.reached]
    rfl
  · cases event <;> simp [Signals.step, hexact.count]
  · exact hsingle
  · intro handle hmem
    exact htraces handle ((hhandles handle).mp hmem)
  · intro earlier uri later hsplit
    rcases split_concat hsplit with ⟨-, hlast⟩ | ⟨rest, hevents⟩
    · exact absurd hlast (hbegins uri)
    · obtain ⟨handle, hmem, hhandle⟩ := hexact.kept earlier uri rest hevents
      exact ⟨handle, (hhandles handle).mpr hmem, hhandle⟩
  · intro handle hmem other hmem'
    exact hexact.same handle ((hhandles handle).mp hmem) other ((hhandles other).mp hmem')
  · exact hwaits

/-- Every event keeps the signals in agreement with the history. -/
theorem Exact.step (hexact : signals.Exact events) (event : SignalEvent) :
    (signals.step event).Exact (events ++ [event]) := by
  cases event with
  | begins uri => exact hexact.begins uri
  | forgets uri =>
    refine hexact.step_of_not_begins (by simp) (hexact.single.forget uri) (fun _ => Iff.rfl) ?_
      hexact.waits
    intro handle hmem
    have htraces := hexact.traces handle hmem
    apply htraces.step (Supersession.advances_forget _ uri)
    · rintro (hother | hsame)
      · cases hother
      · cases hsame
        exact htraces.holds.isCancelled_forget_self
    · intro hevent
      apply htraces.holds.isCancelled_forget_of_ne
      rintro rfl
      exact hevent (Or.inr rfl)
  | clones place =>
    refine hexact.step_of_not_begins (by simp) hexact.single ?_ ?_ hexact.waits
    · intro handle
      simp only [Signals.step, List.mem_append, Option.mem_toList]
      exact ⟨fun hmem => hmem.elim id List.mem_of_getElem?, Or.inl⟩
    · exact fun handle hmem => (hexact.traces handle hmem).idle (by simp [Ends])
  | waits signal =>
    refine hexact.step_of_not_begins (by simp) hexact.single (fun _ => Iff.rfl) ?_ ?_
    · exact fun handle hmem => (hexact.traces handle hmem).idle (by simp [Ends])
    · intro wait hmem
      rcases List.mem_append.mp hmem with hold | hnew
      · exact hexact.waits wait hold
      · rw [List.mem_singleton] at hnew
        subst hnew
        intro number hnumber
        cases hnumber
  | looks place =>
    refine hexact.step_of_not_begins (by simp) hexact.single (fun _ => Iff.rfl) ?_ ?_
    · exact fun handle hmem => (hexact.traces handle hmem).idle (by simp [Ends])
    · intro wait hmem
      obtain ⟨other, hother⟩ := List.getElem?_of_mem hmem
      simp only [Signals.step, List.getElem?_modify] at hother
      obtain ⟨former, hformer, hwait⟩ := Option.map_eq_some_iff.mp hother
      have hsound := hexact.waits former (List.mem_of_getElem? hformer)
      rw [← hwait]
      split
      · exact (hsound.look _).1
      · exact hsound

/-- After every history the signals agree with it. -/
theorem exact_run (events : List SignalEvent) : (start.run events).Exact events := by
  have hrun : ∀ (later earlier : List SignalEvent) (signals : Signals), signals.Exact earlier →
      (signals.run later).Exact (earlier ++ later) := by
    intro later
    induction later with
    | nil =>
      intro earlier signals hexact
      rw [List.append_nil]
      exact hexact
    | cons event later ih =>
      intro earlier signals hexact
      have hlater := ih (earlier ++ [event]) (signals.step event) (hexact.step event)
      rw [List.append_assoc] at hlater
      exact hlater
  exact hrun events [] start start_exact

/-! ## Exactness -/

/-- Of two signals for a document, the one that was handed out later had the other cancelled. -/
theorem Exact.isCancelled_of_since_lt (hexact : signals.Exact events) {other : Handle}
    (hmem : handle ∈ signals.handles) (hmem' : other ∈ signals.handles)
    (huri : handle.uri = other.uri) (hlt : handle.since < other.since) :
    handle.signal.isCancelled signals.table = true := by
  rw [(hexact.traces handle hmem).status]
  obtain ⟨earlier, later, hsplit, hsince, -⟩ := (hexact.traces other hmem').origin
  refine ⟨.begins handle.uri, ?_, Or.inl rfl⟩
  rw [hsplit, List.drop_append_of_le_length (by omega), huri]
  exact List.mem_append_right _ List.mem_cons_self

/-- The signal that the start of a request in a history hands out. -/
theorem Exact.handle_of_split (hexact : signals.Exact events) {earlier later : List SignalEvent}
    {uri : Url} (hsplit : events = earlier ++ .begins uri :: later) :
    ∃ handle ∈ signals.handles, handle.uri = uri ∧ handle.since = earlier.length + 1 ∧
      handle.signal = ((start.run earlier).table.start uri).2 := by
  obtain ⟨handle, hmem, huri, hsince⟩ := hexact.kept earlier uri later hsplit
  obtain ⟨earlier', later', hsplit', hsince', hsignal⟩ := (hexact.traces handle hmem).origin
  have hlength : earlier.length = earlier'.length := by omega
  have hsame : earlier = earlier' := (List.append_inj (hsplit.symm.trans hsplit') hlength).1
  rw [← hsame, huri] at hsignal
  exact ⟨handle, hmem, huri, hsince, hsignal⟩

/-- **Supersession is exact.** After every history, the signal of a request is cancelled exactly if
a later request for the same document or its closing followed, and then it stays so. The signals in
anybody's hands are those of requests and copies of them, and of those for one document at most one
is not cancelled. Whoever waits for a cancellation, whenever it has looked before, is let go exactly
if the signal is cancelled. A signal that never fires is never cancelled. -/
theorem signal_cancelled_iff_superseded (events : List SignalEvent) :
    let last := start.run events
    (∀ earlier uri later, events = earlier ++ .begins uri :: later →
      let signal := ((start.run earlier).table.start uri).2
      (signal.isCancelled last.table = true ↔
        SignalEvent.begins uri ∈ later ∨ SignalEvent.forgets uri ∈ later) ∧
      (signal.isCancelled last.table = true → ∀ more : List SignalEvent,
        signal.isCancelled (start.run (events ++ more)).table = true)) ∧
    (∀ handle ∈ last.handles, ∃ earlier later,
      events = earlier ++ .begins handle.uri :: later ∧ handle.since = earlier.length + 1 ∧
      handle.signal = ((start.run earlier).table.start handle.uri).2) ∧
    (∀ handle ∈ last.handles, ∀ other ∈ last.handles, handle.uri = other.uri →
      handle.signal.isCancelled last.table = false →
      other.signal.isCancelled last.table = false → handle = other) ∧
    (∀ wait ∈ last.waits, (wait.look last.table).2 = wait.signal.isCancelled last.table) ∧
    (∀ signal : CancelSignal, signal.isReady last.table = signal.isCancelled last.table) ∧
    CancelSignal.never.isCancelled last.table = false := by
  intro last
  have hlast : last.Exact events := exact_run events
  have hstatus : ∀ (events earlier : List SignalEvent) (uri : Url) (later : List SignalEvent),
      events = earlier ++ .begins uri :: later →
      (((start.run earlier).table.start uri).2.isCancelled (start.run events).table = true ↔
        SignalEvent.begins uri ∈ later ∨ SignalEvent.forgets uri ∈ later) := by
    intro events earlier uri later hsplit
    obtain ⟨handle, hmem, rfl, hsince, hsignal⟩ := (exact_run events).handle_of_split hsplit
    have hdrop : events.drop handle.since = later := by
      rw [hsplit, hsince, List.drop_append]
      simp
    rw [← hsignal, ((exact_run events).traces handle hmem).status, hdrop]
    simp only [Ends]
    constructor
    · rintro ⟨event, hevent, rfl | rfl⟩
      · exact Or.inl hevent
      · exact Or.inr hevent
    · rintro (hbegins | hforgets)
      · exact ⟨_, hbegins, Or.inl rfl⟩
      · exact ⟨_, hforgets, Or.inr rfl⟩
  refine ⟨?_, fun handle hmem => (hlast.traces handle hmem).origin, ?_, ?_, ?_, rfl⟩
  · intro earlier uri later hsplit
    refine ⟨hstatus events earlier uri later hsplit, ?_⟩
    intro hcancelled more
    rw [hstatus events earlier uri later hsplit] at hcancelled
    rw [hstatus (events ++ more) earlier uri (later ++ more) (by simp [hsplit])]
    exact hcancelled.imp (List.mem_append_left _) (List.mem_append_left _)
  · intro handle hmem other hmem' huri hlive hlive'
    apply hlast.same handle hmem other hmem'
    rcases Nat.lt_trichotomy handle.since other.since with hlt | heq | hlt
    · rw [hlast.isCancelled_of_since_lt hmem hmem' huri hlt] at hlive
      cases hlive
    · exact heq
    · rw [hlast.isCancelled_of_since_lt hmem' hmem huri.symm hlt] at hlive'
      cases hlive'
  · intro wait hmem
    rw [((hlast.waits wait hmem).look last.table).2, CancelSignal.isReady_eq_isCancelled]
  · exact fun signal => signal.isReady_eq_isCancelled last.table

/-- A document is closed and comes back: its first signal has the number of the second one, and only
the first is cancelled, for a copy and for one who has looked before as well. -/
example :
    let script : Url := { scheme := "file".toList, path := .segments ["main.py".toList] }
    let last := start.run [.begins script, .clones 0, .waits (.on 0 1), .looks 0, .forgets script,
      .begins script]
    last.handles.map (fun handle => (handle.signal, handle.signal.isCancelled last.table)) =
        [(.on 0 1, true), (.on 0 1, true), (.on 1 1, false)] ∧
      last.waits.map (fun wait => (wait.seen, (wait.look last.table).2)) = [(some 1, true)] := by
  decide +kernel

end Signals

end FluentAssist
