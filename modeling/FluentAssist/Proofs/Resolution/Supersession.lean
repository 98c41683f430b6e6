import FluentAssist.Resolution.Supersession

/-!
# Signals of current requests

A request that starts is the current one of its document: its signal is not cancelled in the table
that it leaves. From then on its counter only moves on (`Advances`), so a signal that is cancelled
stays cancelled, and only what happens to its own document cancels it.

A table that was made by starting requests and closing documents gives every document one counter
to use (`Single`); the counters of its former lives stay behind, closed.
-/

set_option autoImplicit false

namespace FluentAssist

namespace Supersession

/-- The counter that a document uses stands at its place. -/
theorem exists_counter_of_current? {table : Supersession} {uri : Url} {place : Nat}
    (hcurrent : table.current? uri = some place) :
    ∃ counter, table.counters[place]? = some counter ∧ counter.uri = uri ∧
      counter.inUse = true := by
  unfold current? at hcurrent
  rw [List.findIdx?_eq_some_iff_getElem] at hcurrent
  obtain ⟨hlt, hcounter, -⟩ := hcurrent
  refine ⟨table.counters[place], List.getElem?_eq_getElem hlt, ?_⟩
  simpa using hcounter

/-- A request that has just started is not cancelled. -/
theorem isCancelled_start (table : Supersession) (uri : Url) :
    (table.start uri).2.isCancelled (table.start uri).1 = false := by
  unfold start
  cases hcurrent : table.current? uri with
  | none => simp [CancelSignal.isCancelled]
  | some place =>
    obtain ⟨counter, hplace, -, huse⟩ := exists_counter_of_current? hcurrent
    simp [CancelSignal.isCancelled, hplace, huse]

/-! ## What happens to counters -/

/-- A counter after a request for a document has started. -/
def Counter.bump (counter : Counter) : Counter :=
  { counter with generation := counter.generation + 1 }

/-- A counter after a document was closed. -/
def Counter.close (counter : Counter) (uri : Url) : Counter :=
  if counter.uri = uri then { counter with inUse := false } else counter

/-- A request moves the counter of its document on, or the document has none in use and gets a new
one. -/
theorem start_cases (table : Supersession) (uri : Url) :
    (∃ place counter, table.counters[place]? = some counter ∧ counter.uri = uri ∧
      counter.inUse = true ∧
      table.start uri = (⟨table.counters.set place counter.bump⟩,
        .on place counter.bump.generation)) ∨
    ((∀ counter ∈ table.counters, counter.uri = uri → counter.inUse = false) ∧
      table.start uri =
        (⟨table.counters ++ [⟨uri, 1, true⟩]⟩, .on table.counters.length 1)) := by
  unfold start
  cases hcurrent : table.current? uri with
  | none =>
    refine Or.inr ⟨?_, rfl⟩
    intro counter hmem huri
    unfold current? at hcurrent
    rw [List.findIdx?_eq_none_iff] at hcurrent
    simpa [huri] using hcurrent counter hmem
  | some place =>
    obtain ⟨counter, hplace, huri, huse⟩ := exists_counter_of_current? hcurrent
    refine Or.inl ⟨place, counter, hplace, huri, huse, ?_⟩
    obtain ⟨hlt, hcounter⟩ := List.getElem?_eq_some_iff.mp hplace
    have hmodify : table.counters.modify place Counter.bump =
        table.counters.set place counter.bump := by
      rw [List.modify_eq_take_cons_drop hlt, hcounter, List.set_eq_take_append_cons_drop,
        if_pos hlt]
    change (Supersession.mk (table.counters.modify place Counter.bump), CancelSignal.on place
      (((table.counters.modify place Counter.bump)[place]?.map (·.generation)).getD 0)) = _
    rw [hmodify]
    simp [hlt]

/-- Closing a document closes its counters and no others. -/
theorem counters_forget (table : Supersession) (uri : Url) (place : Nat) :
    (table.forget uri).counters[place]? =
      (table.counters[place]?).map fun counter => counter.close uri := by
  unfold forget
  rw [List.getElem?_map]
  rfl

/-- Every document uses at most one counter. -/
def Single (table : Supersession) : Prop :=
  ∀ (place other : Nat) (counter counter' : Counter),
    table.counters[place]? = some counter → table.counters[other]? = some counter' →
    counter.inUse = true → counter'.inUse = true → counter.uri = counter'.uri → place = other

/-- Without counters no document uses two. -/
theorem single_empty : Single {} := by
  intro place other counter counter' hplace
  simp at hplace

/-- A new request leaves each document with one counter at most. -/
theorem Single.start {table : Supersession} (hsingle : table.Single) (uri : Url) :
    (table.start uri).1.Single := by
  obtain ⟨slot, used, hslot, huri, huse, hstart⟩ | ⟨hfree, hstart⟩ := start_cases table uri
  · -- Moving a counter on changes neither its document nor whether it is in use.
    have hold : ∀ (place : Nat) (counter : Counter),
        (table.counters.set slot used.bump)[place]? = some counter →
        ∃ former, table.counters[place]? = some former ∧ former.uri = counter.uri ∧
          former.inUse = counter.inUse := by
      intro place counter hplace
      rw [List.getElem?_set] at hplace
      split at hplace
      · rename_i heq
        split at hplace
        · cases hplace
          exact ⟨used, heq ▸ hslot, rfl, rfl⟩
        · cases hplace
      · exact ⟨counter, hplace, rfl, rfl⟩
    rw [hstart]
    intro place other counter counter' hplace hother hcounter hcounter' hsame
    obtain ⟨former, hformer, huri₁, huse₁⟩ := hold place counter hplace
    obtain ⟨former', hformer', huri₂, huse₂⟩ := hold other counter' hother
    exact hsingle place other former former' hformer hformer' (huse₁.trans hcounter)
      (huse₂.trans hcounter') (huri₁.trans (hsame.trans huri₂.symm))
  · have hnew : ∀ (place : Nat) (counter : Counter),
        (table.counters ++ [⟨uri, 1, true⟩])[place]? = some counter → counter.inUse = true →
        (table.counters[place]? = some counter ∧ counter.uri ≠ uri) ∨
          (place = table.counters.length ∧ counter.uri = uri) := by
      intro place counter hplace hcounter
      by_cases hlt : place < table.counters.length
      · rw [List.getElem?_append_left hlt] at hplace
        refine Or.inl ⟨hplace, ?_⟩
        intro huri
        have hunused := hfree counter (List.mem_of_getElem? hplace) huri
        rw [hcounter] at hunused
        cases hunused
      · rw [List.getElem?_append_right (Nat.le_of_not_lt hlt)] at hplace
        obtain ⟨hlast, hcounter⟩ := List.getElem?_eq_some_iff.mp hplace
        have hzero : place - table.counters.length = 0 := by simpa using hlast
        refine Or.inr ⟨by omega, ?_⟩
        rw [← hcounter]
        simp
    rw [hstart]
    intro place other counter counter' hplace hother hcounter hcounter' hsame
    rcases hnew place counter hplace hcounter with ⟨hold, hne⟩ | ⟨hlast, huri⟩ <;>
      rcases hnew other counter' hother hcounter' with ⟨hold', hne'⟩ | ⟨hlast', huri'⟩
    · exact hsingle place other counter counter' hold hold' hcounter hcounter' hsame
    · exact absurd (hsame.trans huri') hne
    · exact absurd (hsame.symm.trans huri) hne'
    · rw [hlast, hlast']

/-- Closing a document leaves each document with one counter at most. -/
theorem Single.forget {table : Supersession} (hsingle : table.Single) (uri : Url) :
    (table.forget uri).Single := by
  have hold : ∀ (place : Nat) (counter : Counter),
      (table.forget uri).counters[place]? = some counter → counter.inUse = true →
      table.counters[place]? = some counter := by
    intro place counter hplace hcounter
    rw [counters_forget, Option.map_eq_some_iff] at hplace
    obtain ⟨former, hformer, hclose⟩ := hplace
    unfold Counter.close at hclose
    split at hclose
    · rw [← hclose] at hcounter
      cases hcounter
    · rw [← hclose]
      exact hformer
  intro place other counter counter' hplace hother hcounter hcounter'
  exact hsingle place other counter counter' (hold place counter hplace hcounter)
    (hold other counter' hother hcounter') hcounter hcounter'

/-! ## Signals that were handed out -/

/-- Counters keep their places and documents, never go back, and are not used again once they are
closed. -/
def Advances (table next : Supersession) : Prop :=
  ∀ (place : Nat) (counter : Counter), table.counters[place]? = some counter →
    ∃ counter', next.counters[place]? = some counter' ∧ counter'.uri = counter.uri ∧
      counter.generation ≤ counter'.generation ∧
      (counter.inUse = false → counter'.inUse = false)

/-- Where nothing happens no counter goes back. -/
theorem advances_refl (table : Supersession) : table.Advances table :=
  fun _ counter hplace => ⟨counter, hplace, rfl, Nat.le_refl _, id⟩

/-- A new request moves no counter back. -/
theorem advances_start (table : Supersession) (uri : Url) :
    table.Advances (table.start uri).1 := by
  intro place counter hplace
  obtain ⟨slot, used, hslot, -, -, hstart⟩ | ⟨-, hstart⟩ := start_cases table uri
  · rw [hstart]
    dsimp only
    by_cases heq : slot = place
    · subst heq
      cases hplace.symm.trans hslot
      refine ⟨counter.bump, ?_, rfl, Nat.le_succ _, id⟩
      rw [List.getElem?_set_self (List.getElem?_eq_some_iff.mp hslot).1]
    · exact ⟨counter, by rw [List.getElem?_set_ne heq]; exact hplace, rfl, Nat.le_refl _, id⟩
  · rw [hstart]
    dsimp only
    refine ⟨counter, ?_, rfl, Nat.le_refl _, id⟩
    rw [List.getElem?_append_left (List.getElem?_eq_some_iff.mp hplace).1]
    exact hplace

/-- Closing a document moves no counter back. -/
theorem advances_forget (table : Supersession) (uri : Url) :
    table.Advances (table.forget uri) := by
  intro place counter hplace
  refine ⟨counter.close uri, by rw [counters_forget, hplace]; rfl, ?_⟩
  unfold Counter.close
  split
  · exact ⟨rfl, Nat.le_refl _, fun _ => rfl⟩
  · exact ⟨rfl, Nat.le_refl _, id⟩

/-- A signal that was handed out to a request for a document: it names a counter of the document and
a number that the counter has reached. -/
def Holds (table : Supersession) (uri : Url) (signal : CancelSignal) : Prop :=
  ∃ (place generation : Nat) (counter : Counter), signal = .on place generation ∧
    table.counters[place]? = some counter ∧ counter.uri = uri ∧ generation ≤ counter.generation

variable {table next : Supersession} {uri : Url} {signal : CancelSignal}

/-- The signal of a new request is one that was handed out for its document. -/
theorem holds_start (table : Supersession) (uri : Url) :
    (table.start uri).1.Holds uri (table.start uri).2 := by
  obtain ⟨place, counter, hplace, huri, -, hstart⟩ | ⟨-, hstart⟩ := start_cases table uri
  · rw [hstart]
    refine ⟨place, counter.bump.generation, counter.bump, rfl, ?_, huri, Nat.le_refl _⟩
    rw [List.getElem?_set_self (List.getElem?_eq_some_iff.mp hplace).1]
  · rw [hstart]
    exact ⟨table.counters.length, 1, ⟨uri, 1, true⟩, rfl, by simp, rfl, Nat.le_refl _⟩

/-- A signal that was handed out stays one. -/
theorem Holds.mono (hholds : table.Holds uri signal) (hadvances : table.Advances next) :
    next.Holds uri signal := by
  obtain ⟨place, generation, counter, rfl, hplace, huri, hle⟩ := hholds
  obtain ⟨counter', hplace', huri', hle', -⟩ := hadvances place counter hplace
  exact ⟨place, generation, counter', rfl, hplace', huri'.trans huri, Nat.le_trans hle hle'⟩

/-- A signal on a counter is cancelled if the counter has moved on or is closed. -/
theorem isCancelled_on {place generation : Nat} {counter : Counter}
    (hplace : table.counters[place]? = some counter) :
    (CancelSignal.on place generation).isCancelled table = true ↔
      counter.generation ≠ generation ∨ counter.inUse = false := by
  unfold CancelSignal.isCancelled
  simp [hplace]

/-- A signal that is cancelled stays cancelled. -/
theorem Holds.isCancelled_mono (hholds : table.Holds uri signal)
    (hadvances : table.Advances next) (hcancelled : signal.isCancelled table = true) :
    signal.isCancelled next = true := by
  obtain ⟨place, generation, counter, rfl, hplace, -, hle⟩ := hholds
  obtain ⟨counter', hplace', -, hle', hclosed⟩ := hadvances place counter hplace
  rw [isCancelled_on hplace] at hcancelled
  rw [isCancelled_on hplace']
  rcases hcancelled with hmoved | hunused
  · left
    omega
  · exact Or.inr (hclosed hunused)

/-- The next request for the same document cancels a signal. -/
theorem Holds.isCancelled_start_self (hholds : table.Holds uri signal) (hsingle : table.Single) :
    signal.isCancelled (table.start uri).1 = true := by
  obtain ⟨place, generation, counter, rfl, hplace, huri, hle⟩ := hholds
  obtain ⟨slot, used, hslot, huri', huse, hstart⟩ | ⟨hfree, hstart⟩ := start_cases table uri
  · rw [hstart]
    by_cases heq : slot = place
    · subst heq
      cases hplace.symm.trans hslot
      have hnext : (table.counters.set slot counter.bump)[slot]? = some counter.bump :=
        List.getElem?_set_self (List.getElem?_eq_some_iff.mp hslot).1
      rw [isCancelled_on hnext]
      left
      change counter.generation + 1 ≠ generation
      omega
    · have hnext : (table.counters.set slot used.bump)[place]? = some counter := by
        rw [List.getElem?_set_ne heq]
        exact hplace
      rw [isCancelled_on hnext]
      right
      -- The document uses the other counter, so this one is closed.
      cases hused : counter.inUse with
      | false => rfl
      | true =>
        exact absurd (hsingle slot place used counter hslot hplace huse hused
          (huri'.trans huri.symm)) heq
  · rw [hstart]
    have hnext : (table.counters ++ [⟨uri, 1, true⟩])[place]? = some counter := by
      rw [List.getElem?_append_left (List.getElem?_eq_some_iff.mp hplace).1]
      exact hplace
    rw [isCancelled_on hnext]
    exact Or.inr (hfree counter (List.mem_of_getElem? hplace) huri)

/-- A request for another document does not matter to a signal. -/
theorem Holds.isCancelled_start_of_ne (hholds : table.Holds uri signal) {other : Url}
    (hne : other ≠ uri) : signal.isCancelled (table.start other).1 = signal.isCancelled table := by
  obtain ⟨place, generation, counter, rfl, hplace, huri, -⟩ := hholds
  have hnext : (table.start other).1.counters[place]? = some counter := by
    obtain ⟨slot, used, hslot, huri', -, hstart⟩ | ⟨-, hstart⟩ := start_cases table other
    · have hplaces : slot ≠ place := by
        rintro rfl
        cases hplace.symm.trans hslot
        exact hne (huri'.symm.trans huri)
      rw [hstart]
      dsimp only
      rw [List.getElem?_set_ne hplaces]
      exact hplace
    · rw [hstart]
      dsimp only
      rw [List.getElem?_append_left (List.getElem?_eq_some_iff.mp hplace).1]
      exact hplace
  rw [Bool.eq_iff_iff, isCancelled_on hnext, isCancelled_on hplace]

/-- Closing its document cancels a signal. -/
theorem Holds.isCancelled_forget_self (hholds : table.Holds uri signal) :
    signal.isCancelled (table.forget uri) = true := by
  obtain ⟨place, generation, counter, rfl, hplace, huri, -⟩ := hholds
  have hnext : (table.forget uri).counters[place]? = some (counter.close uri) := by
    rw [counters_forget, hplace]
    rfl
  rw [isCancelled_on hnext]
  right
  simp [Counter.close, huri]

/-- Closing another document does not matter to a signal. -/
theorem Holds.isCancelled_forget_of_ne (hholds : table.Holds uri signal) {other : Url}
    (hne : other ≠ uri) : signal.isCancelled (table.forget other) = signal.isCancelled table := by
  obtain ⟨place, generation, counter, rfl, hplace, huri, -⟩ := hholds
  have hnext : (table.forget other).counters[place]? = some counter := by
    rw [counters_forget, hplace]
    simp [Counter.close, huri, hne.symm]
  rw [Bool.eq_iff_iff, isCancelled_on hnext, isCancelled_on hplace]

end Supersession

/-- One who waits for the cancellation goes on exactly when the request is cancelled. -/
theorem CancelSignal.isReady_eq_isCancelled (signal : CancelSignal) (table : Supersession) :
    signal.isReady table = signal.isCancelled table := by
  cases signal with
  | never => rfl
  | on place generation =>
    unfold isReady wakeup isCancelled
    dsimp only
    cases hplace : table.counters[place]? with
    | none => rfl
    | some counter =>
      dsimp only
      by_cases hmoved : counter.generation = generation
      · cases huse : counter.inUse <;> simp [hmoved]
      · simp [hmoved]

end FluentAssist
