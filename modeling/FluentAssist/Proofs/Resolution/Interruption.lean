import FluentAssist.Proofs.Resolution.Cache
import FluentAssist.Proofs.Resolution.Supersession
import FluentAssist.Resolution.Resolver

/-!
# Lookups that are interrupted

One lookup is observed from its start. Between its steps the other lookups do to the memory whatever
they like, requests start and documents are closed, and the answer to each of its questions is
arbitrary. Each step is noted down with the memory that it found and the one that it left, so what
the lookup did itself is told apart from what the others did.

A lookup that would still ask something has left no class behind, and no hover text but the answers
to its own questions (`Observed.Tame`). So when its request is cancelled there, nothing has to be
taken back, and the step that notices the cancellation leaves the memory as it found it
(`Observed.Lost`). Together they give `interrupted_lookup_leaves_nothing_stale`.
-/

set_option autoImplicit false

namespace FluentAssist

namespace LookupProgress

/-- Whether a lookup waits for a hover text. -/
def asksHover : LookupProgress → Bool
  | .asking _ _ _ _ => true
  | _ => false

/-- A lookup asks only what its request is about. -/
def On (request : LookupRequest) : LookupProgress → Prop
  | .finished _ => True
  | .asking asked _ _ _ => asked = request
  | .tracing asked _ => asked = request

/-- A lookup that asks for a hover text has an open question. -/
theorem openQuestions_pos_of_asksHover {progress : LookupProgress}
    (hasks : progress.asksHover = true) : 0 < progress.openQuestions := by
  cases progress with
  | finished className => cases hasks
  | asking request failed stage later => exact Nat.succ_pos _
  | tracing request failed => cases hasks

end LookupProgress

namespace Resolver

variable {settings : Settings} {memory : Resolver} {request : LookupRequest} {failed : Bool}
variable {progress : LookupProgress} {answer : HoverAnswer}

/-! ## Steps of a lookup that go on or are cut short -/

/-- A lookup that is concluded has no open question. -/
theorem openQuestions_conclude (settings : Settings) (memory : Resolver)
    (request : LookupRequest) (failed : Bool) (name : Option Text) :
    (conclude settings memory request failed name).2.openQuestions = 0 := rfl

/-- Going through questions up to one that has to be asked leaves the memory as it is. A lookup that
is cancelled by then ends there. -/
theorem pursue_of_open (stages : List Lookup.Stage)
    (hopen : 0 < (pursue settings false memory request failed stages).2.openQuestions) :
    (pursue settings false memory request failed stages).1 = memory ∧
      (pursue settings false memory request failed stages).2.On request ∧
      pursue settings true memory request failed stages = (memory, .finished none) := by
  induction stages with
  | nil =>
    unfold pursue at hopen ⊢
    by_cases htraces : settings.traces = true
    · rw [if_pos htraces]
      exact ⟨rfl, rfl, by rw [if_pos htraces]; rfl⟩
    · rw [if_neg htraces, openQuestions_conclude] at hopen
      cases hopen
  | cons stage later ih =>
    unfold pursue at hopen ⊢
    cases hget : memory.hovers.get? (request.hoverKey stage) with
    | none => exact ⟨rfl, rfl, rfl⟩
    | some body =>
      rw [hget] at hopen
      dsimp only at hopen ⊢
      cases hname : body.bind stage.extract? with
      | some name =>
        rw [hname, openQuestions_conclude] at hopen
        cases hopen
      | none =>
        rw [hname] at hopen
        exact ih hopen

/-- A cancelled lookup asks nothing. -/
theorem openQuestions_pursue_cancelled (settings : Settings) (memory : Resolver)
    (request : LookupRequest) (failed : Bool) (stages : List Lookup.Stage) :
    (pursue settings true memory request failed stages).2.openQuestions = 0 := by
  induction stages with
  | nil =>
    unfold pursue
    split <;> rfl
  | cons stage later ih =>
    unfold pursue
    split
    · split
      · rfl
      · exact ih
    · rfl

/-- A lookup whose request is cancelled has no open question. -/
theorem openQuestions_lookup_cancelled (settings : Settings) (available : Bool)
    (memory : Resolver) (request : LookupRequest) :
    (lookup settings available true memory request).2.openQuestions = 0 := by
  unfold lookup
  split
  · rfl
  · split
    · exact openQuestions_pursue_cancelled _ _ _ _ _
    · rfl

/-- A lookup that would ask something at its start leaves the memory as it is. If it is cancelled,
it ends without a class. -/
theorem lookup_of_open (available : Bool)
    (hopen : 0 < (lookup settings available false memory request).2.openQuestions) :
    (lookup settings available false memory request).1 = memory ∧
      (lookup settings available false memory request).2.On request ∧
      lookup settings available true memory request = (memory, .finished none) := by
  unfold lookup at hopen ⊢
  cases hget : memory.classes.get? request.classKey with
  | some className =>
    rw [hget] at hopen
    cases hopen
  | none =>
    rw [hget] at hopen
    cases available with
    | false => cases hopen
    | true => exact pursue_of_open (Lookup.stages request.kind) hopen

/-- A lookup that is cancelled while it waits ends without a class, and its answer is dropped. -/
theorem receive_cancelled (hopen : 0 < progress.openQuestions) :
    receive settings true memory progress answer = (memory, .finished none) := by
  cases progress with
  | finished className => cases hopen
  | asking request failed stage later => rfl
  | tracing request failed => rfl

/-- What a lookup that goes on asking leaves behind: nothing, or the answer that it got. -/
theorem receive_of_open (hon : progress.On request)
    (hopen : 0 < (receive settings false memory progress answer).2.openQuestions) :
    (receive settings false memory progress answer).2.On request ∧
      ((receive settings false memory progress answer).1 = memory ∨
        ∃ failed stage later body, progress = .asking request failed stage later ∧
          answer = .known body ∧
          (receive settings false memory progress answer).1 =
            { memory with hovers := memory.hovers.put (request.hoverKey stage) body }) := by
  cases progress with
  | finished className => cases hopen
  | tracing asked failed => cases hopen
  | asking asked failed stage later =>
    cases hon
    unfold receive at hopen ⊢
    simp only [Bool.false_eq_true, if_false] at hopen ⊢
    cases answer with
    | failed =>
      obtain ⟨hmemory, hasks, -⟩ := pursue_of_open later hopen
      exact ⟨hasks, Or.inl hmemory⟩
    | known body =>
      dsimp only at hopen ⊢
      cases hname : body.bind stage.extract? with
      | some name =>
        rw [hname, openQuestions_conclude] at hopen
        cases hopen
      | none =>
        rw [hname] at hopen
        obtain ⟨hmemory, hasks, -⟩ := pursue_of_open later hopen
        exact ⟨hasks, Or.inr ⟨failed, stage, later, body, rfl, rfl, hmemory⟩⟩

/-! ## A lookup among others -/

/-- A step that a lookup has taken. -/
structure Footprint where
  /-- The memory that the step found. -/
  before : Resolver
  /-- The memory that the step left. -/
  after : Resolver
  /-- What the lookup waited for and the answer that came; nothing at the start of the lookup. -/
  heard : Option (LookupProgress × HoverAnswer)
  /-- Whether the request was cancelled by then. -/
  cancelled : Bool

/-- A step added no class, and no hover text but the answer to a question that the lookup had asked
and that was not cancelled by then. -/
def Footprint.Tame (request : LookupRequest) (print : Footprint) : Prop :=
  print.after.classes = print.before.classes ∧
  (print.after.hovers = print.before.hovers ∨
    print.cancelled = false ∧ ∃ failed stage later body,
      print.heard = some (.asking request failed stage later, .known body) ∧
      print.after.hovers = print.before.hovers.put (request.hoverKey stage) body)

/-- A memory is its hover texts and its classes. -/
theorem eq_of_parts {other : Resolver} (hhovers : memory.hovers = other.hovers)
    (hclasses : memory.classes = other.classes) : memory = other := by
  obtain ⟨hovers, classes⟩ := memory
  cases hhovers
  cases hclasses
  rfl

/-- A lookup, with what it shares with the others and the steps that it has taken. -/
structure Observed where
  memory : Resolver
  requests : Supersession
  progress : LookupProgress
  prints : List Footprint

/-- What may happen next. -/
inductive ObservedEvent
  /-- Other lookups leave some memory. -/
  | others (memory : Resolver)
  | begins (uri : Url)
  | closes (uri : Url)
  /-- The lookup goes on: an answer has come, or it was woken by the cancellation. -/
  | resumes (answer : HoverAnswer)

namespace Observed

/-- A lookup starts under a signal. -/
def start (settings : Settings) (signal : CancelSignal) (available : Bool) (memory : Resolver)
    (requests : Supersession) (request : LookupRequest) : Observed :=
  let cancelled := signal.isCancelled requests
  let next := lookup settings available cancelled memory request
  ⟨next.1, requests, next.2, [⟨memory, next.1, none, cancelled⟩]⟩

/-- Goes on with the lookup. One that has ended stays as it is. -/
def resume (settings : Settings) (signal : CancelSignal) (observed : Observed)
    (answer : HoverAnswer) : Observed :=
  if observed.progress.openQuestions = 0 then observed
  else
    let cancelled := signal.isCancelled observed.requests
    let next := receive settings cancelled observed.memory observed.progress answer
    { observed with
      memory := next.1
      progress := next.2
      prints := observed.prints ++
        [⟨observed.memory, next.1, some (observed.progress, answer), cancelled⟩] }

/-- Lets an event happen. -/
def step (settings : Settings) (signal : CancelSignal) (observed : Observed) :
    ObservedEvent → Observed
  | .others memory => { observed with memory := memory }
  | .begins uri => { observed with requests := (observed.requests.start uri).1 }
  | .closes uri => { observed with requests := observed.requests.forget uri }
  | .resumes answer => observed.resume settings signal answer

/-- Lets events happen one after another. -/
def run (settings : Settings) (signal : CancelSignal) (observed : Observed)
    (events : List ObservedEvent) : Observed :=
  events.foldl (step settings signal) observed

/-- Events one after another are two runs one after the other. -/
theorem run_append (settings : Settings) (signal : CancelSignal) (observed : Observed)
    (earlier later : List ObservedEvent) :
    observed.run settings signal (earlier ++ later) =
      (observed.run settings signal earlier).run settings signal later :=
  List.foldl_append

/-- The request of a lookup is cancelled where the lookup would ask for a hover text, at its start
or while it waits for one. -/
def Interrupted (settings : Settings) (signal : CancelSignal) (available : Bool)
    (memory : Resolver) (requests : Supersession) (request : LookupRequest)
    (events : List ObservedEvent) : Prop :=
  (signal.isCancelled requests = true ∧
    (lookup settings available false memory request).2.asksHover = true) ∨
  ∃ earlier later, events = earlier ++ later ∧
    let observed := (start settings signal available memory requests request).run settings signal
      earlier
    observed.progress.asksHover = true ∧ signal.isCancelled observed.requests = true

/-- The signal was handed out, and as long as the lookup asks something its steps are tame. -/
structure Tame (request : LookupRequest) (uri : Url) (signal : CancelSignal)
    (observed : Observed) : Prop where
  holds : observed.requests.Holds uri signal
  on : 0 < observed.progress.openQuestions → observed.progress.On request
  prints : 0 < observed.progress.openQuestions → ∀ print ∈ observed.prints, print.Tame request

/-- The request is cancelled, all steps were tame, and the lookup has no class and will find
none. -/
structure Lost (request : LookupRequest) (uri : Url) (signal : CancelSignal)
    (observed : Observed) : Prop where
  holds : observed.requests.Holds uri signal
  cancelled : signal.isCancelled observed.requests = true
  prints : ∀ print ∈ observed.prints, print.Tame request
  ended : 0 < observed.progress.openQuestions ∨ observed.progress = .finished none

variable {signal : CancelSignal} {uri : Url} {requests : Supersession} {available : Bool}
variable {observed : Observed}

/-- A step that leaves the memory as it found it is tame. -/
theorem tame_unchanged (heard : Option (LookupProgress × HoverAnswer)) (cancelled : Bool) :
    (Footprint.mk memory memory heard cancelled).Tame request :=
  ⟨rfl, Or.inl rfl⟩

/-- The start of a lookup is tame. -/
theorem start_tame (hholds : requests.Holds uri signal) :
    (start settings signal available memory requests request).Tame request uri signal := by
  unfold start
  cases hcancelled : signal.isCancelled requests with
  | false =>
    refine ⟨hholds, fun hopen => (lookup_of_open available hopen).2.1, ?_⟩
    intro hopen print hmem
    rw [List.mem_singleton] at hmem
    rw [hmem, (lookup_of_open available hopen).1]
    exact tame_unchanged none false
  | true =>
    have hended := openQuestions_lookup_cancelled settings available memory request
    refine ⟨hholds, ?_, ?_⟩
    · intro hopen
      exact absurd hended (Nat.ne_of_gt hopen)
    · intro hopen
      exact absurd hended (Nat.ne_of_gt hopen)

/-- A lookup that is cancelled at its start, where it would ask something, is lost. -/
theorem start_lost (hholds : requests.Holds uri signal)
    (hcancelled : signal.isCancelled requests = true)
    (hopen : 0 < (lookup settings available false memory request).2.openQuestions) :
    (start settings signal available memory requests request).Lost request uri signal := by
  unfold start
  dsimp only
  rw [hcancelled, (lookup_of_open available hopen).2.2]
  refine ⟨hholds, hcancelled, ?_, Or.inr rfl⟩
  intro print hmem
  rw [List.mem_singleton] at hmem
  rw [hmem]
  exact tame_unchanged none true

/-- A lookup that is cancelled while it waits is lost. -/
theorem Tame.lost (htame : observed.Tame request uri signal)
    (hopen : 0 < observed.progress.openQuestions)
    (hcancelled : signal.isCancelled observed.requests = true) :
    observed.Lost request uri signal :=
  ⟨htame.holds, hcancelled, htame.prints hopen, Or.inl hopen⟩

/-- Going on with an answer, the lookup is tame as long as it asks. -/
theorem Tame.resume (htame : observed.Tame request uri signal) (settings : Settings)
    (answer : HoverAnswer) : (observed.resume settings signal answer).Tame request uri signal := by
  unfold Observed.resume
  by_cases hended : observed.progress.openQuestions = 0
  · rw [if_pos hended]
    exact htame
  · have hopen := Nat.pos_of_ne_zero hended
    rw [if_neg hended]
    cases hcancelled : signal.isCancelled observed.requests with
    | true =>
      dsimp only
      rw [receive_cancelled hopen]
      exact ⟨htame.holds, fun hnext => absurd hnext (Nat.lt_irrefl 0),
        fun hnext => absurd hnext (Nat.lt_irrefl 0)⟩
    | false =>
      refine ⟨htame.holds, fun hnext => (receive_of_open (htame.on hopen) hnext).1, ?_⟩
      intro hnext print hmem
      rcases List.mem_append.mp hmem with hold | hnew
      · exact htame.prints hopen print hold
      · rw [List.mem_singleton] at hnew
        subst hnew
        rcases (receive_of_open (htame.on hopen) hnext).2 with
          hsame | ⟨failed, stage, later, body, hasking, hknown, hput⟩
        · rw [hsame]
          exact tame_unchanged _ _
        · dsimp only [Footprint.Tame]
          rw [hput, hasking, hknown]
          exact ⟨rfl, Or.inr ⟨rfl, failed, stage, later, body, rfl, rfl⟩⟩

/-- Going on with an answer, a lost lookup ends without a class and drops the answer. -/
theorem Lost.resume (hlost : observed.Lost request uri signal) (settings : Settings)
    (answer : HoverAnswer) :
    (observed.resume settings signal answer).Lost request uri signal ∧
      (observed.resume settings signal answer).progress = .finished none ∧
      (observed.resume settings signal answer).memory = observed.memory := by
  unfold Observed.resume
  rcases hlost.ended with hopen | hended
  · rw [if_neg (Nat.ne_of_gt hopen), hlost.cancelled]
    dsimp only
    rw [receive_cancelled hopen]
    refine ⟨⟨hlost.holds, hlost.cancelled, ?_, Or.inr rfl⟩, rfl, rfl⟩
    intro print hmem
    rcases List.mem_append.mp hmem with hold | hnew
    · exact hlost.prints print hold
    · rw [List.mem_singleton] at hnew
      rw [hnew]
      exact tame_unchanged _ _
  · rw [if_pos (by rw [hended]; rfl)]
    exact ⟨hlost, hended, rfl⟩

/-- What happens next leaves a lookup tame as long as it asks something. -/
theorem Tame.step (htame : observed.Tame request uri signal) (settings : Settings)
    (event : ObservedEvent) : (observed.step settings signal event).Tame request uri signal := by
  cases event with
  | others memory => exact ⟨htame.holds, htame.on, htame.prints⟩
  | begins other =>
    exact ⟨htame.holds.mono (Supersession.advances_start _ other), htame.on, htame.prints⟩
  | closes other =>
    exact ⟨htame.holds.mono (Supersession.advances_forget _ other), htame.on, htame.prints⟩
  | resumes answer => exact htame.resume settings answer

/-- A lookup without a class that is cancelled finds none, whatever happens next. -/
theorem Lost.step (hlost : observed.Lost request uri signal) (settings : Settings)
    (event : ObservedEvent) : (observed.step settings signal event).Lost request uri signal := by
  have hadvance : ∀ {next : Supersession}, observed.requests.Advances next →
      Lost request uri signal { observed with requests := next } := fun hadvances =>
    ⟨hlost.holds.mono hadvances, hlost.holds.isCancelled_mono hadvances hlost.cancelled,
      hlost.prints, hlost.ended⟩
  cases event with
  | others memory => exact ⟨hlost.holds, hlost.cancelled, hlost.prints, hlost.ended⟩
  | begins other => exact hadvance (Supersession.advances_start _ other)
  | closes other => exact hadvance (Supersession.advances_forget _ other)
  | resumes answer => exact (hlost.resume settings answer).1

/-- A run leaves a lookup tame as long as it asks something. -/
theorem Tame.run (htame : observed.Tame request uri signal) (settings : Settings)
    (events : List ObservedEvent) :
    (observed.run settings signal events).Tame request uri signal := by
  induction events generalizing observed with
  | nil => exact htame
  | cons event later ih => exact ih (htame.step settings event)

/-- A lookup without a class that is cancelled finds none in any run. -/
theorem Lost.run (hlost : observed.Lost request uri signal) (settings : Settings)
    (events : List ObservedEvent) :
    (observed.run settings signal events).Lost request uri signal := by
  induction events generalizing observed with
  | nil => exact hlost
  | cons event later ih => exact ih (hlost.step settings event)

/-- An interrupted lookup is lost. -/
theorem Interrupted.lost {events : List ObservedEvent} (hholds : requests.Holds uri signal)
    (hinterrupted : Interrupted settings signal available memory requests request events) :
    ((start settings signal available memory requests request).run settings signal events).Lost
      request uri signal := by
  rcases hinterrupted with ⟨hcancelled, hasks⟩ | ⟨earlier, later, rfl, hasks, hcancelled⟩
  · have hopen := LookupProgress.openQuestions_pos_of_asksHover hasks
    exact (start_lost hholds hcancelled hopen).run settings events
  · have hopen := LookupProgress.openQuestions_pos_of_asksHover hasks
    rw [run_append]
    exact (((start_tame hholds).run settings earlier).lost hopen hcancelled).run settings later

/-- The steps that were taken stay. -/
theorem mem_prints_run (settings : Settings) (signal : CancelSignal) (observed : Observed)
    (events : List ObservedEvent) {print : Footprint} (hmem : print ∈ observed.prints) :
    print ∈ (observed.run settings signal events).prints := by
  induction events generalizing observed with
  | nil => exact hmem
  | cons event later ih =>
    apply ih
    cases event with
    | others memory => exact hmem
    | begins uri => exact hmem
    | closes uri => exact hmem
    | resumes answer =>
      dsimp only [step, resume]
      split
      · exact hmem
      · exact List.mem_append_left _ hmem

/-- Without the others, tame steps leave the classes as they were. -/
theorem classes_run (settings : Settings) (signal : CancelSignal) (observed : Observed)
    (events : List ObservedEvent) (halone : ∀ memory, ObservedEvent.others memory ∉ events)
    (hprints : ∀ print ∈ (observed.run settings signal events).prints, print.Tame request) :
    (observed.run settings signal events).memory.classes = observed.memory.classes := by
  induction events generalizing observed with
  | nil => rfl
  | cons event later ih =>
    have hlater := ih (observed.step settings signal event)
      (fun memory hmem => halone memory (List.mem_cons_of_mem _ hmem)) hprints
    have hstep : (observed.step settings signal event).memory.classes =
        observed.memory.classes := by
      cases event with
      | others memory => exact absurd List.mem_cons_self (halone memory)
      | begins uri => rfl
      | closes uri => rfl
      | resumes answer =>
        by_cases hended : observed.progress.openQuestions = 0
        · simp only [step, resume, if_pos hended]
        · -- The step has left a print, and that is tame.
          let next := receive settings (signal.isCancelled observed.requests) observed.memory
            observed.progress answer
          have hmem : (⟨observed.memory, next.1, some (observed.progress, answer),
              signal.isCancelled observed.requests⟩ : Footprint) ∈
              (observed.step settings signal (.resumes answer)).prints := by
            simp only [step, resume, if_neg hended]
            exact List.mem_append_right _ List.mem_cons_self
          have htame := hprints _ (mem_prints_run settings signal _ later hmem)
          simp only [step, resume, if_neg hended]
          exact htame.1
    exact hlater.trans hstep

/-- **Cancellation leaves no stale result.** A lookup starts from any memory, under a signal that
was handed out, and the others do what they like in between. If its request is cancelled where it
would ask for a hover text or while it waits for one, then it ends without a class, at its next step
if it has not ended yet. Each of its steps left the classes alone and added no hover text but the
answer to its own question, and only if the request was not cancelled by then; so the answer that
came too late is not kept. If nothing else ran, the classes are those that it found. -/
theorem interrupted_lookup_leaves_nothing_stale (settings : Settings) (signal : CancelSignal)
    (uri : Url) (available : Bool) (memory : Resolver) (requests : Supersession)
    (hholds : requests.Holds uri signal) (request : LookupRequest)
    (events : List ObservedEvent)
    (hinterrupted : Interrupted settings signal available memory requests request events) :
    let last := (start settings signal available memory requests request).run settings signal
      events
    (∀ className, last.progress = .finished className → className = none) ∧
    (∀ answer, (last.step settings signal (.resumes answer)).progress = .finished none ∧
      (last.step settings signal (.resumes answer)).memory = last.memory) ∧
    (∀ print ∈ last.prints, print.Tame request) ∧
    (∀ print ∈ last.prints, print.cancelled = true → print.after = print.before) ∧
    ((∀ memory, ObservedEvent.others memory ∉ events) →
      last.memory.classes = memory.classes) := by
  intro last
  have hlost : last.Lost request uri signal := hinterrupted.lost hholds
  refine ⟨?_, fun answer => (hlost.resume settings answer).2, hlost.prints, ?_, ?_⟩
  · intro className hfinished
    rcases hlost.ended with hopen | hended
    · rw [hfinished] at hopen
      cases hopen
    · exact LookupProgress.finished.inj (hfinished.symm.trans hended)
  · intro print hmem hcancelled
    obtain ⟨hclasses, hsame | ⟨hlive, -⟩⟩ := hlost.prints print hmem
    · exact eq_of_parts hsame hclasses
    · rw [hlive] at hcancelled
      cases hcancelled
  · intro halone
    have hfirst := hlost.prints _ (mem_prints_run settings signal
      (start settings signal available memory requests request) events List.mem_cons_self)
    exact (classes_run settings signal _ events halone hlost.prints).trans hfirst.1

/-- A script with a call in it. -/
def button : LookupRequest where
  document := ⟨{ scheme := "file".toList, path := .segments ["main.py".toList] }, 1,
    "b.props('')".toList⟩
  kind := .props
  offset := 1

/-- The first question is answered without a name and the answer is kept. Then another request
starts, and the name that comes as the second answer is dropped. -/
theorem interrupted_lookup_leaves_nothing_stale_second :
    let uri := button.document.uri
    let requests : Supersession := ⟨[⟨uri, 1, true⟩]⟩
    let events : List ObservedEvent := [.resumes (.known none), .begins uri]
    let last := (start {} (.on 0 1) true (empty 8) requests button).run {} (.on 0 1) events
    let answer : HoverAnswer := .known (some "(variable) b: Button".toList)
    last.memory.hovers.entries = [(button.hoverKey .accessor, none)] ∧
    last.progress.asksHover = true ∧
    (last.step {} (.on 0 1) (.resumes answer)).progress = .finished none ∧
    (last.step {} (.on 0 1) (.resumes answer)).memory = last.memory ∧
    last.memory.classes = (empty 8).classes := by
  intro uri requests events last answer
  have hholds : requests.Holds uri (.on 0 1) :=
    ⟨0, 1, ⟨uri, 1, true⟩, rfl, rfl, rfl, Nat.le_refl _⟩
  have hasks : last.progress.asksHover = true := by decide +kernel
  have hinterrupted : Interrupted {} (.on 0 1) true (empty 8) requests button events :=
    Or.inr ⟨events, [], rfl, hasks, by decide +kernel⟩
  obtain ⟨-, hnext, -, -, hclasses⟩ := interrupted_lookup_leaves_nothing_stale {} (.on 0 1) uri
    true (empty 8) requests hholds button events hinterrupted
  refine ⟨by decide +kernel, hasks, (hnext answer).1, (hnext answer).2, hclasses ?_⟩
  intro memory hmem
  simp [events] at hmem

end Observed

end Resolver

end FluentAssist
