import FluentAssist.Proofs.Resolution.Eviction
import FluentAssist.Proofs.Resolution.Memory

/-!
# No class is asked for twice

Lookups run one after another on one memory. Each brings its own service, which answers as it likes,
so the analysis may change its mind between two lookups, fail, or be gone. The service of a lookup
is watched: `Notes` has what it was asked, and whether a question failed or the request was found
cancelled.

A lookup that does not remember its class and finds the analysis available ends in one of two ways
(`outcome_settled`): it remembers the class that it gives, or it was superseded or met a failure. It
inserts no class but its own, and only if that was not there. Between two lookups of one call the
class therefore goes the way of every entry of a bounded cache, `BoundedCache.Stands`, and
`resolved_class_not_asked_twice` follows.
-/

set_option autoImplicit false

namespace FluentAssist

/-- The hover texts that a lookup may still ask for. -/
def LookupProgress.hoverQuestions : LookupProgress → Nat
  | .finished _ => 0
  | .asking _ _ _ later => later.length + 1
  | .tracing _ _ => 0

namespace Resolver

variable {σ : Type}

/-! ## Watched lookups -/

/-- What is seen of a lookup from outside. -/
structure Notes where
  /-- The hover texts that were asked for. -/
  hovers : List (Url × Position) := []
  /-- The definitions of types that were asked for. -/
  definitions : List (Url × Position) := []
  /-- Whether a question was not answered. -/
  failed : Bool := false
  /-- Whether the request was found cancelled. -/
  superseded : Bool := false

namespace Notes

/-- What is noted when a hover text was asked for. -/
def hear (notes : Notes) (uri : Url) (position : Position) (answer : HoverAnswer) : Notes :=
  { notes with
    hovers := notes.hovers ++ [(uri, position)]
    failed := notes.failed || answer = .failed }

/-- What is noted when the definition of a type was asked for. -/
def trace (notes : Notes) (uri : Url) (position : Position) : Notes :=
  { notes with definitions := notes.definitions ++ [(uri, position)] }

/-- What is noted when the request was looked at. -/
def look (notes : Notes) (cancelled : Bool) : Notes :=
  { notes with superseded := notes.superseded || cancelled }

/-- What is noted stays noted. -/
structure Grows (notes noted : Notes) : Prop where
  failed : notes.failed = true → noted.failed = true
  superseded : notes.superseded = true → noted.superseded = true

/-- Looking at a request keeps what is noted. -/
theorem grows_look (notes : Notes) (cancelled : Bool) : notes.Grows (notes.look cancelled) := by
  refine ⟨id, ?_⟩
  intro hold
  rw [look, hold, Bool.true_or]

/-- Asking for the definition of a type keeps what is noted. -/
theorem grows_trace (notes : Notes) (uri : Url) (position : Position) :
    notes.Grows (notes.trace uri position) := ⟨id, id⟩

/-- Hearing an answer keeps what is noted. -/
theorem grows_hear (notes : Notes) (uri : Url) (position : Position) (answer : HoverAnswer) :
    notes.Grows (notes.hear uri position answer) := by
  refine ⟨?_, id⟩
  intro hold
  rw [hear, hold, Bool.true_or]

/-- What stays noted stays noted later. -/
theorem Grows.trans {first second third : Notes} (h : first.Grows second)
    (hlater : second.Grows third) : first.Grows third :=
  ⟨hlater.failed ∘ h.failed, hlater.superseded ∘ h.superseded⟩

end Notes

/-- A service that notes down what it is asked and what it answers. -/
def Service.noted (service : Service (StateM σ)) : Service (StateM (σ × Notes)) where
  hover uri position := fun before =>
    let heard := (service.hover uri position).run before.1
    (heard.1, heard.2, before.2.hear uri position heard.1)
  typeDefinition uri position := fun before =>
    let heard := (service.typeDefinition uri position).run before.1
    (heard.1, heard.2, before.2.trace uri position)
  cancelled := fun before =>
    let heard := service.cancelled.run before.1
    (heard.1, heard.2, before.2.look heard.1)

/-- The end of a lookup: the memory that it leaves, its result and what was seen of it. -/
structure Outcome where
  memory : Resolver
  className : Option String
  notes : Notes

/-- Runs a lookup to its end against a watched service. -/
def outcome (settings : Settings) (service : Service (StateM σ)) (memory : Resolver)
    (progress : LookupProgress) (state : σ) (notes : Notes) : Outcome :=
  let ended := (drive settings service.noted memory progress).run (state, notes)
  ⟨ended.1.1, ended.1.2, ended.2.2⟩

/-- A lookup with all that it meets. -/
structure Inquiry (σ : Type) where
  request : LookupRequest
  /-- Whether the analysis is available when the lookup starts. -/
  available : Bool
  /-- Whether the request is cancelled when the lookup starts. -/
  cancelled : Bool
  service : Service (StateM σ)
  /-- The state in which the lookup finds the service. -/
  state : σ

namespace Inquiry

/-- Makes a lookup. -/
def run (settings : Settings) (inquiry : Inquiry σ) (memory : Resolver) : Outcome :=
  let first := lookup settings inquiry.available inquiry.cancelled memory inquiry.request
  outcome settings inquiry.service first.1 first.2 inquiry.state
    { superseded := inquiry.cancelled }

/-- A lookup finds the analysis available. It looks only if it does not remember the class. -/
def FindsAvailable (inquiry : Inquiry σ) (memory : Resolver) : Prop :=
  memory.classes.get? inquiry.request.classKey = none ∧ inquiry.available = true

end Inquiry

/-- The memory after lookups that were made one after another. -/
def afterAll (settings : Settings) (memory : Resolver) (inquiries : List (Inquiry σ)) : Resolver :=
  inquiries.foldl (fun memory inquiry => (inquiry.run settings memory).memory) memory

/-- The calls whose classes were inserted by lookups: they are remembered after a lookup and were
not before. -/
def insertedCalls (settings : Settings) : Resolver → List (Inquiry σ) → Finset ClassKey
  | _, [] => ∅
  | memory, inquiry :: later =>
    let next := (inquiry.run settings memory).memory
    (next.classes.present \ memory.classes.present) ∪ insertedCalls settings next later

variable {settings : Settings} {service : Service (StateM σ)} {memory : Resolver}
variable {request : LookupRequest} {failed : Bool} {state : σ} {notes : Notes}

/-- A lookup that has finished gives its class. -/
theorem outcome_finished (className : Option String) :
    outcome settings service memory (.finished className) state notes =
      ⟨memory, className, notes⟩ := by
  unfold outcome
  rw [drive]
  rfl

/-- A lookup that asks for a hover text goes on with some answer, cancelled by then or not. -/
theorem outcome_asking (settings : Settings) (service : Service (StateM σ)) (memory : Resolver)
    (request : LookupRequest) (failed : Bool) (stage : Lookup.Stage) (later : List Lookup.Stage)
    (state : σ) (notes : Notes) :
    ∃ answer cancelled rest,
      let next := receive settings cancelled memory (.asking request failed stage later) answer
      outcome settings service memory (.asking request failed stage later) state notes =
        outcome settings service next.1 next.2 rest
          ((notes.hear request.document.uri (request.position stage) answer).look cancelled) := by
  let heard := (service.hover request.document.uri (request.position stage)).run state
  let found := service.cancelled.run heard.2
  refine ⟨heard.1, found.1, found.2, ?_⟩
  unfold outcome
  rw [drive]
  rfl

/-- A lookup that asks for the definition of a type ends with any answer. -/
theorem outcome_tracing (settings : Settings) (service : Service (StateM σ)) (memory : Resolver)
    (request : LookupRequest) (failed : Bool) (state : σ) (notes : Notes) :
    ∃ cancelled rest,
      let next := receive settings cancelled memory (.tracing request failed) (.known none)
      outcome settings service memory (.tracing request failed) state notes =
        outcome settings service next.1 next.2 rest
          ((notes.trace request.document.uri request.definitionPosition).look cancelled) := by
  let heard := (service.typeDefinition request.document.uri request.definitionPosition).run state
  let found := service.cancelled.run heard.2
  refine ⟨found.1, found.2, ?_⟩
  unfold outcome
  rw [drive]
  rfl

/-! ## How a lookup ends -/

/-- A lookup waits for an answer. `failed` tells whether an earlier question was not answered. -/
inductive Waits (request : LookupRequest) (failed : Bool) : LookupProgress → Prop
  | asking (stage : Lookup.Stage) (later : List Lookup.Stage) :
      Waits request failed (.asking request failed stage later)
  | tracing : Waits request failed (.tracing request failed)

/-- Going through questions ends at one that has to be asked, where a cancelled lookup stops, or
with a conclusion. -/
theorem pursue_cases (settings : Settings) (cancelled : Bool) (memory : Resolver)
    (request : LookupRequest) (failed : Bool) (stages : List Lookup.Stage) :
    let next := pursue settings cancelled memory request failed stages
    (next.1 = memory ∧ Waits request failed next.2 ∧ next.2.hoverQuestions ≤ stages.length) ∨
    (cancelled = true ∧ next = (memory, .finished none)) ∨
    (∃ name, next = conclude settings memory request failed name) := by
  induction stages with
  | nil =>
    unfold pursue
    by_cases htraces : settings.traces = true
    · rw [if_pos htraces]
      cases cancelled with
      | true => exact Or.inr (Or.inl ⟨rfl, rfl⟩)
      | false => exact Or.inl ⟨rfl, .tracing, Nat.le_refl 0⟩
    · rw [if_neg htraces]
      exact Or.inr (Or.inr ⟨none, rfl⟩)
  | cons stage later ih =>
    unfold pursue
    cases hget : memory.hovers.get? (request.hoverKey stage) with
    | none =>
      cases cancelled with
      | true => exact Or.inr (Or.inl ⟨rfl, rfl⟩)
      | false => exact Or.inl ⟨rfl, .asking stage later, Nat.le_refl _⟩
    | some body =>
      dsimp only
      cases hname : body.bind stage.extract? with
      | some name => exact Or.inr (Or.inr ⟨some name, rfl⟩)
      | none =>
        refine ih.imp_left ?_
        rintro ⟨hmemory, hwaits, hquestions⟩
        exact ⟨hmemory, hwaits, Nat.le_succ_of_le hquestions⟩

/-- With an answer that comes in time, a lookup goes on from classes as they were. It has failed if
it had before or the answer says so. -/
theorem receive_asking_cases (settings : Settings) (memory : Resolver) (request : LookupRequest)
    (failed : Bool) (stage : Lookup.Stage) (later : List Lookup.Stage) (answer : HoverAnswer) :
    let next := receive settings false memory (.asking request failed stage later) answer
    let fails := failed || decide (answer = .failed)
    ∃ kept : Resolver, kept.classes = memory.classes ∧
      ((next.1 = kept ∧ Waits request fails next.2 ∧ next.2.hoverQuestions ≤ later.length) ∨
        ∃ name, next = conclude settings kept request fails name) := by
  have hpursue : ∀ (kept : Resolver) (fails : Bool),
      let next := pursue settings false kept request fails later
      (next.1 = kept ∧ Waits request fails next.2 ∧ next.2.hoverQuestions ≤ later.length) ∨
        ∃ name, next = conclude settings kept request fails name := by
    intro kept fails
    rcases pursue_cases settings false kept request fails later with hgoes | ⟨hfalse, -⟩ | hends
    · exact Or.inl hgoes
    · cases hfalse
    · exact Or.inr hends
  cases answer with
  | failed =>
    refine ⟨memory, rfl, ?_⟩
    rw [decide_eq_true rfl, Bool.or_true]
    exact hpursue memory true
  | known body =>
    refine ⟨{ memory with hovers := memory.hovers.put (request.hoverKey stage) body }, rfl, ?_⟩
    have hanswered : decide (HoverAnswer.known body = .failed) = false := by simp
    rw [hanswered, Bool.or_false]
    dsimp only [receive]
    rw [if_neg Bool.false_ne_true]
    cases body.bind stage.extract? with
    | some name => exact Or.inr ⟨some name, rfl⟩
    | none => exact hpursue _ failed

/-- How a lookup ends that waits, after it has made some notes: it remembers the class that it
gives, or it has failed or was superseded and leaves the classes alone. What is noted stays noted,
and at most `questions` hover texts are asked for. -/
structure Settled (memory : Resolver) (key : ClassKey) (failed : Bool) (notes : Notes)
    (questions : Nat) (ended : Outcome) : Prop where
  classes : ended.memory.classes = memory.classes.put key ended.className ∨
    ended.memory.classes = memory.classes ∧
      (failed = true ∨ ended.notes.failed = true ∨ ended.notes.superseded = true)
  grows : notes.Grows ended.notes
  hovers_le : ended.notes.hovers.length ≤ notes.hovers.length + questions

/-- A lookup that is concluded asks nothing and remembers its class, unless it has failed. -/
theorem settled_conclude (settings : Settings) (memory : Resolver) (request : LookupRequest)
    (failed : Bool) (name : Option Text) (service : Service (StateM σ)) (state : σ)
    (notes : Notes) :
    Settled memory request.classKey failed notes 0
      (outcome settings service (conclude settings memory request failed name).1
        (conclude settings memory request failed name).2 state notes) := by
  have hfinished : (conclude settings memory request failed name).2 =
      .finished (name.map (ClassName.component settings.classMap)) := rfl
  rw [hfinished, outcome_finished]
  refine ⟨?_, ⟨id, id⟩, Nat.le_refl _⟩
  cases failed with
  | true => exact Or.inr ⟨rfl, Or.inl rfl⟩
  | false => exact Or.inl rfl

/-- A superseded lookup asks nothing and leaves the classes alone. -/
theorem settled_superseded (settings : Settings) (memory : Resolver) (key : ClassKey)
    (failed : Bool) (service : Service (StateM σ)) (state : σ) {notes : Notes}
    (hnotes : notes.superseded = true) :
    Settled memory key failed notes 0
      (outcome settings service memory (.finished none) state notes) := by
  rw [outcome_finished]
  exact ⟨Or.inr ⟨rfl, Or.inr (Or.inr hnotes)⟩, ⟨id, id⟩, Nat.le_refl _⟩

/-- A step before the rest of a lookup: the classes are the same, and what the step met is noted. -/
theorem Settled.after_step {kept : Resolver} {key : ClassKey} {fails : Bool} {noted : Notes}
    {questions more : Nat} {ended : Outcome} (h : Settled kept key fails noted questions ended)
    (hclasses : kept.classes = memory.classes)
    (hfails : fails = true → failed = true ∨ noted.failed = true) (hgrows : notes.Grows noted)
    (hhovers : noted.hovers.length + questions ≤ notes.hovers.length + more) :
    Settled memory key failed notes more ended := by
  refine ⟨?_, hgrows.trans h.grows, Nat.le_trans h.hovers_le hhovers⟩
  rcases h.classes with hput | ⟨hsame, hwhy⟩
  · left
    rw [hput, hclasses]
  · right
    refine ⟨hsame.trans hclasses, ?_⟩
    rcases hwhy with hflag | hlater
    · exact (hfails hflag).imp_right fun hnoted => Or.inl (h.grows.failed hnoted)
    · exact Or.inr hlater

/-- Every lookup that waits ends so, whatever the service answers. -/
theorem outcome_settled {progress : LookupProgress} (hwaits : Waits request failed progress) :
    Settled memory request.classKey failed notes progress.hoverQuestions
      (outcome settings service memory progress state notes) := by
  -- By the number of answers that the lookup may still wait for.
  induction hcount : progress.openQuestions using Nat.strong_induction_on
    generalizing memory progress failed state notes with
  | _ count ih =>
    subst hcount
    cases hwaits with
    | tracing =>
      obtain ⟨cancelled, rest, hstep⟩ :=
        outcome_tracing settings service memory request failed state notes
      rw [hstep]
      generalize hnoted : (notes.trace request.document.uri
        request.definitionPosition).look cancelled = noted
      have hgrows : notes.Grows noted := by
        rw [← hnoted]
        exact (notes.grows_trace _ _).trans (Notes.grows_look _ _)
      have hhovers : noted.hovers = notes.hovers := by
        rw [← hnoted]
        rfl
      cases cancelled with
      | true =>
        have hsuperseded : noted.superseded = true := by
          rw [← hnoted]
          exact Bool.or_true _
        have hended := settled_superseded settings memory request.classKey failed service rest
          hsuperseded
        exact hended.after_step rfl Or.inl hgrows (by rw [hhovers]; exact Nat.le_refl _)
      | false =>
        have hended := settled_conclude settings memory request failed none service rest noted
        exact hended.after_step rfl Or.inl hgrows (by rw [hhovers]; exact Nat.le_refl _)
    | asking stage later =>
      obtain ⟨answer, cancelled, rest, hstep⟩ :=
        outcome_asking settings service memory request failed stage later state notes
      rw [hstep]
      generalize hnoted : (notes.hear request.document.uri (request.position stage)
        answer).look cancelled = noted
      have hgrows : notes.Grows noted := by
        rw [← hnoted]
        exact (notes.grows_hear _ _ _).trans (Notes.grows_look _ _)
      have hhovers : ∀ questions ≤ later.length,
          noted.hovers.length + questions ≤ notes.hovers.length + (later.length + 1) := by
        intro questions hle
        have hlength : noted.hovers.length = notes.hovers.length + 1 := by
          rw [← hnoted]
          exact List.length_append
        omega
      cases cancelled with
      | true =>
        have hsuperseded : noted.superseded = true := by
          rw [← hnoted]
          exact Bool.or_true _
        have hended := settled_superseded settings memory request.classKey failed service rest
          hsuperseded
        exact hended.after_step rfl Or.inl hgrows (hhovers 0 (Nat.zero_le _))
      | false =>
        have hless := openQuestions_receive_lt settings false memory
          (.asking request failed stage later) answer (Nat.succ_pos _)
        have hfails : (failed || decide (answer = .failed)) = true →
            failed = true ∨ noted.failed = true := by
          intro hold
          rw [Bool.or_eq_true] at hold
          refine hold.imp_right fun hanswer => ?_
          rw [← hnoted]
          exact (congrArg (notes.failed || ·) hanswer).trans (Bool.or_true _)
        obtain ⟨kept, hclasses, ⟨hmemory, hnext, hquestions⟩ | ⟨name, hends⟩⟩ :=
          receive_asking_cases settings memory request failed stage later answer
        · rw [← hmemory] at hclasses
          exact (ih _ hless hnext rfl).after_step hclasses hfails hgrows (hhovers _ hquestions)
        · have hended := settled_conclude settings kept request
            (failed || decide (answer = .failed)) name service rest noted
          rw [← hends] at hended
          exact hended.after_step hclasses hfails hgrows (hhovers 0 (Nat.zero_le _))

/-! ## Lookups one after another -/

section Inquiries

variable {inquiry : Inquiry σ} {key : ClassKey} {className : Option String}

/-- A lookup of a remembered class gives it and asks nothing. -/
theorem Inquiry.run_of_remembered
    (hget : memory.classes.get? inquiry.request.classKey = some className) :
    inquiry.run settings memory = ⟨memory, className, { superseded := inquiry.cancelled }⟩ := by
  unfold Inquiry.run lookup
  rw [hget]
  exact outcome_finished className

/-- Without the analysis a class that is not remembered is not found, and nothing is asked. -/
theorem Inquiry.run_of_unavailable (hget : memory.classes.get? inquiry.request.classKey = none)
    (havailable : inquiry.available = false) :
    inquiry.run settings memory = ⟨memory, none, { superseded := inquiry.cancelled }⟩ := by
  unfold Inquiry.run lookup
  rw [hget, havailable]
  exact outcome_finished none

/-- A lookup that finds the analysis available remembers the class that it gives, unless it is
superseded or meets a failure. -/
theorem Inquiry.run_of_findsAvailable (settings : Settings)
    (h : inquiry.FindsAvailable memory) :
    Settled memory inquiry.request.classKey false { superseded := inquiry.cancelled } 3
      (inquiry.run settings memory) := by
  have hstages := length_stages_le inquiry.request.kind
  unfold Inquiry.run lookup
  rw [h.1, h.2]
  simp only [if_true]
  rcases pursue_cases settings inquiry.cancelled memory inquiry.request false
    (Lookup.stages inquiry.request.kind) with ⟨hmemory, hwaits, hquestions⟩ | ⟨hcancelled, hends⟩ |
    ⟨name, hends⟩
  · rw [hmemory]
    refine (outcome_settled hwaits).after_step rfl Or.inl ⟨id, id⟩ ?_
    omega
  · rw [hends]
    refine (settled_superseded settings memory _ false _ _ hcancelled).after_step rfl Or.inl
      ⟨id, id⟩ ?_
    omega
  · rw [hends]
    refine (settled_conclude settings memory _ false name _ _ _).after_step rfl Or.inl ⟨id, id⟩ ?_
    omega

/-- What a lookup does to the classes: nothing, or it inserts its own, which was not there. -/
theorem Inquiry.classes_run (settings : Settings) (inquiry : Inquiry σ) (memory : Resolver) :
    (inquiry.run settings memory).memory.classes = memory.classes ∨
      memory.classes.get? inquiry.request.classKey = none ∧ ∃ className,
        (inquiry.run settings memory).memory.classes =
          memory.classes.put inquiry.request.classKey className := by
  cases hget : memory.classes.get? inquiry.request.classKey with
  | some className =>
    left
    rw [Inquiry.run_of_remembered hget]
  | none =>
    cases havailable : inquiry.available with
    | true =>
      have hsettled := Inquiry.run_of_findsAvailable settings ⟨hget, havailable⟩
      rcases hsettled.classes with hput | ⟨hsame, -⟩
      · exact Or.inr ⟨rfl, _, hput⟩
      · exact Or.inl hsame
    | false =>
      left
      rw [Inquiry.run_of_unavailable hget havailable]

/-- No inquiry asks for more than three hover texts. -/
theorem Inquiry.length_hovers_run_le (settings : Settings) (inquiry : Inquiry σ)
    (memory : Resolver) : (inquiry.run settings memory).notes.hovers.length ≤ 3 := by
  cases hget : memory.classes.get? inquiry.request.classKey with
  | some className =>
    rw [Inquiry.run_of_remembered hget]
    exact Nat.zero_le 3
  | none =>
    cases havailable : inquiry.available with
    | true =>
      exact (Inquiry.run_of_findsAvailable settings ⟨hget, havailable⟩).hovers_le
    | false =>
      rw [Inquiry.run_of_unavailable hget havailable]
      exact Nat.zero_le 3

/-- A remembered class stays through a lookup, as long as there is room for it and the class that
the lookup inserts. -/
theorem stands_run {newer : Finset ClassKey} (h : memory.classes.Stands key className newer)
    (settings : Settings) (inquiry : Inquiry σ) :
    let next := (inquiry.run settings memory).memory
    let inserted := (next.classes.present \ memory.classes.present).erase key
    next.classes.limit = memory.classes.limit ∧
      ((newer ∪ inserted).card < memory.classes.limit →
        ∃ newer' ⊆ newer ∪ inserted, next.classes.Stands key className newer') := by
  intro next inserted
  rcases inquiry.classes_run settings memory with hsame | ⟨hmissing, added, hput⟩
  · refine ⟨congrArg BoundedCache.limit hsame, ?_⟩
    intro hroom
    refine ⟨newer, Finset.subset_union_left, ?_⟩
    show (inquiry.run settings memory).memory.classes.Stands key className newer
    rw [hsame]
    exact h
  · refine ⟨(congrArg BoundedCache.limit hput).trans (BoundedCache.limit_put _ _ _), ?_⟩
    intro hroom
    -- The inserted class is another one, because this one is remembered.
    have hne : inquiry.request.classKey ≠ key := by
      intro hsame
      rw [hsame, h.get?_eq] at hmissing
      cases hmissing
    have hinserted : inquiry.request.classKey ∈ inserted := by
      rw [Finset.mem_erase, Finset.mem_sdiff, BoundedCache.mem_present_iff,
        BoundedCache.mem_present_iff, hput, BoundedCache.get?_put_self, hmissing]
      exact ⟨hne, rfl, Bool.false_ne_true⟩
    have hsubset : newer ∪ {inquiry.request.classKey} ⊆ newer ∪ inserted :=
      Finset.union_subset_union_right (Finset.singleton_subset_iff.2 hinserted)
    refine ⟨newer ∪ {inquiry.request.classKey}, hsubset, ?_⟩
    show (inquiry.run settings memory).memory.classes.Stands key className _
    rw [hput]
    exact h.put hne (Nat.lt_of_le_of_lt (Finset.card_le_card hsubset) hroom) added

/-- A remembered class stays through lookups, as long as there is room for it and the classes that
they insert. -/
theorem get?_afterAll {newer : Finset ClassKey} {inquiries : List (Inquiry σ)}
    (h : memory.classes.Stands key className newer)
    (hroom : (newer ∪ (insertedCalls settings memory inquiries).erase key).card <
      memory.classes.limit) :
    (afterAll settings memory inquiries).classes.get? key = some className := by
  induction inquiries generalizing memory newer with
  | nil => exact h.get?_eq
  | cons inquiry later ih =>
    obtain ⟨hlimit, hstep⟩ := stands_run h settings inquiry
    rw [insertedCalls, Finset.erase_union_distrib, ← Finset.union_assoc] at hroom
    have hfirst := Nat.lt_of_le_of_lt (Finset.card_le_card Finset.subset_union_left) hroom
    obtain ⟨newer', hsubset, hnext⟩ := hstep hfirst
    refine ih hnext ?_
    rw [hlimit]
    exact Nat.lt_of_le_of_lt (Finset.card_le_card (Finset.union_subset_union_left hsubset)) hroom

end Inquiries

/-- **A resolved class is not asked for twice.** Lookups are made one after another, on whatever
memory there is, and each meets its own service. Take a lookup that finds the analysis available, is
not superseded and meets no failure, and a later one of the same call, for any text: the version of
the document, the kind and the offset are the same. If fewer classes of other calls than there is
room for were inserted between the two, the later lookup gives the same class, or the same absence
of one, and asks nothing, also if the analysis is gone by then or would answer differently. No
lookup asks for more than three hover texts. -/
theorem resolved_class_not_asked_twice (settings : Settings) (memory : Resolver)
    (first : Inquiry σ) (between : List (Inquiry σ)) (later : Inquiry σ) :
    let resolved := first.run settings memory
    let again := later.run settings (afterAll settings resolved.memory between)
    (first.FindsAvailable memory → resolved.notes.superseded = false →
      resolved.notes.failed = false → later.request.classKey = first.request.classKey →
      ((insertedCalls settings resolved.memory between).erase first.request.classKey).card <
        max memory.classes.capacity 1 →
      again.className = resolved.className ∧ again.notes.hovers = [] ∧
        again.notes.definitions = []) ∧
    resolved.notes.hovers.length ≤ 3 := by
  intro resolved again
  refine ⟨?_, first.length_hovers_run_le settings memory⟩
  intro havailable hsuperseded hfailed hsame hroom
  have hput : resolved.memory.classes =
      memory.classes.put first.request.classKey resolved.className := by
    have hsettled := Inquiry.run_of_findsAvailable settings havailable
    rcases hsettled.classes with hput | ⟨-, hfalse | hwhy⟩
    · exact hput
    · cases hfalse
    · rw [hsuperseded, hfailed] at hwhy
      simp at hwhy
  have hstands : resolved.memory.classes.Stands first.request.classKey resolved.className ∅ := by
    rw [hput]
    exact BoundedCache.stands_put_self _ _ _
  have hlimit : resolved.memory.classes.limit = max memory.classes.capacity 1 := by
    rw [hput]
    exact BoundedCache.limit_put _ _ _
  have hget : (afterAll settings resolved.memory between).classes.get?
      later.request.classKey = some resolved.className := by
    rw [hsame]
    apply get?_afterAll hstands
    rw [Finset.empty_union, hlimit]
    exact hroom
  have hagain : again = ⟨_, resolved.className, { superseded := later.cancelled }⟩ :=
    Inquiry.run_of_remembered hget
  rw [hagain]
  exact ⟨rfl, rfl, rfl⟩

/-- A service that gives the same hover text everywhere, or has none. -/
def constantService (body : Option Text) : Service (StateM Unit) where
  hover _ _ := pure (.known body)
  typeDefinition _ _ := pure ()
  cancelled := pure false

/-- A lookup of a call in a script. -/
def scriptInquiry (kind : ContextKind) (offset : Nat) (body : Option Text) : Inquiry Unit where
  request := ⟨⟨{ scheme := "file".toList, path := .segments ["main.py".toList] }, 1,
    "b.props('')".toList⟩, kind, offset⟩
  available := true
  cancelled := false
  service := constantService body
  state := ()

/-- There is no class, after two questions. A class of another call is inserted, and then the
analysis knows more; but with room for two the absence is still remembered. -/
theorem resolved_class_not_asked_twice_absent :
    let first := scriptInquiry .props 1 none
    let between := [scriptInquiry .slots 1 none]
    let resolved := first.run {} (empty 2)
    let again := (scriptInquiry .props 1 (some "props: Props[Card]".toList)).run {}
      (afterAll {} resolved.memory between)
    resolved.className = none ∧ resolved.notes.hovers.length = 2 ∧
    (insertedCalls {} resolved.memory between).card = 1 ∧
    again.className = none ∧ again.notes.hovers = [] ∧ again.notes.definitions = [] := by
  intro first between resolved again
  obtain ⟨hagain, -⟩ := resolved_class_not_asked_twice {} (empty 2) first between
    (scriptInquiry .props 1 (some "props: Props[Card]".toList))
  have hsame := hagain ⟨rfl, rfl⟩ (by decide +kernel) (by decide +kernel) rfl (by decide +kernel)
  have hclass : resolved.className = none := by decide +kernel
  exact ⟨hclass, by decide +kernel, by decide +kernel, hsame.1.trans hclass, hsame.2⟩

/-- A lookup that remembers its class does not make it any newer: two other classes were inserted
after it, the second one after it was looked up again, and it is asked for once more. -/
example :
    let memory := afterAll {} (empty 2) [scriptInquiry .props 1 none, scriptInquiry .slots 1 none,
      scriptInquiry .props 1 none, scriptInquiry .methods 1 none]
    (scriptInquiry .props 1 none).FindsAvailable memory :=
  ⟨by decide +kernel, rfl⟩

end Resolver

end FluentAssist
