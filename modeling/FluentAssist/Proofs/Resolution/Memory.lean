import FluentAssist.Proofs.Resolution.Cache
import FluentAssist.Resolution.Resolver

/-!
# What a resolver may remember

A world fixes the text of every version of a document and the hover text at each of its positions.
Then every call has one class, the one that is found when nothing is remembered (`World.classOf`);
`classOf_eq_names` says at which places of a call it is asked for, and in which order.

A memory is faithful to a world when its hover texts are those of the world and its classes are
those that are found without it. It may be faithful in a scope only, about some versions of some
documents. Each step of a lookup, `Resolver.lookup` and `Resolver.receive`, keeps a memory faithful
and leaves the lookup sound: it is on the way to the class of its call, or it is excused because it
was cancelled, because a question was not answered, or because its document is out of the scope.

The argument rests on one fact about the questions still to be asked: as long as no question failed,
they give the same name as all questions together, since those before them gave none.
-/

set_option autoImplicit false

namespace FluentAssist

namespace Resolver

/-- The documents of a run and what the type analysis knows about them. Both are fixed by a document
and its version. -/
structure World where
  text : Url → Int → Text
  hover : Url → Int → Position → Option Text

namespace World

/-- The request that looks up the class of a call. -/
def request (world : World) (key : ClassKey) : LookupRequest :=
  ⟨⟨key.uri, key.version, world.text key.uri key.version⟩, key.kind, key.offset⟩

/-- The class of a call when nothing is remembered. -/
def classOf (world : World) (classMap : List (String × String)) (key : ClassKey) :
    Option String :=
  Lookup.uncached classMap (world.hover key.uri key.version) (world.text key.uri key.version)
    key.offset key.kind

/-- The hover text that answers a question about a call. -/
def body (world : World) (key : ClassKey) (stage : Lookup.Stage) : Option Text :=
  world.hover key.uri key.version ((world.request key).position stage)

/-- The class name that the first of some questions with a name gives. -/
def nameIn (world : World) (key : ClassKey) (stages : List Lookup.Stage) : Option Text :=
  stages.findSome? fun stage => (world.body key stage).bind stage.extract?

/-- What a lookup hears when it asks. It may be that the analysis fails to give a hover text; the
definition of a type is only noted, so there every answer is as good as another. -/
def answer (world : World) (fails : Bool) : LookupProgress → HoverAnswer
  | .asking request _ stage _ =>
    if fails then .failed
    else .known (world.hover request.document.uri request.document.version
      (request.position stage))
  | .tracing _ _ => .known none
  | .finished _ => .known none

/-- The class of a call is made of the first name that its questions give. -/
theorem classOf_eq_map_nameIn (world : World) (classMap : List (String × String))
    (key : ClassKey) :
    world.classOf classMap key =
      (world.nameIn key (Lookup.stages key.kind)).map (ClassName.component classMap) := rfl

/-- The name that a pattern finds in the hover text some characters away from the start of a
call. -/
def nameNear (world : World) (key : ClassKey) (characters : Int) (pattern : Text → Option Text) :
    Option Text :=
  let text := world.text key.uri key.version
  let position := Text.positionAt text (Text.shiftChars text key.offset characters)
  (world.hover key.uri key.version position).bind pattern

/-- The name that the method of a call gives, one character behind the start of the call. Calls of
three kinds have no method that tells a class. -/
def nameOnMethod (world : World) (key : ClassKey) : Option Text :=
  match key.kind with
  | .classes => world.nameNear key 1 Pattern.accessorOwner?
  | .props => world.nameNear key 1 Pattern.accessorOwner?
  | .style => world.nameNear key 1 Pattern.accessorOwner?
  | .events => world.nameNear key 1 Pattern.eventOwner?
  | .methods => none
  | .slots => none
  | .icons => none

/-- The rule without memory, written out: the name comes from the method of the call, else from one
character before the start of the call, else from three characters before it. -/
theorem classOf_eq_names (world : World) (classMap : List (String × String)) (key : ClassKey) :
    world.classOf classMap key =
      ((world.nameOnMethod key).or
        ((world.nameNear key (-1) Pattern.variableType?).or
          (world.nameNear key (-3) Pattern.declaredClass?))).map
        (ClassName.component classMap) := by
  have hquestion (stage : Lookup.Stage) : (world.body key stage).bind stage.extract? =
      world.nameNear key stage.shift stage.extract? := rfl
  have hbehind : world.nameIn key [.receiver, .declaration] =
      (world.nameNear key (-1) Pattern.variableType?).or
        (world.nameNear key (-3) Pattern.declaredClass?) := by
    unfold nameIn
    rw [List.findSome?_cons, hquestion, List.findSome?_cons, hquestion]
    simp only [Lookup.Stage.shift, Lookup.Stage.extract?, List.findSome?_nil]
    cases world.nameNear key (-1) Pattern.variableType? <;>
      cases world.nameNear key (-3) Pattern.declaredClass? <;> rfl
  have hmethod : (Lookup.methodStage? key.kind).bind
      (fun stage => (world.body key stage).bind stage.extract?) = world.nameOnMethod key := by
    unfold nameOnMethod
    cases key.kind <;> rfl
  rw [classOf_eq_map_nameIn, ← hbehind, ← hmethod]
  unfold nameIn Lookup.stages
  rw [List.findSome?_append]
  cases Lookup.methodStage? key.kind <;> simp

/-- A question without a name leaves it to the later ones. -/
theorem nameIn_cons_of_eq_none {world : World} {key : ClassKey} {stage : Lookup.Stage}
    (later : List Lookup.Stage) (hnone : (world.body key stage).bind stage.extract? = none) :
    world.nameIn key (stage :: later) = world.nameIn key later := by
  unfold nameIn
  rw [List.findSome?_cons, hnone]

/-- The first question with a name decides. -/
theorem nameIn_cons_of_eq_some {world : World} {key : ClassKey} {stage : Lookup.Stage}
    (later : List Lookup.Stage) {name : Text}
    (hname : (world.body key stage).bind stage.extract? = some name) :
    world.nameIn key (stage :: later) = some name := by
  unfold nameIn
  rw [List.findSome?_cons, hname]

end World

/-- A memory that holds nothing, about the versions of documents in a scope, but what is so in a
world. -/
structure Faithful (world : World) (scope : Url → Int → Prop) (classMap : List (String × String))
    (memory : Resolver) : Prop where
  hovers : ∀ entry ∈ memory.hovers.entries, scope entry.1.uri entry.1.version →
    entry.2 = world.hover entry.1.uri entry.1.version entry.1.position
  classes : ∀ entry ∈ memory.classes.entries, scope entry.1.uri entry.1.version →
    entry.2 = world.classOf classMap entry.1

/-- The questions still to be asked give the name that all questions of the call give. -/
def Undecided (world : World) (key : ClassKey) (stages : List Lookup.Stage) : Prop :=
  world.nameIn key stages = world.nameIn key (Lookup.stages key.kind)

/-- A call is in a scope if the version of its document is. -/
def InScope (scope : Url → Int → Prop) (key : ClassKey) : Prop := scope key.uri key.version

/-- A lookup of a call stands right: it has found the class of the call or is on the way to it,
unless it is excused. A lookup in which a question failed is excused. -/
def Sound (world : World) (scope : Url → Int → Prop) (classMap : List (String × String))
    (key : ClassKey) (excused : Prop) : LookupProgress → Prop
  | .finished className => excused ∨ className = world.classOf classMap key
  | .asking request failed stage later =>
    request = world.request key ∧
      (if failed then excused else InScope scope key → Undecided world key (stage :: later))
  | .tracing request failed =>
    request = world.request key ∧
      (if failed then excused else InScope scope key → Undecided world key [])

variable {world : World} {scope : Url → Int → Prop} {settings : Settings} {memory : Resolver}
variable {key : ClassKey}

/-- A memory is faithful to every world that is the same in the scope. -/
theorem Faithful.congr {world' : World} {classMap : List (String × String)}
    (hmemory : Faithful world scope classMap memory)
    (htext : ∀ uri version, scope uri version → world.text uri version = world'.text uri version)
    (hhover : ∀ uri version, scope uri version →
      world.hover uri version = world'.hover uri version) :
    Faithful world' scope classMap memory := by
  constructor
  · intro entry hmem hscope
    rw [hmemory.hovers entry hmem hscope, hhover _ _ hscope]
  · intro entry hmem hscope
    rw [hmemory.classes entry hmem hscope]
    unfold World.classOf
    rw [htext _ _ hscope, hhover _ _ hscope]

/-- A lookup that stands right does so with a weaker excuse. -/
theorem Sound.mono {classMap : List (String × String)} {excused excused' : Prop}
    {progress : LookupProgress} (hsound : Sound world scope classMap key excused progress)
    (himp : excused → excused') : Sound world scope classMap key excused' progress := by
  cases progress with
  | finished className => exact hsound.imp himp id
  | asking request failed stage later =>
    refine ⟨hsound.1, ?_⟩
    have hrest := hsound.2
    cases failed with
    | true => exact himp hrest
    | false => exact hrest
  | tracing request failed =>
    refine ⟨hsound.1, ?_⟩
    have hrest := hsound.2
    cases failed with
    | true => exact himp hrest
    | false => exact hrest

/-- A remembered hover text answers the question that it is remembered for. -/
theorem Faithful.body_eq {classMap : List (String × String)}
    (hmemory : Faithful world scope classMap memory) (hscope : InScope scope key)
    {stage : Lookup.Stage} {found : Option Text}
    (hget : memory.hovers.get? ((world.request key).hoverKey stage) = some found) :
    found = world.body key stage :=
  hmemory.hovers _ (BoundedCache.mem_entries_of_get? hget) hscope

/-- A remembered class is the class of its call. -/
theorem Faithful.class_eq {classMap : List (String × String)}
    (hmemory : Faithful world scope classMap memory) (hscope : InScope scope key)
    {found : Option String} (hget : memory.classes.get? key = some found) :
    found = world.classOf classMap key :=
  hmemory.classes _ (BoundedCache.mem_entries_of_get? hget) hscope

/-- Remembering the hover text of a question keeps a memory faithful. -/
theorem Faithful.putHover {classMap : List (String × String)}
    (hmemory : Faithful world scope classMap memory) (key : ClassKey) (stage : Lookup.Stage) :
    Faithful world scope classMap
      { memory with
        hovers := memory.hovers.put ((world.request key).hoverKey stage) (world.body key stage) } :=
  ⟨BoundedCache.forall_entries_put hmemory.hovers (fun _ => rfl), hmemory.classes⟩

/-- Remembering the class of a call keeps a memory faithful. -/
theorem Faithful.putClass {classMap : List (String × String)}
    (hmemory : Faithful world scope classMap memory) {found : Option String}
    (hfound : InScope scope key → found = world.classOf classMap key) :
    Faithful world scope classMap { memory with classes := memory.classes.put key found } :=
  ⟨hmemory.hovers, BoundedCache.forall_entries_put hmemory.classes hfound⟩

/-! ## The steps of a lookup -/

/-- The end of a lookup whose name, if no question failed, is the one that all questions give. -/
theorem conclude_sound (key : ClassKey) (hmemory : Faithful world scope settings.classMap memory)
    (failed : Bool) (name : Option Text)
    (hname : failed = false → InScope scope key →
      name = world.nameIn key (Lookup.stages key.kind)) :
    Faithful world scope settings.classMap
        (conclude settings memory (world.request key) failed name).1 ∧
      Sound world scope settings.classMap key (failed = true ∨ ¬ InScope scope key)
        (conclude settings memory (world.request key) failed name).2 := by
  cases failed with
  | true => exact ⟨hmemory, Or.inl (Or.inl rfl)⟩
  | false =>
    have hclass : InScope scope key → name.map (ClassName.component settings.classMap) =
        world.classOf settings.classMap key := by
      intro hscope
      rw [World.classOf_eq_map_nameIn, hname rfl hscope]
    refine ⟨hmemory.putClass hclass, ?_⟩
    by_cases hscope : InScope scope key
    · exact Or.inr (hclass hscope)
    · exact Or.inl (Or.inr hscope)

/-- Going through questions that give the name of all questions, unless one failed before. -/
theorem pursue_sound (key : ClassKey) (hmemory : Faithful world scope settings.classMap memory)
    (cancelled failed : Bool) (stages : List Lookup.Stage)
    (hrest : failed = false → InScope scope key → Undecided world key stages) :
    Faithful world scope settings.classMap
        (pursue settings cancelled memory (world.request key) failed stages).1 ∧
      Sound world scope settings.classMap key
        (cancelled = true ∨ failed = true ∨ ¬ InScope scope key)
        (pursue settings cancelled memory (world.request key) failed stages).2 := by
  induction stages with
  | nil =>
    unfold pursue
    by_cases htraces : settings.traces = true
    · rw [if_pos htraces]
      refine ⟨hmemory, ?_⟩
      cases cancelled with
      | true => exact Or.inl (Or.inl rfl)
      | false =>
        refine ⟨rfl, ?_⟩
        cases failed with
        | true => exact Or.inr (Or.inl rfl)
        | false => exact hrest rfl
    · rw [if_neg htraces]
      obtain ⟨hfaithful, hsound⟩ := conclude_sound key hmemory failed none hrest
      exact ⟨hfaithful, hsound.mono Or.inr⟩
  | cons stage later ih =>
    unfold pursue
    cases hget : memory.hovers.get? ((world.request key).hoverKey stage) with
    | none =>
      refine ⟨hmemory, ?_⟩
      cases cancelled with
      | true => exact Or.inl (Or.inl rfl)
      | false =>
        refine ⟨rfl, ?_⟩
        cases failed with
        | true => exact Or.inr (Or.inl rfl)
        | false => exact hrest rfl
    | some found =>
      dsimp only
      cases hname : found.bind stage.extract? with
      | none =>
        -- Remembered, and no name in it: the question counts as asked.
        apply ih
        intro hfailed hscope
        rw [hmemory.body_eq hscope hget] at hname
        exact (World.nameIn_cons_of_eq_none later hname).symm.trans (hrest hfailed hscope)
      | some name =>
        have hall : failed = false → InScope scope key →
            some name = world.nameIn key (Lookup.stages key.kind) := by
          intro hfailed hscope
          rw [hmemory.body_eq hscope hget] at hname
          exact (World.nameIn_cons_of_eq_some later hname).symm.trans (hrest hfailed hscope)
        obtain ⟨hfaithful, hsound⟩ := conclude_sound key hmemory failed (some name) hall
        exact ⟨hfaithful, hsound.mono Or.inr⟩

/-- The start of a lookup. It is excused if it is cancelled, or if it needs the analysis and finds
it unavailable. -/
theorem lookup_sound (key : ClassKey) (hmemory : Faithful world scope settings.classMap memory)
    (available cancelled : Bool) :
    Faithful world scope settings.classMap
        (lookup settings available cancelled memory (world.request key)).1 ∧
      Sound world scope settings.classMap key
        (cancelled = true ∨ (memory.classes.get? key = none ∧ available = false) ∨
          ¬ InScope scope key)
        (lookup settings available cancelled memory (world.request key)).2 := by
  unfold lookup
  have hkey : (world.request key).classKey = key := rfl
  rw [hkey]
  cases hget : memory.classes.get? key with
  | some found =>
    refine ⟨hmemory, ?_⟩
    by_cases hscope : InScope scope key
    · exact Or.inr (hmemory.class_eq hscope hget)
    · exact Or.inl (Or.inr (Or.inr hscope))
  | none =>
    cases available with
    | false => exact ⟨hmemory, Or.inl (Or.inr (Or.inl ⟨rfl, rfl⟩))⟩
    | true =>
      obtain ⟨hfaithful, hsound⟩ := pursue_sound key hmemory cancelled false
        (Lookup.stages key.kind) (fun _ _ => rfl)
      refine ⟨hfaithful, hsound.mono ?_⟩
      rintro (hcancelled | hfailed | hscope)
      · exact Or.inl hcancelled
      · cases hfailed
      · exact Or.inr (Or.inr hscope)

/-- Going on with the hover text that answers a question. The text is remembered first, and then
used like one that was remembered before. -/
theorem receive_known_sound (key : ClassKey)
    (hmemory : Faithful world scope settings.classMap memory)
    (failed : Bool) (stage : Lookup.Stage) (later : List Lookup.Stage)
    (hrest : failed = false → InScope scope key → Undecided world key (stage :: later)) :
    Faithful world scope settings.classMap
        (receive settings false memory (.asking (world.request key) failed stage later)
          (.known (world.body key stage))).1 ∧
      Sound world scope settings.classMap key (failed = true ∨ ¬ InScope scope key)
        (receive settings false memory (.asking (world.request key) failed stage later)
          (.known (world.body key stage))).2 := by
  have hremembered := hmemory.putHover key stage
  unfold receive
  simp only [Bool.false_eq_true, if_false]
  cases hname : (world.body key stage).bind stage.extract? with
  | some name =>
    apply conclude_sound key hremembered failed (some name)
    intro hfailed hscope
    exact (World.nameIn_cons_of_eq_some later hname).symm.trans (hrest hfailed hscope)
  | none =>
    have hlater : failed = false → InScope scope key → Undecided world key later := by
      intro hfailed hscope
      exact (World.nameIn_cons_of_eq_none later hname).symm.trans (hrest hfailed hscope)
    obtain ⟨hfaithful, hsound⟩ := pursue_sound key hremembered false failed later hlater
    refine ⟨hfaithful, hsound.mono ?_⟩
    rintro (hcancelled | hexcused)
    · cases hcancelled
    · exact hexcused

/-- The next step of a lookup that has its answer. -/
theorem receive_sound (hmemory : Faithful world scope settings.classMap memory) {excused : Prop}
    {progress : LookupProgress}
    (hsound : Sound world scope settings.classMap key excused progress)
    (cancelled fails : Bool) :
    Faithful world scope settings.classMap
        (receive settings cancelled memory progress (world.answer fails progress)).1 ∧
      Sound world scope settings.classMap key
        (excused ∨ cancelled = true ∨ world.answer fails progress = .failed ∨
          ¬ InScope scope key)
        (receive settings cancelled memory progress (world.answer fails progress)).2 := by
  cases progress with
  | finished className => exact ⟨hmemory, hsound.mono Or.inl⟩
  | tracing request failed =>
    obtain ⟨rfl, hrest⟩ := hsound
    cases cancelled with
    | true => exact ⟨hmemory, Or.inl (Or.inr (Or.inl rfl))⟩
    | false =>
      have hnone : failed = false → InScope scope key →
          none = world.nameIn key (Lookup.stages key.kind) := by
        intro hfailed
        subst hfailed
        exact hrest
      obtain ⟨hfaithful, hended⟩ := conclude_sound key hmemory failed none hnone
      refine ⟨hfaithful, hended.mono ?_⟩
      rintro (hfailed | hscope)
      · subst hfailed
        exact Or.inl hrest
      · exact Or.inr (Or.inr (Or.inr hscope))
  | asking request failed stage later =>
    obtain ⟨rfl, hrest⟩ := hsound
    cases cancelled with
    | true => exact ⟨hmemory, Or.inl (Or.inr (Or.inl rfl))⟩
    | false =>
      cases fails with
      | true =>
        -- From here on nothing is promised about the name, and nothing will be remembered.
        obtain ⟨hfaithful, hgoing⟩ := pursue_sound key hmemory false true later
          (fun hfailed => by cases hfailed)
        exact ⟨hfaithful, hgoing.mono fun _ => Or.inr (Or.inr (Or.inl rfl))⟩
      | false =>
        have hundecided : failed = false → InScope scope key →
            Undecided world key (stage :: later) := by
          intro hfailed
          subst hfailed
          exact hrest
        obtain ⟨hfaithful, hgoing⟩ :=
          receive_known_sound key hmemory failed stage later hundecided
        refine ⟨hfaithful, hgoing.mono ?_⟩
        rintro (hfailed | hscope)
        · subst hfailed
          exact Or.inl hrest
        · exact Or.inr (Or.inr (Or.inr hscope))

/-! ## How long a lookup takes -/

/-- The most answers that a lookup waits for. -/
def mostAnswers : Nat := 4

/-- No call has more than three questions. -/
theorem length_stages_le (kind : ContextKind) : (Lookup.stages kind).length ≤ 3 := by
  cases kind <;> decide

/-- A lookup that starts waits for no more answers than the questions that it has, and one more. -/
theorem openQuestions_lookup_le (settings : Settings) (available cancelled : Bool)
    (memory : Resolver) (request : LookupRequest) :
    (lookup settings available cancelled memory request).2.openQuestions ≤ mostAnswers := by
  unfold lookup
  cases memory.classes.get? request.classKey with
  | some className => exact Nat.zero_le _
  | none =>
    cases available with
    | false => exact Nat.zero_le _
    | true =>
      have hpursue := openQuestions_pursue_le settings cancelled memory request false
        (Lookup.stages request.kind)
      have hstages := length_stages_le request.kind
      simp only [if_true, mostAnswers]
      omega

/-! ## What a lookup leaves behind -/

/-- A lookup in which no question failed remembers its class. -/
theorem get?_conclude (settings : Settings) (memory : Resolver) (request : LookupRequest)
    (name : Option Text) :
    (conclude settings memory request false name).1.classes.get? request.classKey =
      some (name.map (ClassName.component settings.classMap)) :=
  BoundedCache.get?_put_self _ _ _

/-- Questions that were all answered from memory leave the class behind. -/
theorem get?_of_pursue_finished (request : LookupRequest) (stages : List Lookup.Stage)
    {className : Option String}
    (hended : (pursue settings false memory request false stages).2 = .finished className) :
    (pursue settings false memory request false stages).1.classes.get? request.classKey =
      some className := by
  induction stages with
  | nil =>
    unfold pursue at hended ⊢
    by_cases htraces : settings.traces = true
    · rw [if_pos htraces] at hended
      cases hended
    · rw [if_neg htraces] at hended ⊢
      cases hended
      exact get?_conclude _ _ _ _
  | cons stage later ih =>
    unfold pursue at hended ⊢
    cases hget : memory.hovers.get? (request.hoverKey stage) with
    | none =>
      rw [hget] at hended
      cases hended
    | some found =>
      rw [hget] at hended
      dsimp only at hended ⊢
      cases hname : found.bind stage.extract? with
      | none =>
        rw [hname] at hended
        exact ih hended
      | some name =>
        rw [hname] at hended
        cases hended
        exact get?_conclude _ _ _ _

/-- A lookup that ends at its start leaves the class behind. -/
theorem get?_of_lookup_finished {request : LookupRequest} {className : Option String}
    (hended : (lookup settings true false memory request).2 = .finished className) :
    (lookup settings true false memory request).1.classes.get? request.classKey =
      some className := by
  unfold lookup at hended ⊢
  cases hget : memory.classes.get? request.classKey with
  | some found =>
    rw [hget] at hended
    cases hended
    exact hget
  | none =>
    rw [hget] at hended
    exact get?_of_pursue_finished request _ hended

/-- A lookup that ends with an answer leaves the class behind, if it waited for the answer and no
question failed. -/
theorem get?_of_receive_finished {excused : Prop} {progress : LookupProgress}
    (hsound : Sound world scope settings.classMap key excused progress) (hexcused : ¬ excused)
    (hopen : 0 < progress.openQuestions) {className : Option String}
    (hended : (receive settings false memory progress (world.answer false progress)).2 =
      .finished className) :
    (receive settings false memory progress (world.answer false progress)).1.classes.get? key =
      some className := by
  cases progress with
  | finished found => simp [LookupProgress.openQuestions] at hopen
  | tracing request failed =>
    obtain ⟨rfl, hrest⟩ := hsound
    cases failed with
    | true => exact absurd hrest hexcused
    | false =>
      cases hended
      exact get?_conclude settings memory (world.request key) none
  | asking request failed stage later =>
    obtain ⟨rfl, hrest⟩ := hsound
    cases failed with
    | true => exact absurd hrest hexcused
    | false =>
      unfold receive World.answer at hended ⊢
      simp only [Bool.false_eq_true, if_false] at hended ⊢
      split at hended
      · cases hended
        exact get?_conclude settings _ (world.request key) _
      · exact get?_of_pursue_finished (world.request key) later hended

end Resolver

end FluentAssist
