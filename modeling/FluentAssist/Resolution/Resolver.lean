import FluentAssist.Resolution.Cache
import FluentAssist.Resolution.Lookup
import FluentAssist.Resolution.Supersession

/-!
# Lookups with memory

A resolver remembers hover texts and the classes of earlier lookups, for one version of a document
at a time. A lookup runs in steps, because the type analysis answers later: it goes on by itself
until it is done or waits for one answer. Between two steps other lookups may run on the same
memory, and the request may be cancelled.

- `Resolver.lookup` starts a lookup, `Resolver.receive` goes on with an answer.
- A cancelled lookup ends without a class and leaves nothing behind, not even the answer that came
  too late.
- A lookup in which the analysis failed to answer may end with a class but is not remembered.
- `Resolver.drive` runs one lookup to its end against a service.
-/

set_option autoImplicit false

namespace FluentAssist

/-- A place in one version of a document. -/
structure HoverKey where
  uri : Url
  version : Int
  position : Position
  deriving DecidableEq, Repr

/-- A call in one version of a document. -/
structure ClassKey where
  uri : Url
  version : Int
  kind : ContextKind
  offset : Nat
  deriving DecidableEq, Repr

/-- How the type analysis answers a question. -/
inductive HoverAnswer
  /-- There is a hover text, or there is none. -/
  | known (body : Option Text)
  /-- The analysis could not answer. -/
  | failed
  deriving DecidableEq, Repr

/-- What is looked up. -/
structure LookupRequest where
  document : Snapshot
  kind : ContextKind
  offset : Nat
  deriving DecidableEq, Repr

namespace LookupRequest

/-- The key under which the class is remembered. -/
def classKey (request : LookupRequest) : ClassKey :=
  ⟨request.document.uri, request.document.version, request.kind, request.offset⟩

/-- The position that a question is asked about. -/
def position (request : LookupRequest) (stage : Lookup.Stage) : Position :=
  Lookup.positionOf request.document.text request.offset stage

/-- The key under which the answer to a question is remembered. -/
def hoverKey (request : LookupRequest) (stage : Lookup.Stage) : HoverKey :=
  ⟨request.document.uri, request.document.version, request.position stage⟩

/-- The position that is asked for the definition of its type when no class was found. -/
def definitionPosition (request : LookupRequest) : Position :=
  Lookup.positionNear request.document.text request.offset (-1)

end LookupRequest

/-- How a lookup stands. -/
inductive LookupProgress
  | finished (className : Option String)
  /-- Waits for the hover text that a question asks for. `failed` tells whether an earlier
  question was not answered, and `later` are the questions still to come. -/
  | asking (request : LookupRequest) (failed : Bool) (stage : Lookup.Stage)
      (later : List Lookup.Stage)
  /-- No class was found; waits for the definition of the element's type, which is only noted. -/
  | tracing (request : LookupRequest) (failed : Bool)
  deriving DecidableEq, Repr

/-- The number of answers a lookup may still wait for. -/
def LookupProgress.openQuestions : LookupProgress → Nat
  | .finished _ => 0
  | .asking _ _ _ later => later.length + 2
  | .tracing _ _ => 1

/-- The settings of a resolver. -/
structure Resolver.Settings where
  classMap : List (String × String) := []
  /-- Whether an unsuccessful lookup also asks for the definition of the element's type. -/
  traces : Bool := false
  deriving Repr

/-- What a resolver remembers. -/
structure Resolver where
  hovers : BoundedCache HoverKey (Option Text)
  classes : BoundedCache ClassKey (Option String)

namespace Resolver

/-- The number of entries a cache holds unless configured otherwise. -/
def defaultCapacity : Nat := 512

/-- A resolver that remembers nothing yet. -/
def empty (capacity : Nat) : Resolver := ⟨⟨capacity, []⟩, ⟨capacity, []⟩⟩

/-- Ends a lookup and remembers its result, unless a question was not answered. -/
def conclude (settings : Settings) (memory : Resolver) (request : LookupRequest) (failed : Bool)
    (name : Option Text) : Resolver × LookupProgress :=
  let className := name.map (ClassName.component settings.classMap)
  (if failed then memory
    else { memory with classes := memory.classes.put request.classKey className },
    .finished className)

/-- Goes through the questions until one has to be asked. Remembered answers are used at once. A
cancelled lookup ends where it would ask. -/
def pursue (settings : Settings) (cancelled : Bool) (memory : Resolver) (request : LookupRequest)
    (failed : Bool) : List Lookup.Stage → Resolver × LookupProgress
  | [] =>
    if settings.traces then
      (memory, if cancelled then .finished none else .tracing request failed)
    else conclude settings memory request failed none
  | stage :: later =>
    match memory.hovers.get? (request.hoverKey stage) with
    | some body =>
      match body.bind stage.extract? with
      | some name => conclude settings memory request failed (some name)
      | none => pursue settings cancelled memory request failed later
    | none =>
      (memory, if cancelled then .finished none else .asking request failed stage later)

/-- Starts a lookup. A remembered class is the result; without one, and without a service that is
available, there is no class. -/
def lookup (settings : Settings) (available cancelled : Bool) (memory : Resolver)
    (request : LookupRequest) : Resolver × LookupProgress :=
  match memory.classes.get? request.classKey with
  | some className => (memory, .finished className)
  | none =>
    if available then
      pursue settings cancelled memory request false (Lookup.stages request.kind)
    else (memory, .finished none)

/-- Goes on with the answer to the question that a lookup waits for. -/
def receive (settings : Settings) (cancelled : Bool) (memory : Resolver)
    (progress : LookupProgress) (answer : HoverAnswer) : Resolver × LookupProgress :=
  match progress with
  | .finished className => (memory, .finished className)
  | .tracing request failed =>
    if cancelled then (memory, .finished none) else conclude settings memory request failed none
  | .asking request failed stage later =>
    if cancelled then (memory, .finished none)
    else
      match answer with
      | .failed => pursue settings cancelled memory request true later
      | .known body =>
        let remembered : Resolver :=
          { memory with hovers := memory.hovers.put (request.hoverKey stage) body }
        match body.bind stage.extract? with
        | some name => conclude settings remembered request failed (some name)
        | none => pursue settings cancelled remembered request failed later

/-- Going through questions leaves at most one answer to wait for per question, and one more for
the definition of the type. -/
theorem openQuestions_pursue_le (settings : Settings) (cancelled : Bool) (memory : Resolver)
    (request : LookupRequest) (failed : Bool) (stages : List Lookup.Stage) :
    (pursue settings cancelled memory request failed stages).2.openQuestions
      ≤ stages.length + 1 := by
  induction stages with
  | nil =>
    unfold pursue
    split
    · cases cancelled <;> simp [LookupProgress.openQuestions]
    · simp [conclude, LookupProgress.openQuestions]
  | cons stage later ih =>
    unfold pursue
    split
    · split
      · simp [conclude, LookupProgress.openQuestions]
      · exact Nat.le_succ_of_le ih
    · cases cancelled <;> simp [LookupProgress.openQuestions]

/-- Every answer brings a lookup nearer to its end. -/
theorem openQuestions_receive_lt (settings : Settings) (cancelled : Bool) (memory : Resolver)
    (progress : LookupProgress) (answer : HoverAnswer) (hopen : 0 < progress.openQuestions) :
    (receive settings cancelled memory progress answer).2.openQuestions
      < progress.openQuestions := by
  cases progress with
  | finished className => simp [LookupProgress.openQuestions] at hopen
  | tracing request failed =>
    unfold receive
    cases cancelled <;> simp [conclude, LookupProgress.openQuestions]
  | asking request failed stage later =>
    cases cancelled with
    | true => simp [receive, LookupProgress.openQuestions]
    | false =>
      cases answer with
      | failed =>
        have hle := openQuestions_pursue_le settings false memory request true later
        simp only [receive, LookupProgress.openQuestions]
        exact Nat.lt_succ_of_le hle
      | known body =>
        simp only [receive]
        split
        · simp_all
        · split
          · simp [conclude, LookupProgress.openQuestions]
          · exact Nat.lt_succ_of_le (openQuestions_pursue_le _ _ _ _ _ _)

/-- What a lookup asks of the world around it. -/
structure Service (m : Type → Type) where
  /-- The hover text at a position of a document. -/
  hover : Url → Position → m HoverAnswer
  /-- Asks for the definition of the type at a position; the answer is not used. -/
  typeDefinition : Url → Position → m Unit
  /-- Whether the request is cancelled by now. -/
  cancelled : m Bool

/-- Runs a lookup to its end. -/
def drive {m : Type → Type} [Monad m] (settings : Settings) (service : Service m)
    (memory : Resolver) (progress : LookupProgress) : m (Resolver × Option String) :=
  match progress with
  | .finished className => return (memory, className)
  | .asking request failed stage later => do
    let answer ← service.hover request.document.uri (request.position stage)
    let next := receive settings (← service.cancelled) memory (.asking request failed stage later)
      answer
    drive settings service next.1 next.2
  | .tracing request failed => do
    service.typeDefinition request.document.uri request.definitionPosition
    let next := receive settings (← service.cancelled) memory (.tracing request failed)
      (.known none)
    drive settings service next.1 next.2
termination_by progress.openQuestions
decreasing_by
  · exact openQuestions_receive_lt _ _ _ _ _ (by simp [LookupProgress.openQuestions])
  · exact openQuestions_receive_lt _ _ _ _ _ (by simp [LookupProgress.openQuestions])

end Resolver

end FluentAssist
