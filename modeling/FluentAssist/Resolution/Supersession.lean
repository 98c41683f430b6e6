import FluentAssist.Url.Basic

/-!
# Superseded requests

For every document there is at most one current request. Starting a request for a document cancels
the earlier one, and closing the document cancels its current one. A request holds a signal that
tells whether it was cancelled.

Requests of a document are numbered by a counter. A counter is closed together with its document,
and a document that comes back gets a new counter that starts again at one, so a signal names its
counter and its number on it.
-/

set_option autoImplicit false

namespace FluentAssist

/-- The counter of a document. -/
structure Supersession.Counter where
  uri : Url
  /-- The number of the current request. It is a counter of 64 bits at run time; that it wraps
  around is left out, since it would take `2 ^ 64` requests for one document. -/
  generation : Nat
  /-- Whether the document still uses this counter. -/
  inUse : Bool
  deriving DecidableEq, Repr

/-- All counters in the order in which they were made. -/
structure Supersession where
  counters : List Supersession.Counter := []
  deriving DecidableEq, Repr

/-- Tells one request whether it was cancelled. -/
inductive CancelSignal
  | never
  /-- The request with a number on the counter at a place. -/
  | on (counter : Nat) (generation : Nat)
  deriving DecidableEq, Repr

namespace Supersession

/-- The place of the counter that a document uses. -/
def current? (table : Supersession) (uri : Url) : Option Nat :=
  table.counters.findIdx? fun counter => counter.uri = uri && counter.inUse

/-- Starts a request for a document. -/
def start (table : Supersession) (uri : Url) : Supersession × CancelSignal :=
  match table.current? uri with
  | some place =>
    let counters := table.counters.modify place fun counter =>
      { counter with generation := counter.generation + 1 }
    (⟨counters⟩, .on place (((counters[place]?).map (·.generation)).getD 0))
  | none => (⟨table.counters ++ [⟨uri, 1, true⟩]⟩, .on table.counters.length 1)

/-- Closes the counter of a document. -/
def forget (table : Supersession) (uri : Url) : Supersession :=
  ⟨table.counters.map fun counter =>
    if counter.uri = uri then { counter with inUse := false } else counter⟩

end Supersession

namespace CancelSignal

/-- Whether the request was cancelled: its counter has moved on or is closed. -/
def isCancelled (signal : CancelSignal) (table : Supersession) : Bool :=
  match signal with
  | .never => false
  | .on place generation =>
    match table.counters[place]? with
    | some counter => counter.generation != generation || !counter.inUse
    | none => true

/-- What one who waits for the cancellation is told: first whether the counter shows another
number, then whether it can still change. -/
inductive Wakeup
  | moved
  | closed
  | asleep
  deriving DecidableEq, Repr

/-- How a wait for the cancellation stands. -/
def wakeup (signal : CancelSignal) (table : Supersession) : Wakeup :=
  match signal with
  | .never => .asleep
  | .on place generation =>
    match table.counters[place]? with
    | none => .closed
    | some counter =>
      if counter.generation ≠ generation then .moved
      else if counter.inUse then .asleep
      else .closed

/-- Whether one who waits for the cancellation goes on. -/
def isReady (signal : CancelSignal) (table : Supersession) : Bool :=
  match signal.wakeup table with
  | .asleep => false
  | .moved => true
  | .closed => true

end CancelSignal

end FluentAssist
