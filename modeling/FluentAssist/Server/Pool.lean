import FluentAssist.Server.Lifecycle

/-!
# Work side by side

A pool is a server with the calls it is working on. Calls that come in together are all accepted
before the work on the first of them begins. Then every call is worked on up to its first wait, and
goes on when its answer comes. A task that waits for no answer goes on at once, and one that was
superseded ends at once. The exit cancels every accepted request that is not answered yet, also
those on which no work was done.
-/

set_option autoImplicit false

namespace FluentAssist

open Protocol (Call Reply)

/-- A call that waits. -/
structure Running where
  /-- The number under which the call is answered. -/
  ticket : Nat
  call : Call
  task : Task

/-- A server and the calls it is working on. -/
structure Pool where
  server : Server := {}
  running : List Running := []

/-- What is seen of the work. -/
inductive Event
  | sent (message : Outgoing)
  | answered (ticket : Nat) (reply : Reply)

namespace Pool

/-- Goes on with a turn while its task waits for no answer, for at most a number of turns. -/
def finishTurns : Nat → Turn → Turn
  | 0, turn => turn
  | n + 1, turn =>
    match turn.next with
    | .done _ => turn
    | .later task =>
      match task.waitsFor? with
      | some _ => turn
      | none =>
        let next := turn.server.proceed task
        finishTurns n { next with sent := turn.sent ++ next.sent }

/-- A turn that is done or waits for an answer. -/
def settled (turn : Turn) : Turn :=
  match turn.next with
  | .done _ => turn
  | .later task => finishTurns task.turns turn

/-- The messages that are seen: after the exit the editor is told nothing. -/
def visible (server : Server) (message : Outgoing) : Option Event :=
  match message with
  | .toClient _ => if server.phase = .exited then none else some (.sent message)
  | .toAnalyzer _ _ => some (.sent message)

/-- Takes over the turn of a call. -/
def absorb (pool : Pool) (ticket : Nat) (call : Call) (turn : Turn) : Pool × List Event :=
  let turn := settled turn
  let events := turn.sent.filterMap (visible turn.server)
  match turn.next with
  | .done reply => ({ pool with server := turn.server }, events ++ [.answered ticket reply])
  | .later task => (⟨turn.server, pool.running ++ [⟨ticket, call, task⟩]⟩, events)

/-- Ends the tasks of a list that were superseded. The others stay. -/
def sweepFrom (pool : Pool) : List Running → Pool × List Event
  | [] => (pool, [])
  | entry :: later =>
    if entry.task.isCancelled pool.server then
      let (next, events) := pool.absorb entry.ticket entry.call (pool.server.cancel entry.task)
      let (last, more) := next.sweepFrom later
      (last, events ++ more)
    else { pool with running := pool.running ++ [entry] }.sweepFrom later

/-- Ends the tasks that were superseded. -/
def sweep (pool : Pool) : Pool × List Event := { pool with running := [] }.sweepFrom pool.running

/-- Refuses a call that is given up, and gives up what it asked the analysis. -/
def giveUp (pool : Pool) (entry : Running) : Pool × List Event :=
  let server := match entry.task.waitsFor? with
    | some (connection, id) => pool.server.abandon connection id
    | none => pool.server
  ({ pool with server := server }, [.answered entry.ticket (.refused .cancelled)])

/-- Gives up the requests that a condition selects. -/
def giveUpWhere (pool : Pool) (selected : Call → Bool) : Pool × List Event :=
  let isGone (entry : Running) : Bool := entry.call.isRequest && selected entry.call
  let rest : Pool := { pool with running := pool.running.filter fun entry => !isGone entry }
  (pool.running.filter isGone).foldl
    (fun (pool, events) entry =>
      let (next, more) := pool.giveUp entry
      (next, events ++ more))
    (rest, [])

/-- A call that was accepted but not worked on yet. -/
structure Waiting where
  ticket : Nat
  call : Call
  work : Work
  /-- Whether it was given up. -/
  givenUp : Bool := false

/-- Gives up the waiting requests that a condition selects. -/
def Waiting.giveUpWhere (selected : Call → Bool) (queue : List Waiting) : List Waiting :=
  queue.map fun entry =>
    if entry.call.isRequest && selected entry.call then { entry with givenUp := true } else entry

/-- Accepts calls with their numbers, one after another. -/
def acceptAll (pool : Pool) (queue : List Waiting) :
    List (Nat × Call) → Pool × List Waiting × List Event
  | [] => (pool, queue, [])
  | (ticket, call) :: later =>
    let (server, acceptance) := pool.server.accept call
    let accepted : Pool := { pool with server := server }
    match acceptance with
    | .answered reply =>
      let (last, queue, events) := accepted.acceptAll queue later
      (last, queue, .answered ticket reply :: events)
    | .accepted work => accepted.acceptAll (queue ++ [⟨ticket, call, work, false⟩]) later
    | .exits =>
      let (left, cancelled) := accepted.giveUpWhere fun _ => true
      let (last, queue, events) :=
        left.acceptAll (Waiting.giveUpWhere (fun _ => true) queue) later
      (last, queue, .answered ticket .silent :: cancelled ++ events)

/-- Works on an accepted call up to its first wait. A start that was given up leaves the server not
started. -/
def begin_ {m : Type → Type} [Monad m] (host : Host m) (pool : Pool) (entry : Waiting) :
    m (Pool × List Event) := do
  if entry.givenUp then
    let server := if entry.work.isStart then { pool.server with phase := .fresh } else pool.server
    return ({ pool with server := server }, [.answered entry.ticket (.refused .cancelled)])
  else
    let (pool, events) :=
      pool.absorb entry.ticket entry.call (← pool.server.work host entry.work)
    let (pool, cancelled) := match entry.work with
      | .cancel id => pool.giveUpWhere fun other => other.id == some id
      | _ => (pool, [])
    let (pool, ended) := pool.sweep
    return (pool, events ++ cancelled ++ ended)

/-- The queue after work on its first call: a call may give up those after it. -/
def afterWork (work : Work) (queue : List Waiting) : List Waiting :=
  match work with
  | .cancel id => Waiting.giveUpWhere (fun other => other.id == some id) queue
  | _ => queue

/-- Works on waiting calls one after another; the number bounds how many there are. -/
def beginAll {m : Type → Type} [Monad m] (host : Host m) :
    Nat → Pool → List Waiting → m (Pool × List Event)
  | 0, pool, _ => return (pool, [])
  | _, pool, [] => return (pool, [])
  | count + 1, pool, entry :: later => do
    let (next, events) ← pool.begin_ host entry
    let (last, more) ← beginAll host count next (afterWork entry.work later)
    return (last, events ++ more)

/-- Takes calls that come in together. -/
def start {m : Type → Type} [Monad m] (host : Host m) (pool : Pool) (calls : List (Nat × Call)) :
    m (Pool × List Event) := do
  let (accepted, queue, answered) := pool.acceptAll [] calls
  let (last, events) ← beginAll host queue.length accepted queue
  return (last, answered ++ events)

/-- Ends the request to an analysis that a call waits for. -/
def resolve (pool : Pool) (connection id : Nat) (result : Except AnalyzerError Json) :
    Pool × List Event :=
  let waits (entry : Running) : Bool := entry.task.waitsFor? == some (connection, id)
  match pool.running.find? waits with
  | none => (pool, [])
  | some entry =>
    let rest : Pool := { pool with running := pool.running.filter fun other => !waits other }
    rest.absorb entry.ticket entry.call (pool.server.answer entry.task result)

/-- Carries out what a message of an analysis leads to. -/
def carryOut (connection : Nat) (pool : Pool) : Analyzer.Effect → Pool × List Event
  | .reply message => (pool, [.sent (.toAnalyzer connection (.reply message))])
  | .outcome id result =>
    let (next, events) := pool.resolve connection id result
    let (last, more) := next.sweep
    (last, events ++ more)

/-- Takes bytes from an analysis. `ended` tells that no more will come. -/
def hear (pool : Pool) (connection : Nat) (bytes : List UInt8) (ended : Bool) :
    Pool × List Event :=
  let (next, effects) := (pool.server.connection connection).receive bytes ended
  let pool : Pool := { pool with server := pool.server.setConnection connection next }
  effects.foldl
    (fun (pool, events) effect =>
      let (next, more) := pool.carryOut connection effect
      (next, events ++ more))
    (pool, [])

end Pool

end FluentAssist
