import FluentAssist.Proofs.Server.Turns

/-!
# Work in any order

A scheduler is a server with all the work it is doing, every piece of work under a number. What
happens next is left open: work arrives, a task that waits takes its next turn, or an analysis is
heard. So a run of a scheduler is any interleaving of the work at the places where it waits.

`Scheduler.step` lets one event happen. The lemmas about it take the view of one piece of work: the
events of others leave its task and its replies alone, and a turn of its own replaces its task by
the next one or by a reply.
-/

set_option autoImplicit false

namespace FluentAssist

open Protocol (Reply)

/-- The handler of a call that waits: the number of its work and what it goes on with. -/
structure Handler where
  ticket : Nat
  task : Task

/-- How a task that waits may go on. -/
inductive Moment
  /-- It goes on by itself. -/
  | proceeds
  /-- Its answer has come. -/
  | answers (result : Except AnalyzerError Json)
  /-- It was superseded. -/
  | ends

/-- The turn that a task takes, if the moment is one for it. -/
def Task.turn? (server : Server) (task : Task) : Moment → Option Turn
  | .proceeds => if task.waitsFor?.isNone then some (server.proceed task) else none
  | .answers result => if task.waitsFor?.isSome then some (server.answer task result) else none
  | .ends => if task.isCancelled server then some (server.cancel task) else none

/-- A turn is taken at its moment. -/
theorem Task.turn?_cases {server : Server} {task : Task} {moment : Moment} {turn : Turn}
    (hturn : task.turn? server moment = some turn) :
    (moment = .proceeds ∧ task.waitsFor? = none ∧ turn = server.proceed task) ∨
    (∃ result, moment = .answers result ∧ task.waitsFor?.isSome = true ∧
      turn = server.answer task result) ∨
    (moment = .ends ∧ task.isCancelled server = true ∧ turn = server.cancel task) := by
  unfold Task.turn? at hturn
  cases moment with
  | proceeds =>
    obtain ⟨hmoment, heq⟩ := Option.ite_none_right_eq_some.mp hturn
    exact Or.inl ⟨rfl, Option.isNone_iff_eq_none.mp hmoment, (Option.some.inj heq).symm⟩
  | answers result =>
    obtain ⟨hmoment, heq⟩ := Option.ite_none_right_eq_some.mp hturn
    exact Or.inr (Or.inl ⟨result, rfl, hmoment, (Option.some.inj heq).symm⟩)
  | ends =>
    obtain ⟨hmoment, heq⟩ := Option.ite_none_right_eq_some.mp hturn
    exact Or.inr (Or.inr ⟨rfl, hmoment, (Option.some.inj heq).symm⟩)

/-- The task that is left after a turn. -/
def Next.task? : Next → Option Task
  | .done _ => none
  | .later task => some task

/-- The reply that a turn ends with. -/
def Next.reply? : Next → Option Reply
  | .done reply => some reply
  | .later _ => none

/-- A server and its work. -/
structure Scheduler where
  server : Server
  running : List Handler := []
  /-- All messages that were sent. -/
  sent : List Outgoing := []
  /-- All replies, with the numbers of their work. -/
  answered : List (Nat × Reply) := []
  /-- The number of the next work. -/
  tickets : Nat := 0

/-- What may happen next. -/
inductive SchedulerEvent
  | arrives (host : Host Id) (work : Work)
  /-- The work with a number takes its next turn. -/
  | resumes (ticket : Nat) (moment : Moment)
  /-- A connection changes by what is heard from its analysis. -/
  | hears (place : Nat) (connection : Analyzer.Connection)

namespace Scheduler

/-- Takes over the turn of the work with a number. -/
def absorb (scheduler : Scheduler) (ticket : Nat) (turn : Turn) : Scheduler :=
  { scheduler with
    server := turn.server
    running := scheduler.running ++ turn.next.task?.toList.map fun task => ⟨ticket, task⟩
    sent := scheduler.sent ++ turn.sent
    answered := scheduler.answered ++ turn.next.reply?.toList.map fun reply => (ticket, reply) }

/-- The task of the work with a number, if it waits. -/
def task? (scheduler : Scheduler) (ticket : Nat) : Option Task :=
  (scheduler.running.find? (·.ticket = ticket)).map (·.task)

/-- The replies to the work with a number. -/
def repliesTo (scheduler : Scheduler) (ticket : Nat) : List Reply :=
  (scheduler.answered.filter (·.1 = ticket)).map (·.2)

/-- The other work that waits. -/
def others (scheduler : Scheduler) (ticket : Nat) : Scheduler :=
  { scheduler with running := scheduler.running.filter (·.ticket ≠ ticket) }

/-- Lets an event happen. -/
def step (scheduler : Scheduler) : SchedulerEvent → Scheduler
  | .arrives host work =>
    { scheduler with tickets := scheduler.tickets + 1 }.absorb scheduler.tickets
      (Id.run (scheduler.server.work host work))
  | .resumes ticket moment =>
    match (scheduler.task? ticket).bind fun task => task.turn? scheduler.server moment with
    | none => scheduler
    | some turn => (scheduler.others ticket).absorb ticket turn
  | .hears place connection =>
    { scheduler with server := scheduler.server.setConnection place connection }

/-- Lets events happen one after another. -/
def run (scheduler : Scheduler) (events : List SchedulerEvent) : Scheduler :=
  events.foldl step scheduler

/-! ## One piece of work -/

variable {scheduler : Scheduler} {ticket other : Nat} {turn : Turn}

/-- A turn of other work leaves a task as it is. -/
theorem task?_absorb_of_ne (hne : other ≠ ticket) :
    (scheduler.absorb other turn).task? ticket = scheduler.task? ticket := by
  unfold task? absorb
  dsimp only
  rw [List.find?_append]
  cases turn.next <;> simp [Next.task?, hne]

/-- A turn of other work replies to no one else. -/
theorem repliesTo_absorb_of_ne (hne : other ≠ ticket) :
    (scheduler.absorb other turn).repliesTo ticket = scheduler.repliesTo ticket := by
  unfold repliesTo absorb
  dsimp only
  rw [List.filter_append]
  cases turn.next <;> simp [Next.reply?, hne]

/-- After its turn, work without a task has the task that the turn leaves. -/
theorem task?_absorb (hnone : scheduler.task? ticket = none) :
    (scheduler.absorb ticket turn).task? ticket = turn.next.task? := by
  unfold task? at hnone
  rw [Option.map_eq_none_iff] at hnone
  unfold task? absorb
  dsimp only
  rw [List.find?_append, hnone]
  cases turn.next <;> simp [Next.task?]

/-- A turn adds its reply to those of its work. -/
theorem repliesTo_absorb :
    (scheduler.absorb ticket turn).repliesTo ticket =
      scheduler.repliesTo ticket ++ turn.next.reply?.toList := by
  unfold repliesTo absorb
  dsimp only
  rw [List.filter_append, List.map_append]
  cases turn.next <;> simp [Next.reply?]

/-- Work is not among the others. -/
theorem task?_others (scheduler : Scheduler) (ticket : Nat) :
    (scheduler.others ticket).task? ticket = none := by
  unfold task? others
  simp

/-- Other work is among the others. -/
theorem task?_others_of_ne (scheduler : Scheduler) (hne : other ≠ ticket) :
    (scheduler.others other).task? ticket = scheduler.task? ticket := by
  unfold task? others
  dsimp only
  rw [List.find?_filter]
  congr 2
  funext handler
  by_cases hticket : handler.ticket = ticket
  · simp [hticket, hne.symm]
  · simp [hticket]

/-- The events of others leave a piece of work alone. -/
theorem step_of_not_resumes (hlt : ticket < scheduler.tickets) {event : SchedulerEvent}
    (hother : ∀ moment, event ≠ .resumes ticket moment) :
    (scheduler.step event).task? ticket = scheduler.task? ticket ∧
      (scheduler.step event).repliesTo ticket = scheduler.repliesTo ticket := by
  cases event with
  | arrives host work =>
    have hne : scheduler.tickets ≠ ticket := Nat.ne_of_gt hlt
    exact ⟨task?_absorb_of_ne hne, repliesTo_absorb_of_ne hne⟩
  | resumes other moment =>
    have hne : other ≠ ticket := by
      rintro rfl
      exact hother moment rfl
    unfold step
    dsimp only
    split
    · exact ⟨rfl, rfl⟩
    · exact ⟨(task?_absorb_of_ne hne).trans (task?_others_of_ne scheduler hne),
        repliesTo_absorb_of_ne hne⟩
  | hears place connection => exact ⟨rfl, rfl⟩

/-- A turn of its own replaces a task by the next one or by a reply. -/
theorem step_resumes {moment : Moment} {task : Task} (htask : scheduler.task? ticket = some task)
    (hturn : task.turn? scheduler.server moment = some turn) :
    (scheduler.step (.resumes ticket moment)).server = turn.server ∧
      (scheduler.step (.resumes ticket moment)).task? ticket = turn.next.task? ∧
      (scheduler.step (.resumes ticket moment)).repliesTo ticket =
        scheduler.repliesTo ticket ++ turn.next.reply?.toList := by
  unfold step
  dsimp only
  rw [htask, Option.bind_some, hturn]
  exact ⟨rfl, task?_absorb (task?_others scheduler ticket), repliesTo_absorb⟩

/-- Nothing happens to a task at a moment that is not for it. -/
theorem step_resumes_of_none {moment : Moment}
    (hnone :
      ((scheduler.task? ticket).bind fun task => task.turn? scheduler.server moment) = none) :
    scheduler.step (.resumes ticket moment) = scheduler := by
  unfold step
  dsimp only
  rw [hnone]

/-- Numbers are never taken back. -/
theorem tickets_step_le (scheduler : Scheduler) (event : SchedulerEvent) :
    scheduler.tickets ≤ (scheduler.step event).tickets := by
  cases event with
  | arrives host work => exact Nat.le_succ _
  | resumes ticket moment =>
    unfold step
    dsimp only
    split <;> exact Nat.le_refl _
  | hears place connection => exact Nat.le_refl _

/-! ## Numbers -/

/-- Every number is given once. -/
structure Numbered (scheduler : Scheduler) : Prop where
  unique : (scheduler.running.map (·.ticket)).Nodup
  running : ∀ handler ∈ scheduler.running, handler.ticket < scheduler.tickets
  answered : ∀ answer ∈ scheduler.answered, answer.1 < scheduler.tickets

/-- At the start no number is given. -/
theorem numbered_start (server : Server) : Numbered { server := server } :=
  ⟨List.nodup_nil, by simp, by simp⟩

/-- A turn of work whose number is given and whose task has left keeps the numbers apart. -/
theorem Numbered.absorb (hnumbered : scheduler.Numbered) (hlt : ticket < scheduler.tickets)
    (hfree : ∀ handler ∈ scheduler.running, handler.ticket ≠ ticket) :
    (scheduler.absorb ticket turn).Numbered := by
  unfold Scheduler.absorb
  cases turn.next with
  | done reply =>
    refine ⟨?_, ?_, ?_⟩
    · simpa [Next.task?] using hnumbered.unique
    · simpa [Next.task?] using hnumbered.running
    · intro answer hmem
      rcases List.mem_append.mp hmem with hold | hnew
      · exact hnumbered.answered answer hold
      · rw [List.mem_singleton.mp hnew]
        exact hlt
  | later task =>
    refine ⟨?_, ?_, ?_⟩
    · change ((scheduler.running ++ [Handler.mk ticket task]).map
        (fun handler => handler.ticket)).Nodup
      rw [List.map_append, List.nodup_append]
      refine ⟨hnumbered.unique, by simp, ?_⟩
      intro number hmem other hother
      obtain ⟨handler, hhandler, rfl⟩ := List.mem_map.mp hmem
      rw [List.mem_singleton.mp hother]
      exact hfree handler hhandler
    · intro handler hmem
      rcases List.mem_append.mp hmem with hold | hnew
      · exact hnumbered.running handler hold
      · rw [List.mem_singleton.mp hnew]
        exact hlt
    · simpa [Next.reply?] using hnumbered.answered

/-- Work that leaves keeps the numbers apart. -/
theorem Numbered.others (hnumbered : scheduler.Numbered) (ticket : Nat) :
    (scheduler.others ticket).Numbered := by
  refine ⟨hnumbered.unique.sublist (List.filter_sublist.map _), ?_, hnumbered.answered⟩
  intro handler hmem
  exact hnumbered.running handler (List.mem_filter.mp hmem).1

/-- The number of work that waits was given. -/
theorem lt_tickets_of_task? (hnumbered : scheduler.Numbered) {task : Task}
    (htask : scheduler.task? ticket = some task) : ticket < scheduler.tickets := by
  unfold task? at htask
  obtain ⟨handler, hfind, -⟩ := Option.map_eq_some_iff.mp htask
  have hticket : handler.ticket = ticket := by simpa using List.find?_some hfind
  rw [← hticket]
  exact hnumbered.running handler (List.mem_of_find?_eq_some hfind)

/-- An event keeps the numbers apart. -/
theorem Numbered.step (hnumbered : scheduler.Numbered) (event : SchedulerEvent) :
    (scheduler.step event).Numbered := by
  cases event with
  | arrives host work =>
    have hraised : Numbered { scheduler with tickets := scheduler.tickets + 1 } :=
      ⟨hnumbered.unique, fun handler hmem => Nat.lt_succ_of_lt (hnumbered.running handler hmem),
        fun answer hmem => Nat.lt_succ_of_lt (hnumbered.answered answer hmem)⟩
    apply hraised.absorb (Nat.lt_succ_self _)
    intro handler hmem
    exact Nat.ne_of_lt (hnumbered.running handler hmem)
  | resumes ticket moment =>
    unfold Scheduler.step
    dsimp only
    split
    · exact hnumbered
    · rename_i turn hturn
      obtain ⟨task, htask, -⟩ := Option.bind_eq_some_iff.mp hturn
      have hlt := lt_tickets_of_task? hnumbered htask
      apply (hnumbered.others ticket).absorb hlt
      intro handler hmem
      simpa using (List.mem_filter.mp hmem).2
  | hears place connection => exact ⟨hnumbered.unique, hnumbered.running, hnumbered.answered⟩

/-- A run keeps the numbers apart. -/
theorem Numbered.run (hnumbered : scheduler.Numbered) (events : List SchedulerEvent) :
    (scheduler.run events).Numbered := by
  induction events generalizing scheduler with
  | nil => exact hnumbered
  | cons event later ih => exact ih (hnumbered.step event)

/-- Work that waits stands in one place. -/
theorem Numbered.split (hnumbered : scheduler.Numbered) {task : Task}
    (htask : scheduler.task? ticket = some task) :
    ∃ former later, scheduler.running = former ++ ⟨ticket, task⟩ :: later ∧
      (scheduler.others ticket).running = former ++ later := by
  unfold task? at htask
  obtain ⟨⟨number, task'⟩, hfind, rfl⟩ := Option.map_eq_some_iff.mp htask
  obtain ⟨hnumber, former, later, hrunning, hformer⟩ := List.find?_eq_some_iff_append.mp hfind
  have hticket : number = ticket := by simpa using hnumber
  subst hticket
  refine ⟨former, later, hrunning, ?_⟩
  have hunique := hnumbered.unique
  rw [hrunning, List.map_append, List.map_cons, List.nodup_append, List.nodup_cons] at hunique
  have hlater : ∀ handler ∈ later, handler.ticket ≠ number := by
    intro handler hmem hsame
    have hnumber : handler.ticket ∈ later.map (·.ticket) := List.mem_map_of_mem hmem
    rw [hsame] at hnumber
    exact hunique.2.1.1 hnumber
  unfold Scheduler.others
  dsimp only
  rw [hrunning, List.filter_append, List.filter_cons_of_neg (by simp)]
  congr 1
  · rw [List.filter_eq_self]
    intro handler hmem
    simpa using hformer handler hmem
  · rw [List.filter_eq_self]
    intro handler hmem
    simpa using hlater handler hmem

/-- The next number is still free. -/
theorem Numbered.fresh (hnumbered : scheduler.Numbered) :
    scheduler.task? scheduler.tickets = none ∧ scheduler.repliesTo scheduler.tickets = [] := by
  constructor
  · unfold task?
    rw [Option.map_eq_none_iff, List.find?_eq_none]
    intro handler hmem
    simpa using Nat.ne_of_lt (hnumbered.running handler hmem)
  · unfold repliesTo
    rw [List.map_eq_nil_iff, List.filter_eq_nil_iff]
    intro answer hmem
    simpa using Nat.ne_of_lt (hnumbered.answered answer hmem)

end Scheduler

end FluentAssist
