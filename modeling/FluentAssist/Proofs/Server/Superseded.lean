import FluentAssist.Proofs.Server.Interleaving

/-!
# Superseded completions

A completion request supersedes the one before it for its document when it is served, and closing
the document cancels the request that is current. A request may wait for the type analysis several
times, and anything may happen while it waits.

Followed from its arrival on, a completion request waits or has one reply (`Scheduler.Standing`).
While it waits, its signal is cancelled exactly if it was superseded; what others do is read off one
inversion, `Scheduler.completions_step`. Its own turns end it with nothing if its signal is
cancelled, and else lead to a list or to fewer open questions.

`completion_silenced_iff_superseded` is the main statement.
-/

set_option autoImplicit false

namespace FluentAssist

open Protocol (Reply CompletionParams)

/-- Something is typed at the place of a completion request: the name of an element function, or
something that has a context. -/
def Server.IsTyped (server : Server) (params : CompletionParams) : Prop :=
  ∃ document, server.documents.snapshot? params.place.uri = some document ∧
    ((Cursor.uiFunction? document.text
        (Text.offsetAt document.text params.place.position)).isSome = true ∨
      ∃ context, Cursor.classify document.text
        (Text.offsetAt document.text params.place.position)
        server.settings.completion.lookback = .ok (some context))

/-- Whether an event is an answer to the work with a number. -/
def SchedulerEvent.isAnswerTo (ticket : Nat) : SchedulerEvent → Bool
  | .resumes other (.answers _) => other = ticket
  | _ => false

namespace Scheduler

/-- An event supersedes the completion requests for a document: a completion request for it that is
served, or its closing. -/
def Supersedes (scheduler : Scheduler) (uri : Url) : SchedulerEvent → Prop
  | .arrives _ (.completion params) => params.place.uri = uri ∧ scheduler.server.Begins params
  | .arrives _ (.closed other) => other = uri
  | _ => False

/-- One of some events supersedes the completion requests for a document, while the work with a
number waits. -/
def SupersededIn (ticket : Nat) (uri : Url) : Scheduler → List SchedulerEvent → Prop
  | _, [] => False
  | scheduler, event :: later =>
    ((scheduler.task? ticket).isSome = true ∧ scheduler.Supersedes uri event) ∨
      SupersededIn ticket uri (scheduler.step event) later

/-- A scheduler that came about, in any way, from a server without current requests. -/
def Reachable (scheduler : Scheduler) : Prop :=
  ∃ (server : Server) (events : List SchedulerEvent),
    server.completions = {} ∧ scheduler = run { server := server } events

variable {scheduler : Scheduler} {ticket : Nat} {uri : Url}

/-! ## The current requests -/

/-- A turn of a task that waits starts and cancels no completion. -/
theorem completions_turn? {server : Server} {task : Task} {moment : Moment} {turn : Turn}
    (hturn : task.turn? server moment = some turn) :
    turn.server.completions = server.completions := by
  obtain ⟨-, -, rfl⟩ | ⟨result, -, -, rfl⟩ | ⟨-, -, rfl⟩ := Task.turn?_cases hturn
  · exact Server.completions_proceed server task
  · exact Server.completions_answer server task result
  · exact Server.completions_cancel server task

/-- What an event does to the current requests: it supersedes those for one document, or nothing. -/
theorem completions_step (scheduler : Scheduler) (event : SchedulerEvent) :
    (∃ uri, (∀ other, scheduler.Supersedes other event ↔ uri = other) ∧
      ((scheduler.step event).server.completions = (scheduler.server.completions.start uri).1 ∨
        (scheduler.step event).server.completions = scheduler.server.completions.forget uri)) ∨
    ((∀ other, ¬ scheduler.Supersedes other event) ∧
      (scheduler.step event).server.completions = scheduler.server.completions) := by
  cases event with
  | arrives host work =>
    cases work with
    | completion params =>
      by_cases hbegins : scheduler.server.Begins params
      · refine Or.inl ⟨params.place.uri, ?_, Or.inl ?_⟩
        · intro other
          exact ⟨fun hsupersedes => hsupersedes.1, fun huri => ⟨huri, hbegins⟩⟩
        · exact Server.completions_completion hbegins
      · refine Or.inr ⟨fun other hsupersedes => hbegins hsupersedes.2, ?_⟩
        change (scheduler.server.completion params).server.completions = _
        rw [Server.completion_of_not_begins hbegins]
        rfl
    | closed uri => exact Or.inl ⟨uri, fun other => Iff.rfl, Or.inr rfl⟩
    | _ =>
      refine Or.inr ⟨fun other => id, ?_⟩
      exact Server.completions_work scheduler.server host (by simp) (by simp)
  | resumes ticket moment =>
    refine Or.inr ⟨fun other => id, ?_⟩
    unfold step
    dsimp only
    split
    · rfl
    · rename_i turn hturn
      obtain ⟨task, -, hturn⟩ := Option.bind_eq_some_iff.mp hturn
      exact completions_turn? hturn
  | hears place connection => exact Or.inr ⟨fun other => id, rfl⟩

/-- An event leaves at most one current completion for each document. -/
theorem single_step (hsingle : scheduler.server.completions.Single) (event : SchedulerEvent) :
    (scheduler.step event).server.completions.Single := by
  obtain ⟨uri, -, hstart | hforget⟩ | ⟨-, hsame⟩ := completions_step scheduler event
  · rw [hstart]
    exact hsingle.start uri
  · rw [hforget]
    exact hsingle.forget uri
  · rw [hsame]
    exact hsingle

/-- A run leaves at most one current completion for each document. -/
theorem single_run (hsingle : scheduler.server.completions.Single) (events : List SchedulerEvent) :
    (scheduler.run events).server.completions.Single := by
  induction events generalizing scheduler with
  | nil => exact hsingle
  | cons event later ih => exact ih (single_step hsingle event)

/-- An event only moves counters of completions on. -/
theorem advances_step (scheduler : Scheduler) (event : SchedulerEvent) :
    scheduler.server.completions.Advances (scheduler.step event).server.completions := by
  obtain ⟨uri, -, hstart | hforget⟩ | ⟨-, hsame⟩ := completions_step scheduler event
  · rw [hstart]
    exact Supersession.advances_start _ uri
  · rw [hforget]
    exact Supersession.advances_forget _ uri
  · rw [hsame]
    exact Supersession.advances_refl _

/-- An event cancels a signal exactly if it supersedes the requests for its document. -/
theorem isCancelled_step {signal : CancelSignal}
    (hholds : scheduler.server.completions.Holds uri signal)
    (hsingle : scheduler.server.completions.Single) (event : SchedulerEvent) :
    signal.isCancelled (scheduler.step event).server.completions = true ↔
      signal.isCancelled scheduler.server.completions = true ∨ scheduler.Supersedes uri event := by
  obtain ⟨subject, hsupersedes, hnext⟩ | ⟨hnone, hsame⟩ := completions_step scheduler event
  · rw [hsupersedes uri]
    by_cases huri : subject = uri
    · subst huri
      have hcancelled : signal.isCancelled (scheduler.step event).server.completions = true := by
        rcases hnext with hstart | hforget
        · rw [hstart]
          exact hholds.isCancelled_start_self hsingle
        · rw [hforget]
          exact hholds.isCancelled_forget_self
      exact ⟨fun _ => Or.inr rfl, fun _ => hcancelled⟩
    · have hunmoved : signal.isCancelled (scheduler.step event).server.completions =
          signal.isCancelled scheduler.server.completions := by
        rcases hnext with hstart | hforget
        · rw [hstart]
          exact hholds.isCancelled_start_of_ne huri
        · rw [hforget]
          exact hholds.isCancelled_forget_of_ne huri
      rw [hunmoved]
      exact ⟨Or.inl, fun hor => hor.resolve_right huri⟩
  · rw [hsame]
    exact ⟨Or.inl, fun hor => hor.resolve_right (hnone uri)⟩

/-! ## One completion request -/

/-- A completion request for a document that waits. Its signal is cancelled exactly if it was
superseded, and at most a number of answers are still to come. -/
structure Pending (scheduler : Scheduler) (ticket : Nat) (uri : Url) (superseded : Prop)
    (bound : Nat) (signal : CancelSignal) (text : Text) (context : Context) (query : Query) :
    Prop where
  task : scheduler.task? ticket = some (.completing signal text context query)
  replies : scheduler.repliesTo ticket = []
  holds : scheduler.server.completions.Holds uri signal
  cancelled : signal.isCancelled scheduler.server.completions = true ↔ superseded
  isOpen : 0 < query.progress.openQuestions
  bounded : query.progress.openQuestions ≤ bound

/-- A reply as it should be: nothing after the request was superseded, else a list if something was
typed. -/
structure Proper (superseded typed : Prop) (reply : Reply) : Prop where
  silent : superseded → reply = .result .null
  listed : ¬ superseded → typed → ∃ items, reply = .result (.arr items)

/-- A completion request that has its reply. -/
structure Settled (scheduler : Scheduler) (ticket : Nat) (superseded typed : Prop) (reply : Reply) :
    Prop where
  task : scheduler.task? ticket = none
  replies : scheduler.repliesTo ticket = [reply]
  proper : Proper superseded typed reply

/-- How a completion request for a document stands. -/
structure Standing (scheduler : Scheduler) (ticket : Nat) (uri : Url) (superseded typed : Prop)
    (bound : Nat) : Prop where
  issued : ticket < scheduler.tickets
  single : scheduler.server.completions.Single
  state : (∃ signal text context query,
      scheduler.Pending ticket uri superseded bound signal text context query) ∨
    ∃ reply, scheduler.Settled ticket superseded typed reply

variable {superseded typed : Prop} {bound : Nat} {signal : CancelSignal} {text : Text}
variable {context : Context} {query : Query}

/-- What happens around a request that waits matters only if it supersedes the request. -/
theorem Pending.step_of_not_resumes
    (hpending : scheduler.Pending ticket uri superseded bound signal text context query)
    (hissued : ticket < scheduler.tickets) (hsingle : scheduler.server.completions.Single)
    {event : SchedulerEvent} (hother : ∀ moment, event ≠ .resumes ticket moment) :
    (scheduler.step event).Pending ticket uri (superseded ∨ scheduler.Supersedes uri event) bound
      signal text context query := by
  obtain ⟨htask, hreplies⟩ := Scheduler.step_of_not_resumes hissued hother
  refine ⟨htask.trans hpending.task, hreplies.trans hpending.replies,
    hpending.holds.mono (advances_step scheduler event), ?_, hpending.isOpen, hpending.bounded⟩
  rw [isCancelled_step hpending.holds hsingle event, hpending.cancelled]

/-- The reply once the class is known is as it should be. -/
theorem proper_completionReply {server : Server}
    (hcancelled : signal.isCancelled server.completions = true ↔ superseded)
    (className : Option String) :
    Proper superseded typed (server.completionReply signal text context className) := by
  unfold Server.completionReply
  constructor
  · intro hsuperseded
    rw [if_pos (hcancelled.mpr hsuperseded)]
  · intro hcurrent _
    rw [if_neg (fun htrue => hcurrent (hcancelled.mp htrue))]
    exact ⟨_, rfl⟩

/-- After a step of its lookup a completion is answered, as it should be, or it waits. -/
theorem afterCompletionLookup_next {server : Server} {lookup : LookupTurn}
    (hmodest : LookupTurn.Modest server lookup)
    (hcancelled : signal.isCancelled server.completions = true ↔ superseded) (text : Text)
    (context : Context) (typed : Prop) :
    (∃ reply, (Server.afterCompletionLookup signal text context lookup).next = .done reply ∧
      Proper superseded typed reply) ∨
    ∃ query, lookup.state = .waiting query ∧ 0 < query.progress.openQuestions ∧
      (Server.afterCompletionLookup signal text context lookup).next =
        .later (.completing signal text context query) := by
  unfold Server.afterCompletionLookup
  cases hstate : lookup.state with
  | found className =>
    refine Or.inl ⟨_, rfl, proper_completionReply ?_ className⟩
    rw [hmodest.completions]
    exact hcancelled
  | waiting query => exact Or.inr ⟨query, rfl, hmodest.asks query hstate, rfl⟩

/-- How a turn of a completion request that waits ends: with a reply as it should be, or with fewer
open questions if it was not superseded. -/
theorem Pending.turn
    (hpending : scheduler.Pending ticket uri superseded bound signal text context query)
    {moment : Moment} {turn : Turn}
    (hturn : (Task.completing signal text context query).turn? scheduler.server moment = some turn)
    (typed : Prop) :
    (∃ reply, turn.next = .done reply ∧ Proper superseded typed reply) ∨
    ∃ query', turn.next = .later (.completing signal text context query') ∧ ¬ superseded ∧
      (∃ result, moment = .answers result) ∧ 0 < query'.progress.openQuestions ∧
      query'.progress.openQuestions < query.progress.openQuestions := by
  obtain ⟨-, hwaits, -⟩ | ⟨result, rfl, -, rfl⟩ | ⟨-, -, rfl⟩ := Task.turn?_cases hturn
  · cases hwaits
  · obtain hdone | ⟨query', hstate, hopen, hlater⟩ := afterCompletionLookup_next
      (Server.receiveAnswer_modest scheduler.server
        (signal.isCancelled scheduler.server.completions) query result)
      hpending.cancelled text context typed
    · exact Or.inl hdone
    · refine Or.inr ⟨query', hlater, ?_, ⟨result, rfl⟩, hopen, ?_⟩
      · intro hsuperseded
        rw [hpending.cancelled.mpr hsuperseded,
          Server.receiveAnswer_cancelled scheduler.server hpending.isOpen result] at hstate
        cases hstate
      · have hfewer := Server.openQuestions_receiveAnswer_lt scheduler.server
          (signal.isCancelled scheduler.server.completions) hpending.isOpen result
        rw [hstate] at hfewer
        exact hfewer
  · refine Or.inl ⟨_, rfl, proper_completionReply ?_ none⟩
    exact hpending.cancelled

/-- A superseded request is ended by its next turn. -/
theorem Pending.task?_step_of_superseded
    (hpending : scheduler.Pending ticket uri superseded bound signal text context query)
    (hsuperseded : superseded) {moment : Moment} (hmoment : moment ≠ .proceeds) :
    (scheduler.step (.resumes ticket moment)).task? ticket = none := by
  have hready :
      (Task.completing signal text context query).isCancelled scheduler.server = true := by
    change signal.isReady scheduler.server.completions = true
    rw [CancelSignal.isReady_eq_isCancelled]
    exact hpending.cancelled.mpr hsuperseded
  obtain ⟨turn, hturn⟩ : ∃ turn,
      (Task.completing signal text context query).turn? scheduler.server moment = some turn := by
    cases moment with
    | proceeds => exact absurd rfl hmoment
    | answers result => exact ⟨_, rfl⟩
    | ends => exact ⟨_, if_pos hready⟩
  rw [(Scheduler.step_resumes hpending.task hturn).2.1]
  obtain ⟨reply, hdone, -⟩ | ⟨query', -, hcurrent, -⟩ := hpending.turn hturn True
  · rw [hdone]
    rfl
  · exact absurd hsuperseded hcurrent

/-- What a turn of its own makes of a completion request that waits. -/
theorem Pending.step_resumes
    (hpending : scheduler.Pending ticket uri superseded bound signal text context query)
    (moment : Moment) :
    (∃ query', (scheduler.step (.resumes ticket moment)).Pending ticket uri superseded
      (bound - if (SchedulerEvent.resumes ticket moment).isAnswerTo ticket then 1 else 0)
      signal text context query') ∨
    ∃ reply, (scheduler.step (.resumes ticket moment)).Settled ticket superseded typed reply := by
  cases hturn : (Task.completing signal text context query).turn? scheduler.server moment with
  | none =>
    have hidle : scheduler.step (.resumes ticket moment) = scheduler := by
      apply step_resumes_of_none
      rw [hpending.task]
      exact hturn
    have hanswer : (SchedulerEvent.resumes ticket moment).isAnswerTo ticket = false := by
      cases moment with
      | answers result => cases hturn
      | _ => rfl
    rw [hidle, hanswer]
    exact Or.inl ⟨query, hpending⟩
  | some turn =>
    obtain ⟨hserver, htask, hreplies⟩ := Scheduler.step_resumes hpending.task hturn
    have hcompletions : (scheduler.step (.resumes ticket moment)).server.completions =
        scheduler.server.completions := by
      rw [hserver]
      exact completions_turn? hturn
    rw [hpending.replies] at hreplies
    obtain ⟨reply, hdone, hproper⟩ | ⟨query', hlater, hcurrent, ⟨result, rfl⟩, hopen, hfewer⟩ :=
      hpending.turn hturn typed
    · rw [hdone] at htask hreplies
      exact Or.inr ⟨reply, htask, hreplies, hproper⟩
    · rw [hlater] at htask hreplies
      refine Or.inl ⟨query', htask, hreplies, ?_, ?_, hopen, ?_⟩
      · rw [hcompletions]
        exact hpending.holds
      · rw [hcompletions]
        exact hpending.cancelled
      · have hbounded := hpending.bounded
        simp only [SchedulerEvent.isAnswerTo, decide_true, if_true]
        omega

/-- A request that has its reply keeps it. -/
theorem Settled.step {reply : Reply} (hsettled : scheduler.Settled ticket superseded typed reply)
    (hissued : ticket < scheduler.tickets) (event : SchedulerEvent) :
    (scheduler.step event).Settled ticket superseded typed reply := by
  by_cases hown : ∃ moment, event = .resumes ticket moment
  · obtain ⟨moment, rfl⟩ := hown
    rw [step_resumes_of_none (by rw [hsettled.task]; rfl)]
    exact hsettled
  · obtain ⟨htask, hreplies⟩ := Scheduler.step_of_not_resumes hissued (not_exists.mp hown)
    exact ⟨htask.trans hsettled.task, hreplies.trans hsettled.replies, hsettled.proper⟩

/-- An event supersedes a request or not, and takes one open question from it if it answers it. -/
theorem Standing.step (hstanding : scheduler.Standing ticket uri superseded typed bound)
    (event : SchedulerEvent) :
    (scheduler.step event).Standing ticket uri
      (superseded ∨ ((scheduler.task? ticket).isSome = true ∧ scheduler.Supersedes uri event)) typed
      (bound - if event.isAnswerTo ticket then 1 else 0) := by
  refine ⟨Nat.lt_of_lt_of_le hstanding.issued (tickets_step_le scheduler event),
    single_step hstanding.single event, ?_⟩
  rcases hstanding.state with ⟨signal, text, context, query, hpending⟩ | ⟨reply, hsettled⟩
  · have hwaits : (scheduler.task? ticket).isSome = true := by
      rw [hpending.task]
      rfl
    rw [eq_true hwaits, true_and]
    by_cases hown : ∃ moment, event = .resumes ticket moment
    · obtain ⟨moment, rfl⟩ := hown
      have hflag : (superseded ∨ scheduler.Supersedes uri (.resumes ticket moment)) = superseded :=
        or_false superseded
      rw [hflag]
      rcases hpending.step_resumes moment with ⟨query', hnext⟩ | hnext
      · exact Or.inl ⟨signal, text, context, query', hnext⟩
      · exact Or.inr hnext
    · have hanswer : event.isAnswerTo ticket = false := by
        cases event with
        | resumes other moment =>
          cases moment with
          | answers result =>
            refine decide_eq_false ?_
            rintro rfl
            exact hown ⟨_, rfl⟩
          | _ => rfl
        | _ => rfl
      rw [hanswer]
      exact Or.inl ⟨signal, text, context, query,
        hpending.step_of_not_resumes hstanding.issued hstanding.single (not_exists.mp hown)⟩
  · have hgone : ¬ (scheduler.task? ticket).isSome = true := by
      rw [hsettled.task]
      exact Bool.false_ne_true
    rw [eq_false hgone, false_and, or_false]
    exact Or.inr ⟨reply, hsettled.step hstanding.issued event⟩

/-- A completion request stands as it should after any run. -/
theorem Standing.run (hstanding : scheduler.Standing ticket uri superseded typed bound)
    (events : List SchedulerEvent) :
    (scheduler.run events).Standing ticket uri
      (superseded ∨ SupersededIn ticket uri scheduler events) typed
      (bound - events.countP (SchedulerEvent.isAnswerTo ticket)) := by
  induction events generalizing scheduler superseded bound with
  | nil =>
    change scheduler.Standing ticket uri (superseded ∨ False) typed (bound - 0)
    rw [or_false]
    exact hstanding
  | cons event later ih =>
    have hlater := ih (hstanding.step event)
    rw [or_assoc, Nat.sub_sub, Nat.add_comm] at hlater
    rw [List.countP_cons]
    exact hlater

/-! ## From the arrival on -/

/-- A completion that is not superseded is answered with a list, or it waits. -/
theorem completeIn_next (server : Server) (hcurrent : signal.isCancelled server.completions = false)
    (document : Snapshot) (context : Context) (typed : Prop) :
    (∃ reply, (server.completeIn signal document context).next = .done reply ∧
      Proper False typed reply) ∨
    ∃ query, (server.completeIn signal document context).next =
        .later (.completing signal document.text context query) ∧
      0 < query.progress.openQuestions ∧
      query.progress.openQuestions ≤ Resolver.mostAnswers := by
  have hcancelled : signal.isCancelled server.completions = true ↔ False := by
    rw [hcurrent]
    exact ⟨Bool.false_ne_true, False.elim⟩
  unfold Server.completeIn
  cases context.kind.attributeKind? with
  | none => exact Or.inl ⟨_, rfl, proper_completionReply hcancelled none⟩
  | some kind =>
    have hmodest := Server.lookup_modest server (signal.isCancelled server.completions)
      ⟨document, context.kind, context.matchStart⟩
    obtain hdone | ⟨query, hstate, hopen, hlater⟩ :=
      afterCompletionLookup_next hmodest hcancelled document.text context typed
    · exact Or.inl hdone
    · have hbounded := Server.openQuestions_lookup_le server
        (signal.isCancelled server.completions) ⟨document, context.kind, context.matchStart⟩
      rw [hstate] at hbounded
      exact Or.inr ⟨query, hlater, hopen, hbounded⟩

/-- A completion request that is served is answered at once, as it should be, or it waits. -/
theorem completion_next {server : Server} {params : CompletionParams}
    (hbegins : server.Begins params) :
    (∃ reply, (server.completion params).next = .done reply ∧
      Proper False (server.IsTyped params) reply) ∨
    ∃ text context query, (server.completion params).next =
        .later (.completing (server.completions.start params.place.uri).2 text context query) ∧
      0 < query.progress.openQuestions ∧
      query.progress.openQuestions ≤ Resolver.mostAnswers := by
  obtain ⟨document, hopen⟩ := Option.isSome_iff_exists.mp hbegins.isOpen
  rw [Server.completion_of_open hbegins.script hbegins.accepted hopen]
  obtain ⟨context, hname, hfound⟩ | ⟨reply, heq, hlisted⟩ :=
    Server.completeAt_cases (server.completing params.place.uri)
      (server.completions.start params.place.uri).2 document
      (Text.offsetAt document.text params.place.position)
  · rw [Server.completeAt_eq _ _ hname hfound]
    have hcurrent : (server.completions.start params.place.uri).2.isCancelled
        (server.completing params.place.uri).completions = false :=
      Supersession.isCancelled_start _ _
    obtain hdone | ⟨query, hlater, hopen⟩ :=
      completeIn_next _ hcurrent document context (server.IsTyped params)
    · exact Or.inl hdone
    · exact Or.inr ⟨document.text, context, query, hlater, hopen⟩
  · rw [heq]
    refine Or.inl ⟨reply, rfl, False.elim, ?_⟩
    rintro - ⟨other, hother, htyped⟩
    cases hopen.symm.trans hother
    obtain hitems | ⟨hname, hplain⟩ := hlisted
    · exact hitems
    · rw [hname] at htyped
      obtain hsome | ⟨context, hfound⟩ := htyped
      · cases hsome
      · exact absurd hfound (hplain context)

/-- The completion request that has just arrived stands as it should. -/
theorem standing_arrives (hnumbered : scheduler.Numbered)
    (hsingle : scheduler.server.completions.Single) (host : Host Id) {params : CompletionParams}
    (hbegins : scheduler.server.Begins params) :
    (scheduler.step (.arrives host (.completion params))).Standing scheduler.tickets
      params.place.uri False (scheduler.server.IsTyped params) Resolver.mostAnswers := by
  have hcompletions : (scheduler.step (.arrives host (.completion params))).server.completions =
      (scheduler.server.completions.start params.place.uri).1 :=
    Server.completions_completion hbegins
  obtain ⟨hfree, hnone⟩ := hnumbered.fresh
  have htask : (scheduler.step (.arrives host (.completion params))).task? scheduler.tickets =
      (scheduler.server.completion params).next.task? :=
    task?_absorb hfree
  have hreplies :
      (scheduler.step (.arrives host (.completion params))).repliesTo scheduler.tickets =
        scheduler.repliesTo scheduler.tickets ++
          (scheduler.server.completion params).next.reply?.toList :=
    repliesTo_absorb
  rw [hnone, List.nil_append] at hreplies
  refine ⟨Nat.lt_succ_self _, ?_, ?_⟩
  · rw [hcompletions]
    exact hsingle.start _
  obtain ⟨reply, hdone, hproper⟩ | ⟨text, context, query, hlater, hopen, hbounded⟩ :=
    completion_next hbegins
  · rw [hdone] at htask hreplies
    exact Or.inr ⟨reply, htask, hreplies, hproper⟩
  · rw [hlater] at htask hreplies
    refine Or.inl ⟨_, text, context, query, htask, hreplies, ?_, ?_, hopen, hbounded⟩
    · rw [hcompletions]
      exact Supersession.holds_start _ _
    · rw [hcompletions, Supersession.isCancelled_start]
      exact ⟨Bool.false_ne_true, False.elim⟩

/-- **Only supersession silences a completion, and it always does.** A completion request that is
served waits or has one reply, whatever happens after it. If it is superseded while it waits, that
reply is nothing, and its next turn gives it. If it is not, and something is typed at its place, the
reply is a list. It is answered at the latest by its fourth answer of the analysis. -/
theorem completion_silenced_iff_superseded (hreachable : scheduler.Reachable) (host : Host Id)
    {params : CompletionParams} (hbegins : scheduler.server.Begins params)
    (events : List SchedulerEvent) :
    let next := scheduler.step (.arrives host (.completion params))
    let last := next.run events
    let superseded := SupersededIn scheduler.tickets params.place.uri next events
    ((last.task? scheduler.tickets).isSome = true ∧ last.repliesTo scheduler.tickets = [] ∨
      last.task? scheduler.tickets = none ∧ ∃ reply, last.repliesTo scheduler.tickets = [reply]) ∧
    (superseded → ∀ reply ∈ last.repliesTo scheduler.tickets, reply = .result .null) ∧
    (¬ superseded → scheduler.server.IsTyped params →
      ∀ reply ∈ last.repliesTo scheduler.tickets, ∃ items, reply = .result (.arr items)) ∧
    (superseded → ∀ moment, moment ≠ .proceeds →
      (last.step (.resumes scheduler.tickets moment)).task? scheduler.tickets = none) ∧
    (Resolver.mostAnswers ≤ events.countP (SchedulerEvent.isAnswerTo scheduler.tickets) →
      last.task? scheduler.tickets = none) := by
  intro next last superseded
  obtain ⟨server, former, hnew, hscheduler⟩ := hreachable
  have hnumbered : scheduler.Numbered := hscheduler ▸ (numbered_start server).run former
  have hsingle : scheduler.server.completions.Single := by
    rw [hscheduler]
    apply single_run
    rw [hnew]
    exact Supersession.single_empty
  have hstanding := (standing_arrives hnumbered hsingle host hbegins).run events
  rw [false_or] at hstanding
  rcases hstanding.state with ⟨signal, text, context, query, hpending⟩ | ⟨reply, hsettled⟩
  · have htask : last.task? scheduler.tickets = some (.completing signal text context query) :=
      hpending.task
    have hreplies : last.repliesTo scheduler.tickets = [] := hpending.replies
    rw [hreplies]
    refine ⟨Or.inl ⟨by rw [htask]; rfl, rfl⟩, by simp, by simp, ?_, ?_⟩
    · intro hsuperseded moment hmoment
      exact hpending.task?_step_of_superseded hsuperseded hmoment
    · intro hanswers
      have hbounded := hpending.bounded
      have hopen := hpending.isOpen
      omega
  · have htask : last.task? scheduler.tickets = none := hsettled.task
    have hreplies : last.repliesTo scheduler.tickets = [reply] := hsettled.replies
    rw [hreplies]
    refine ⟨Or.inr ⟨htask, reply, rfl⟩, ?_, ?_, ?_, fun _ => htask⟩
    · intro hsuperseded other hmem
      rw [List.mem_singleton.mp hmem]
      exact hsettled.proper.silent hsuperseded
    · intro hcurrent htyped other hmem
      rw [List.mem_singleton.mp hmem]
      exact hsettled.proper.listed hcurrent htyped
    · intro _ moment _
      rw [step_resumes_of_none (by rw [htask]; rfl)]
      exact htask

end Scheduler

/-! ## Two requests for one button -/

namespace RepeatedCompletion

open Scheduler

/-- A script in which an attribute of an element is typed. -/
def document : Snapshot :=
  ⟨{ scheme := "file".toList, path := .segments ["main.py".toList] }, 1, "\nb.props('x')".toList⟩

/-- A server with the script and an analysis. -/
def server : Server where
  documents := ⟨[document]⟩
  connections := [{}]
  sessions := [⟨{}, Resolver.empty Resolver.defaultCapacity, some 0⟩]

/-- A host without files. -/
def host : Host Id := FileTree.host ⟨[], []⟩

/-- A request between the quotation marks. -/
def params : CompletionParams := ⟨⟨document.uri, ⟨1, 9⟩⟩, none⟩

/-- The request alone. -/
def scheduler : Scheduler := step { server := server } (.arrives host (.completion params))

/-- A second request for the same place arrives. -/
def second : SchedulerEvent := .arrives host (.completion params)

/-- The analysis answers the first request with nothing. -/
def answer : SchedulerEvent := .resumes 0 (.answers (.ok .null))

/-- A hover request at the same place arrives, and the analysis knows nothing. -/
def hovering : List SchedulerEvent := [.arrives host (.hover params.place), answer, answer, answer]

/-- The request between the quotation marks is served. -/
theorem begins : server.Begins params := ⟨by decide +kernel, rfl, by decide +kernel⟩

/-- Something is typed between the quotation marks. -/
theorem isTyped : server.IsTyped params := by
  refine ⟨document, by decide +kernel, Or.inr ?_⟩
  have hfound : (Cursor.classify document.text
      (Text.offsetAt document.text params.place.position)
      server.settings.completion.lookback).toOption.join.isSome = true := by decide +kernel
  obtain ⟨context, hcontext⟩ := Option.isSome_iff_exists.mp hfound
  refine ⟨context, ?_⟩
  revert hcontext
  generalize Cursor.classify document.text (Text.offsetAt document.text params.place.position)
    server.settings.completion.lookback = found
  intro hcontext
  cases found with
  | error fault => cases hcontext
  | ok place =>
    cases place with
    | none => cases hcontext
    | some other =>
      cases hcontext
      rfl

/-- The first request is silenced by a second. A hover request at the same place leaves it with its
list. -/
theorem completion_silenced_iff_superseded_repeated :
    server.Begins params ∧ server.IsTyped params ∧
    SupersededIn 0 document.uri scheduler [second, answer] ∧
    (scheduler.run [second, answer]).repliesTo 0 = [.result .null] ∧
    ¬ SupersededIn 0 document.uri scheduler hovering ∧
    ∃ items, (scheduler.run hovering).repliesTo 0 = [.result (.arr items)] := by
  have hreachable : Reachable { server := server } := ⟨server, [], rfl, rfl⟩
  have hsuperseded : SupersededIn 0 document.uri scheduler [second, answer] := by
    refine Or.inl ⟨by decide +kernel, rfl, ?_⟩
    exact ⟨by decide +kernel, rfl, by decide +kernel⟩
  have hcurrent : ¬ SupersededIn 0 document.uri scheduler hovering := by
    simp [hovering, answer, SupersededIn, Supersedes]
  refine ⟨begins, isTyped, hsuperseded, ?_, hcurrent, ?_⟩
  · obtain ⟨hreply, hsilent, -⟩ := completion_silenced_iff_superseded hreachable host begins
      [second, answer]
    have hended : (scheduler.run [second, answer]).task? 0 = none := by
      have hgone : ((scheduler.run [second, answer]).task? 0).isNone = true := by decide +kernel
      exact Option.isNone_iff_eq_none.mp hgone
    obtain ⟨hwaits, -⟩ | ⟨-, reply, hreplies⟩ := hreply
    · have hnone := Option.isSome_iff_ne_none.mp hwaits
      exact absurd hended hnone
    · have hnull := hsilent hsuperseded reply (hreplies ▸ List.mem_singleton_self reply)
      rw [hnull] at hreplies
      exact hreplies
  · obtain ⟨hreply, -, hlisted, -⟩ := completion_silenced_iff_superseded hreachable host begins
      hovering
    have hended : (scheduler.run hovering).task? 0 = none := by
      have hgone : ((scheduler.run hovering).task? 0).isNone = true := by decide +kernel
      exact Option.isNone_iff_eq_none.mp hgone
    obtain ⟨hwaits, -⟩ | ⟨-, reply, hreplies⟩ := hreply
    · have hnone := Option.isSome_iff_ne_none.mp hwaits
      exact absurd hended hnone
    · obtain ⟨items, hitems⟩ := hlisted hcurrent isTyped reply
        (hreplies ▸ List.mem_singleton_self reply)
      rw [hitems] at hreplies
      exact ⟨items, hreplies⟩

end RepeatedCompletion

end FluentAssist
