import FluentAssist.Proofs.Server.OfflineReplies
import FluentAssist.Proofs.Server.OfflineSessions
import FluentAssist.Proofs.Server.Superseded

/-!
# Degradation to the engine

The type analysis is a service that may be missing, die, fail to answer, or name a class that the
knowledge base does not have. A request then gets the reply that the engine gives by itself.

What the lookup of a request finds in a run is told by `Scheduler.FindsIn`. Whatever else happens, a
request whose lookup finds nothing that the knowledge base has waits, or has one reply as it should
be (`Scheduler.Due`); this is kept by every event and hence by every run. For completion requests it
leaves open that the reply is nothing, which supersession explains.

`degraded_replies_offline` is the main statement.
-/

set_option autoImplicit false

namespace FluentAssist

open Protocol (Reply Call CompletionParams PlaceParams)

/-! ## What is found -/

/-- The class that the lookup of a request finds when the request arrives. -/
inductive Server.Finds (server : Server) : Work → Option String → Prop
  | completion {params : CompletionParams} {document : Snapshot} {context : Context}
      {kind : AttributeKind} {className : Option String}
      (hcompletes : server.Completes params document context)
      (hkind : context.kind.attributeKind? = some kind)
      (hfound : ((server.completing params.place.uri).lookup
        ((server.completions.start params.place.uri).2.isCancelled
          (server.completing params.place.uri).completions)
        ⟨document, context.kind, context.matchStart⟩).state = .found className) :
      server.Finds (.completion params) className
  | hover {place : PlaceParams} {document : Snapshot} {context : Context}
      {kind : AttributeKind} {className : Option String}
      (hhovers : server.Hovers place document context kind)
      (hfound : ((server.hovering place.uri).lookup
        ((server.hovers.start place.uri).2.isCancelled (server.hovering place.uri).hovers)
        ⟨document, context.kind, context.matchStart⟩).state = .found className) :
      server.Finds (.hover place) className

/-- The number of answers that a request may wait for: none without an analysis. -/
def Server.mostAwaited (server : Server) : Nat :=
  if server.analyzer? = none then 0 else Resolver.mostAnswers

/-- The class that a lookup has found. -/
def LookupState.found? : LookupState → Option (Option String)
  | .found className => some className
  | .waiting _ => none

/-- The class that the lookup of a task finds with an answer. -/
def Task.found? (server : Server) : Task → Moment → Option (Option String)
  | .completing signal _ _ query, .answers result =>
    (server.receiveAnswer (signal.isCancelled server.completions) query result).state.found?
  | .hovering signal _ _ query, .answers result =>
    (server.receiveAnswer (signal.isCancelled server.hovers) query result).state.found?
  | _, _ => none

namespace Scheduler

/-- The class that the lookup of the work with a number finds in an event. -/
def Finds (scheduler : Scheduler) (ticket : Nat) (className : Option String) : SchedulerEvent → Prop
  | .arrives _ work => scheduler.tickets = ticket ∧ scheduler.server.Finds work className
  | .resumes other moment => other = ticket ∧
      ((scheduler.task? ticket).bind fun task => task.found? scheduler.server moment) =
        some className
  | .hears _ _ => False

/-- The class that the lookup of the work with a number finds in some events. -/
def FindsIn (ticket : Nat) (className : Option String) : Scheduler → List SchedulerEvent → Prop
  | _, [] => False
  | scheduler, event :: later =>
    scheduler.Finds ticket className event ∨ FindsIn ticket className (scheduler.step event) later

/-- The server has no analysis when a request arrives, or all that is found for the request is not
in the knowledge base. -/
def Degraded (scheduler : Scheduler) (arrival : SchedulerEvent)
    (events : List SchedulerEvent) : Prop :=
  scheduler.server.analyzer? = none ∨
    ∀ className, FindsIn scheduler.tickets className scheduler (arrival :: events) →
      scheduler.server.kb.Lacks className

end Scheduler

/-! ## One request -/

/-- A kind of task that waits for a lookup. Whatever its lookup finds is not in the knowledge base,
so a turn answers it as it should be, or else an answer leaves fewer questions open. -/
structure Progresses (kb : KnowledgeBase) (fits : Reply → Prop) (form : Query → Task) : Prop where
  waits : ∀ query, (form query).waitsFor?.isSome = true
  turn : ∀ {server : Server} {query : Query} {moment : Moment} {turn : Turn},
    0 < query.progress.openQuestions → (form query).turn? server moment = some turn →
    turn.server.kb = kb →
    (∀ className, (form query).found? server moment = some className → kb.Lacks className) →
    (∃ reply, turn.next = .done reply ∧ fits reply) ∨
    ∃ query', turn.next = .later (form query') ∧ (∃ result, moment = .answers result) ∧
      0 < query'.progress.openQuestions ∧
      query'.progress.openQuestions < query.progress.openQuestions

namespace Server

/-- An answer lets a lookup find a class, or leaves it with fewer open questions. -/
theorem receiveAnswer_cases (server : Server) (cancelled : Bool) {query : Query}
    (hopen : 0 < query.progress.openQuestions) (result : Except AnalyzerError Json) :
    (∃ className, (server.receiveAnswer cancelled query result).state = .found className) ∨
    ∃ query', (server.receiveAnswer cancelled query result).state = .waiting query' ∧
      0 < query'.progress.openQuestions ∧
      query'.progress.openQuestions < query.progress.openQuestions := by
  have hfewer := openQuestions_receiveAnswer_lt server cancelled hopen result
  have hmodest := receiveAnswer_modest server cancelled query result
  cases hstate : (server.receiveAnswer cancelled query result).state with
  | found className => exact Or.inl ⟨className, rfl⟩
  | waiting query' =>
    rw [hstate] at hfewer
    exact Or.inr ⟨query', rfl, hmodest.asks query' hstate, hfewer⟩

variable {kb : KnowledgeBase} {fits : Reply → Prop} {text : Text} {context : Context}

/-- A completion whose class the knowledge base lacks is answered with the engine's candidates or,
after it was cancelled, with nothing. -/
theorem fits_completionReply {server : Server} (hkb : server.kb = kb)
    (hlist : fits (.result (completionItems text (Completion.assemble kb context none))))
    (hnull : fits (.result .null)) (signal : CancelSignal) {className : Option String}
    (hlacks : kb.Lacks className) :
    fits (server.completionReply signal text context className) := by
  unfold completionReply
  split
  · exact hnull
  · rw [hkb, Completion.assemble_of_lacks hlacks]
    exact hlist

/-- A completion request is answered with the engine's candidates or with nothing. -/
theorem completing_progresses
    (hlist : fits (.result (completionItems text (Completion.assemble kb context none))))
    (hnull : fits (.result .null)) (signal : CancelSignal) :
    Progresses kb fits (.completing signal text context) where
  waits := fun _ => rfl
  turn := by
    intro server query moment turn hopen hturn hkb hlacks
    obtain ⟨-, hwaits, -⟩ | ⟨result, rfl, -, rfl⟩ | ⟨-, -, rfl⟩ := Task.turn?_cases hturn
    · cases hwaits
    · have hanswer : server.answer (.completing signal text context query) result =
          afterCompletionLookup signal text context
            (server.receiveAnswer (signal.isCancelled server.completions) query result) := rfl
      rw [hanswer] at hkb ⊢
      rw [server_afterCompletionLookup] at hkb
      unfold afterCompletionLookup
      obtain ⟨className, hfound⟩ | ⟨query', hwaiting, hopen', hfewer⟩ :=
        receiveAnswer_cases server (signal.isCancelled server.completions) hopen result
      · rw [hfound]
        have hclass : kb.Lacks className := hlacks className (congrArg LookupState.found? hfound)
        exact Or.inl ⟨_, rfl, fits_completionReply hkb hlist hnull signal hclass⟩
      · rw [hwaiting]
        exact Or.inr ⟨query', rfl, ⟨result, rfl⟩, hopen', hfewer⟩
    · exact Or.inl ⟨_, rfl, fits_completionReply hkb hlist hnull signal kb.lacks_none⟩

/-- A hover request is answered with the engine's hover text. -/
theorem hovering_progresses
    (hfits : fits (.result (.ofOption (Protocol.hover text) (Hover.at? kb context none))))
    (signal : CancelSignal) : Progresses kb fits (.hovering signal text context) where
  waits := fun _ => rfl
  turn := by
    intro server query moment turn hopen hturn hkb hlacks
    obtain ⟨-, hwaits, -⟩ | ⟨result, rfl, -, rfl⟩ | ⟨-, -, rfl⟩ := Task.turn?_cases hturn
    · cases hwaits
    · have hanswer : server.answer (.hovering signal text context query) result =
          afterHoverLookup signal text context
            (server.receiveAnswer (signal.isCancelled server.hovers) query result) := rfl
      rw [hanswer] at hkb ⊢
      rw [server_afterHoverLookup] at hkb
      unfold afterHoverLookup
      obtain ⟨className, hfound⟩ | ⟨query', hwaiting, hopen', hfewer⟩ :=
        receiveAnswer_cases server (signal.isCancelled server.hovers) hopen result
      · rw [hfound]
        have hclass : kb.Lacks className := hlacks className (congrArg LookupState.found? hfound)
        refine Or.inl ⟨_, rfl, ?_⟩
        unfold hoverReply
        rw [hkb, Hover.at?_of_lacks hclass]
        exact hfits
      · rw [hwaiting]
        exact Or.inr ⟨query', rfl, ⟨result, rfl⟩, hopen', hfewer⟩
    · have hgiven : server.kb = kb := hkb
      subst hgiven
      exact Or.inl ⟨_, rfl, hfits⟩

end Server

/-- Events of others answer no question of a piece of work. -/
theorem SchedulerEvent.isAnswerTo_eq_false {ticket : Nat} {event : SchedulerEvent}
    (hother : ∀ moment, event ≠ .resumes ticket moment) : event.isAnswerTo ticket = false := by
  cases event with
  | resumes other moment =>
    cases moment with
    | answers result =>
      refine decide_eq_false ?_
      rintro rfl
      exact hother _ rfl
    | _ => rfl
  | _ => rfl

namespace Scheduler

/-- A request that waits or has one reply as it should be. While it waits, at most a number of
answers are still to come. -/
structure Due (scheduler : Scheduler) (ticket : Nat) (kb : KnowledgeBase) (fits : Reply → Prop)
    (bound : Nat) : Prop where
  issued : ticket < scheduler.tickets
  state : (∃ form query, Progresses kb fits form ∧ scheduler.task? ticket = some (form query) ∧
      scheduler.repliesTo ticket = [] ∧ 0 < query.progress.openQuestions ∧
      query.progress.openQuestions ≤ bound) ∨
    scheduler.task? ticket = none ∧ ∃ reply, scheduler.repliesTo ticket = [reply] ∧ fits reply

variable {scheduler : Scheduler} {ticket bound : Nat} {kb : KnowledgeBase} {fits : Reply → Prop}

/-- A turn of its own leaves a request due, with an open question less if it was an answer. -/
theorem due_resumes {form : Query → Task} {query : Query} {moment : Moment}
    (hissued : ticket < scheduler.tickets) (hprogresses : Progresses kb fits form)
    (htask : scheduler.task? ticket = some (form query))
    (hreplies : scheduler.repliesTo ticket = [])
    (hopen : 0 < query.progress.openQuestions) (hbounded : query.progress.openQuestions ≤ bound)
    (htidy : scheduler.Tidy) (hkb : scheduler.server.kb = kb)
    (hlacks : ∀ className, scheduler.Finds ticket className (.resumes ticket moment) →
      kb.Lacks className) :
    (scheduler.step (.resumes ticket moment)).Due ticket kb fits
      (bound - if (SchedulerEvent.resumes ticket moment).isAnswerTo ticket then 1 else 0) := by
  refine ⟨Nat.lt_of_lt_of_le hissued (tickets_step_le scheduler _), ?_⟩
  cases hturn : (form query).turn? scheduler.server moment with
  | none =>
    have hidle : scheduler.step (.resumes ticket moment) = scheduler := by
      apply step_resumes_of_none
      rw [htask]
      exact hturn
    -- A request that waits takes every answer, so this was none.
    have hanswer : (SchedulerEvent.resumes ticket moment).isAnswerTo ticket = false := by
      cases moment with
      | answers result =>
        unfold Task.turn? at hturn
        dsimp only at hturn
        rw [if_pos (hprogresses.waits query)] at hturn
        cases hturn
      | _ => rfl
    rw [hidle, hanswer]
    exact Or.inl ⟨form, query, hprogresses, htask, hreplies, hopen, hbounded⟩
  | some turn =>
    have horderly : Turn.Orderly scheduler.server turn :=
      Server.turn?_orderly htidy.blank (fun _ => htidy.asks_of_task? htask) hturn
    obtain ⟨-, hnext, hanswered⟩ := step_resumes htask hturn
    rw [hreplies] at hanswered
    obtain ⟨reply, hdone, hfits⟩ | ⟨query', hlater, ⟨result, rfl⟩, hopen', hfewer⟩ :=
      hprogresses.turn hopen hturn (horderly.kb.trans hkb)
        (fun className hfound => hlacks className ⟨rfl, by rw [htask]; exact hfound⟩)
    · rw [hdone] at hnext hanswered
      exact Or.inr ⟨hnext, reply, hanswered, hfits⟩
    · rw [hlater] at hnext hanswered
      refine Or.inl ⟨form, query', hprogresses, hnext, hanswered, hopen', ?_⟩
      simp only [SchedulerEvent.isAnswerTo, decide_true, if_true]
      omega

/-- An event leaves a request due, and takes one open question from it if it answers it. -/
theorem Due.step (hdue : scheduler.Due ticket kb fits bound) (htidy : scheduler.Tidy)
    (hkb : scheduler.server.kb = kb) {event : SchedulerEvent}
    (hlacks : ∀ className, scheduler.Finds ticket className event → kb.Lacks className) :
    (scheduler.step event).Due ticket kb fits
      (bound - if event.isAnswerTo ticket then 1 else 0) := by
  by_cases hown : ∃ moment, event = .resumes ticket moment
  · obtain ⟨moment, rfl⟩ := hown
    rcases hdue.state with
      ⟨form, query, hprogresses, htask, hreplies, hopen, hbounded⟩ | ⟨htask, hanswered⟩
    · exact due_resumes hdue.issued hprogresses htask hreplies hopen hbounded htidy hkb hlacks
    · rw [step_resumes_of_none (by rw [htask]; rfl)]
      exact ⟨hdue.issued, Or.inr ⟨htask, hanswered⟩⟩
  · obtain ⟨htask, hreplies⟩ := step_of_not_resumes hdue.issued (not_exists.mp hown)
    rw [SchedulerEvent.isAnswerTo_eq_false (not_exists.mp hown)]
    refine ⟨Nat.lt_of_lt_of_le hdue.issued (tickets_step_le scheduler event), ?_⟩
    rw [htask, hreplies]
    exact hdue.state

/-- A request stays due in a run, with an open question less for each answer. -/
theorem Due.run (hdue : scheduler.Due ticket kb fits bound) (htidy : scheduler.Tidy)
    (hkb : scheduler.server.kb = kb) {events : List SchedulerEvent}
    (hcalm : ∀ event ∈ events, event.isStart = false)
    (hlacks : ∀ className, FindsIn ticket className scheduler events → kb.Lacks className) :
    (scheduler.run events).Due ticket kb fits
      (bound - events.countP (SchedulerEvent.isAnswerTo ticket)) := by
  induction events generalizing scheduler bound with
  | nil => exact hdue
  | cons event later ih =>
    have hstep := hdue.step htidy hkb fun className hfinds => hlacks className (Or.inl hfinds)
    have hkb' : (scheduler.step event).server.kb = kb :=
      (htidy.kb_step (hcalm event List.mem_cons_self)).trans hkb
    have hlater := ih hstep (htidy.step event) hkb'
      (fun other hother => hcalm other (List.mem_cons_of_mem _ hother))
      (fun className hfinds => hlacks className (Or.inr hfinds))
    rw [List.countP_cons, Nat.add_comm, ← Nat.sub_sub]
    exact hlater

/-- Nothing is found any more for a request that has its reply. -/
theorem not_findsIn_of_answered (hissued : ticket < scheduler.tickets)
    (hnone : scheduler.task? ticket = none) (className : Option String)
    (events : List SchedulerEvent) : ¬ FindsIn ticket className scheduler events := by
  induction events generalizing scheduler with
  | nil => exact id
  | cons event later ih =>
    rintro (hfinds | hlater)
    · cases event with
      | arrives host work => exact Nat.ne_of_gt hissued hfinds.1
      | resumes other moment =>
        obtain ⟨-, hfound⟩ := hfinds
        rw [hnone] at hfound
        cases hfound
      | hears place connection => exact hfinds
    · refine ih (Nat.lt_of_lt_of_le hissued (tickets_step_le scheduler event)) ?_ hlater
      by_cases hown : ∃ moment, event = .resumes ticket moment
      · obtain ⟨moment, rfl⟩ := hown
        rw [step_resumes_of_none (by rw [hnone]; rfl)]
        exact hnone
      · exact (step_of_not_resumes hissued (not_exists.mp hown)).1.trans hnone

/-! ## From the arrival on -/

/-- A request is due after its arrival if its first turn answers it as it should be or lets it wait.
-/
theorem due_arrives (hnumbered : scheduler.Numbered) (host : Host Id) {work : Work}
    (hnext : (∃ reply, (Id.run (scheduler.server.work host work)).next = .done reply ∧ fits reply) ∨
      ∃ form query, Progresses kb fits form ∧
        (Id.run (scheduler.server.work host work)).next = .later (form query) ∧
        0 < query.progress.openQuestions ∧ query.progress.openQuestions ≤ bound) :
    (scheduler.step (.arrives host work)).Due scheduler.tickets kb fits bound := by
  obtain ⟨hfree, hnone⟩ := hnumbered.fresh
  have htask : (scheduler.step (.arrives host work)).task? scheduler.tickets =
      (Id.run (scheduler.server.work host work)).next.task? := task?_absorb hfree
  have hreplies : (scheduler.step (.arrives host work)).repliesTo scheduler.tickets =
      scheduler.repliesTo scheduler.tickets ++
        (Id.run (scheduler.server.work host work)).next.reply?.toList := repliesTo_absorb
  rw [hnone, List.nil_append] at hreplies
  refine ⟨Nat.lt_succ_self _, ?_⟩
  obtain ⟨reply, hdone, hfits⟩ | ⟨form, query, hprogresses, hlater, hopen, hbounded⟩ := hnext
  · rw [hdone] at htask hreplies
    exact Or.inr ⟨htask, reply, hreplies, hfits⟩
  · rw [hlater] at htask hreplies
    exact Or.inl ⟨form, query, hprogresses, htask, hreplies, hopen, hbounded⟩

/-- A request whose lookup finds nothing of use stays due in every run. -/
theorem due_run_of_degraded (htidy : scheduler.Tidy) {host : Host Id} {work : Work}
    {events : List SchedulerEvent} (hwork : ∀ params, work ≠ .start params)
    (hdegraded : scheduler.Degraded (.arrives host work) events)
    (hcalm : ∀ event ∈ events, event.isStart = false)
    (harrives : (∀ className, scheduler.server.Finds work className →
        scheduler.server.kb.Lacks className) →
      (scheduler.step (.arrives host work)).Due scheduler.tickets scheduler.server.kb fits
        scheduler.server.mostAwaited)
    (hoffline : scheduler.server.analyzer? = none → ∀ className,
      scheduler.server.Finds work className → scheduler.server.kb.Lacks className) :
    (scheduler.run (.arrives host work :: events)).Due scheduler.tickets scheduler.server.kb fits
      (scheduler.server.mostAwaited -
        events.countP (SchedulerEvent.isAnswerTo scheduler.tickets)) := by
  have hkb : (scheduler.step (.arrives host work)).server.kb = scheduler.server.kb :=
    (Server.work_orderly htidy.blank host hwork).kb
  rcases hdegraded with hnone | hlacks
  · -- The request is answered when it arrives, whatever an analysis may find later.
    have hdue := harrives (hoffline hnone)
    have htask : (scheduler.step (.arrives host work)).task? scheduler.tickets = none := by
      rcases hdue.state with ⟨form, query, -, -, -, hopen, hbounded⟩ | ⟨htask, -⟩
      · rw [Server.mostAwaited, if_pos hnone] at hbounded
        omega
      · exact htask
    refine hdue.run (htidy.step _) hkb hcalm ?_
    intro className hfinds
    exact absurd hfinds (not_findsIn_of_answered hdue.issued htask className events)
  · have hdue := harrives fun className hfinds => hlacks className (Or.inl ⟨rfl, hfinds⟩)
    exact hdue.run (htidy.step _) hkb hcalm fun className hfinds =>
      hlacks className (Or.inr hfinds)

end Scheduler

namespace Server

variable {server : Server}

/-- A lookup ends at once, or it waits for an analysis that the server has. -/
theorem Blank.lookup_cases (hblank : server.Blank) (cancelled : Bool) (request : LookupRequest) :
    (∃ className, (server.lookup cancelled request).state = .found className) ∨
    ∃ query, (server.lookup cancelled request).state = .waiting query ∧
      0 < query.progress.openQuestions ∧
      query.progress.openQuestions ≤ server.mostAwaited := by
  have hmodest := lookup_modest server cancelled request
  have hbounded := openQuestions_lookup_le server cancelled request
  cases hstate : (server.lookup cancelled request).state with
  | found className => exact Or.inl ⟨className, rfl⟩
  | waiting query =>
    rw [hstate] at hbounded
    have honline : server.analyzer? ≠ none := by
      intro hoffline
      rw [hblank.lookup_eq hoffline] at hstate
      cases hstate
    rw [mostAwaited, if_neg honline]
    exact Or.inr ⟨query, rfl, hmodest.asks query hstate, hbounded⟩

/-- A request whose lookup finds a class at once is answered at once. -/
theorem Finds.exists_done {work : Work} {className : Option String}
    (hfinds : server.Finds work className) (host : Host Id) :
    ∃ reply, (Id.run (server.work host work)).next = .done reply := by
  cases hfinds with
  | @completion params document context kind className hcompletes hkind hfound =>
    change ∃ reply, (server.completion params).next = .done reply
    rw [hcompletes.completion_eq, completeIn, hkind]
    dsimp only
    rw [afterCompletionLookup, hfound]
    exact ⟨_, rfl⟩
  | @hover place document context kind className hhovers hfound =>
    change ∃ reply, (server.hover place).next = .done reply
    rw [hhovers.hover_eq, afterHoverLookup, hfound]
    exact ⟨_, rfl⟩

/-- Without an analysis no lookup finds a class that the knowledge base has. -/
theorem Blank.lacks_of_finds (hblank : server.Blank) (hoffline : server.analyzer? = none)
    {work : Work} {className : Option String} (hfinds : server.Finds work className) :
    server.kb.Lacks className := by
  cases hfinds with
  | @completion params document context kind className hcompletes hkind hfound =>
    have hblank' : (server.completing params.place.uri).Blank := hblank
    rw [hblank'.lookup_eq hoffline] at hfound
    cases hfound
    exact server.kb.lacks_none
  | @hover place document context kind className hhovers hfound =>
    have hblank' : (server.hovering place.uri).Blank := hblank
    rw [hblank'.lookup_eq hoffline] at hfound
    cases hfound
    exact server.kb.lacks_none

variable {params : CompletionParams} {place : PlaceParams} {document : Snapshot}

/-- The reply to a completion request is the engine's, or nothing although something is typed. -/
def FitsCompletion (server : Server) (params : CompletionParams) (document : Snapshot)
    (reply : Reply) : Prop :=
  reply = server.engine.completionReply document.text
    (Text.offsetAt document.text params.place.position) ∨
  server.IsTyped params ∧ reply = .result .null

/-- The reply to a hover request is the engine's. -/
def FitsHover (server : Server) (place : PlaceParams) (document : Snapshot) (reply : Reply) :
    Prop :=
  reply = server.engine.hoverReply document.text (Text.offsetAt document.text place.position)

/-- The first turn of a completion request answers it as it should be, or lets it wait for the
analysis. -/
theorem completion_degraded (hblank : server.Blank) (hbegins : server.Begins params)
    (hopen : server.documents.snapshot? params.place.uri = some document)
    (hlacks : ∀ className, server.Finds (.completion params) className →
      server.kb.Lacks className) :
    (∃ reply, (server.completion params).next = .done reply ∧
      server.FitsCompletion params document reply) ∨
    ∃ form query, Progresses server.kb (server.FitsCompletion params document) form ∧
      (server.completion params).next = .later (form query) ∧
      0 < query.progress.openQuestions ∧
      query.progress.openQuestions ≤ server.mostAwaited := by
  obtain ⟨context, hname, hcontext⟩ | hdone :=
    completeAt_offline (server.completing params.place.uri)
      (server.completions.start params.place.uri).2 document
      (Text.offsetAt document.text params.place.position)
  · have hcompletes : server.Completes params document context :=
      ⟨hbegins.script, hbegins.accepted, hopen, hname, hcontext⟩
    have htyped : server.IsTyped params := ⟨document, hopen, Or.inr ⟨context, hcontext⟩⟩
    have hlist : server.FitsCompletion params document
        (.result (completionItems document.text
          (Completion.assemble server.kb context none))) :=
      Or.inl (Engine.completionReply_of_context hname hcontext).symm
    have hnull : server.FitsCompletion params document (.result .null) := Or.inr ⟨htyped, rfl⟩
    have hblank' : (server.completing params.place.uri).Blank := hblank
    rw [hcompletes.completion_eq]
    unfold completeIn
    -- Only attributes need the class of the element.
    cases hkind : context.kind.attributeKind? with
    | none =>
      have hkb : (server.completing params.place.uri).kb = server.kb := rfl
      exact Or.inl ⟨_, rfl, fits_completionReply hkb hlist hnull _ server.kb.lacks_none⟩
    | some kind =>
      dsimp only
      unfold afterCompletionLookup
      obtain ⟨className, hfound⟩ | ⟨query, hwaiting, hquery⟩ := hblank'.lookup_cases
        ((server.completions.start params.place.uri).2.isCancelled
          (server.completing params.place.uri).completions)
        ⟨document, context.kind, context.matchStart⟩
      · rw [hfound]
        refine Or.inl ⟨_, rfl, fits_completionReply ?_ hlist hnull _
          (hlacks className (.completion hcompletes hkind hfound))⟩
        exact (lookup_orderly hblank' _ _).kb
      · rw [hwaiting]
        exact Or.inr ⟨_, query, completing_progresses hlist hnull _, rfl, hquery⟩
  · rw [completion_of_open hbegins.script hbegins.accepted hopen, hdone]
    exact Or.inl ⟨_, rfl, Or.inl rfl⟩

/-- The first turn of a hover request answers it as it should be, or lets it wait for the analysis.
-/
theorem hover_degraded (hblank : server.Blank) (hscript : place.uri.isScript = true)
    (hopen : server.documents.snapshot? place.uri = some document)
    (hlacks : ∀ className, server.Finds (.hover place) className → server.kb.Lacks className) :
    (∃ reply, (server.hover place).next = .done reply ∧ server.FitsHover place document reply) ∨
    ∃ form query, Progresses server.kb (server.FitsHover place document) form ∧
      (server.hover place).next = .later (form query) ∧ 0 < query.progress.openQuestions ∧
      query.progress.openQuestions ≤ server.mostAwaited := by
  obtain ⟨context, kind, hhovers⟩ | hdone := hover_offline hscript hopen
  · have hreply : server.FitsHover place document
        (.result (.ofOption (Protocol.hover document.text) (Hover.at? server.kb context none))) :=
      (Engine.hoverReply_of_context hhovers.classified).symm
    have hblank' : (server.hovering place.uri).Blank := hblank
    rw [hhovers.hover_eq]
    unfold afterHoverLookup
    obtain ⟨className, hfound⟩ | ⟨query, hwaiting, hquery⟩ := hblank'.lookup_cases
      ((server.hovers.start place.uri).2.isCancelled (server.hovering place.uri).hovers)
      ⟨document, context.kind, context.matchStart⟩
    · rw [hfound]
      refine Or.inl ⟨_, rfl, ?_⟩
      have hkb : ((server.hovering place.uri).lookup
          ((server.hovers.start place.uri).2.isCancelled (server.hovering place.uri).hovers)
          ⟨document, context.kind, context.matchStart⟩).server.kb = server.kb :=
        (lookup_orderly hblank' _ _).kb
      unfold hoverReply
      rw [hkb, Hover.at?_of_lacks (hlacks className (.hover hhovers hfound))]
      exact hreply
    · rw [hwaiting]
      exact Or.inr ⟨_, query, hovering_progresses hreply _, rfl, hquery⟩
  · rw [hdone]
    exact Or.inl ⟨_, rfl, rfl⟩

end Server

/-! ## The main statement -/

/-- Work that a server accepts after its start. -/
def Work.AfterStart (work : Work) : Prop :=
  ∃ (server : Server) (call : Call), server.phase ≠ .fresh ∧
    (server.accept call).2 = .accepted work

/-- Reading the parameters of a call never makes it the start of the server. -/
theorem Server.isStart_workOn {α : Type} (call : Call) (reading : Protocol.Reading α)
    {form : α → Work} (hform : ∀ value, (form value).isStart = false) :
    (workOn call reading form).isStart = false := by
  unfold workOn
  split
  · rfl
  · split
    · rfl
    · exact hform _

/-- No call but the introduction is the start of the server. -/
theorem Server.isStart_workFor (call : Call) (method : Protocol.Method) :
    (workFor call method).isStart = false := by
  cases method with
  | start => rfl
  | shutdown => rfl
  | exit => rfl
  | cancel => rfl
  | unusedNotice => rfl
  | _ => exact isStart_workOn call _ fun _ => rfl

/-- A server that has started refuses to start again. -/
theorem Work.AfterStart.isStart_eq_false {work : Work} (hafter : work.AfterStart) :
    work.isStart = false := by
  obtain ⟨server, call, hphase, haccept⟩ := hafter
  unfold Server.accept at haccept
  split at haccept
  · cases haccept
  · split at haccept
    · cases haccept
    · cases haccept
    · dsimp only at haccept
      unfold Server.acceptCancel at haccept
      split at haccept
      · cases haccept
      · split at haccept
        · cases haccept
          rfl
        · cases haccept
    · dsimp only at haccept
      rw [Server.acceptStart, if_neg hphase] at haccept
      cases haccept
    · unfold Server.acceptShutdown at haccept
      split at haccept
      · cases haccept
      · dsimp only at haccept
        rw [← Acceptance.accepted.inj haccept]
        split
        · split <;> rfl
        · rfl
    · split at haccept
      · cases haccept
      · split at haccept
        · rw [← Acceptance.accepted.inj haccept]
          exact Server.isStart_workFor call _
        · rw [← Acceptance.accepted.inj haccept]
          rfl

namespace Scheduler

variable {scheduler : Scheduler}

/-- A request waits without a reply, or has one reply and no other. -/
def RepliesOnce (scheduler : Scheduler) (ticket : Nat) (reply : Reply) : Prop :=
  (scheduler.task? ticket).isSome = true ∧ scheduler.repliesTo ticket = [] ∨
    scheduler.task? ticket = none ∧ scheduler.repliesTo ticket = [reply]

/-- Work that no longer waits has its one reply. -/
theorem RepliesOnce.repliesTo_eq {ticket : Nat} {reply : Reply}
    (honce : scheduler.RepliesOnce ticket reply) (hnone : scheduler.task? ticket = none) :
    scheduler.repliesTo ticket = [reply] := by
  obtain ⟨hwaits, -⟩ | ⟨-, hreplies⟩ := honce
  · rw [hnone] at hwaits
    cases hwaits
  · exact hreplies

/-- A request that is due waits or has its reply, and it has it once the analysis has answered
often enough. -/
theorem Due.repliesOnce {ticket : Nat} {kb : KnowledgeBase} {fits : Reply → Prop} {server : Server}
    {answers : Nat} {reply : Reply}
    (hdue : scheduler.Due ticket kb fits (server.mostAwaited - answers))
    (hreply : ∀ other, scheduler.repliesTo ticket = [other] → fits other → other = reply) :
    scheduler.RepliesOnce ticket reply ∧
      (server.analyzer? = none ∨ Resolver.mostAnswers ≤ answers →
        scheduler.task? ticket = none) := by
  rcases hdue.state with
    ⟨form, query, -, htask, hreplies, hopen, hbounded⟩ | ⟨htask, other, hreplies, hfits⟩
  · refine ⟨Or.inl ⟨by rw [htask]; rfl, hreplies⟩, ?_⟩
    rintro (hoffline | hanswers)
    · rw [Server.mostAwaited, if_pos hoffline] at hbounded
      omega
    · have hmost : server.mostAwaited ≤ Resolver.mostAnswers := by
        unfold Server.mostAwaited
        split
        · exact Nat.zero_le _
        · exact Nat.le_refl _
      omega
  · rw [hreply other hreplies hfits] at hreplies
    exact ⟨Or.inr ⟨htask, hreplies⟩, fun _ => htask⟩

/-- The reply to a completion request that is not superseded is a list, if something is typed. -/
theorem Standing.exists_items {ticket bound : Nat} {uri : Url} {superseded typed : Prop}
    {reply : Reply} (hstanding : scheduler.Standing ticket uri superseded typed bound)
    (hcurrent : ¬ superseded) (htyped : typed) (hreplies : scheduler.repliesTo ticket = [reply]) :
    ∃ items, reply = .result (.arr items) := by
  rcases hstanding.state with ⟨signal, text, context, query, hpending⟩ | ⟨other, hsettled⟩
  · rw [hpending.replies] at hreplies
    cases hreplies
  · rw [hsettled.replies] at hreplies
    cases hreplies
    exact hsettled.proper.listed hcurrent htyped

/-- **Without a class that is known, the server replies as the engine does.** Let a request for an
open script arrive at a server, in any state that it can be in, and let anything happen afterwards
that happens after the start of a server. Suppose that the server has no analysis, or that all the
lookup of the request finds is nothing or a class that the knowledge base does not have.

A completion request that is not superseded waits or has one reply, the engine's; it is nothing
exactly at a place without a context and without the name of an element function. A hover request
waits or has one reply, the engine's. Both are answered at once without an analysis, and else at the
latest by the fourth answer. -/
theorem degraded_replies_offline (hreached : scheduler.ReachedFromStart) (host : Host Id)
    {place : PlaceParams} {document : Snapshot} (hscript : place.uri.isScript = true)
    (hopen : scheduler.server.documents.snapshot? place.uri = some document)
    (events : List SchedulerEvent)
    (hafter : ∀ host work, SchedulerEvent.arrives host work ∈ events → work.AfterStart) :
    let ticket := scheduler.tickets
    let engine := scheduler.server.engine
    let offset := Text.offsetAt document.text place.position
    let enough := scheduler.server.analyzer? = none ∨
      Resolver.mostAnswers ≤ events.countP (SchedulerEvent.isAnswerTo ticket)
    (∀ trigger, scheduler.server.settings.acceptsTrigger trigger = true →
      let arrival := SchedulerEvent.arrives host (.completion ⟨place, trigger⟩)
      let last := scheduler.run (arrival :: events)
      scheduler.Degraded arrival events →
      ¬ SupersededIn ticket place.uri (scheduler.step arrival) events →
      last.RepliesOnce ticket (engine.completionReply document.text offset) ∧
        (enough → last.task? ticket = none)) ∧
    (engine.completionReply document.text offset = .result .null ↔
      Cursor.uiFunction? document.text offset = none ∧
        engine.context document.text offset = .ok none) ∧
    (let arrival := SchedulerEvent.arrives host (.hover place)
      let last := scheduler.run (arrival :: events)
      scheduler.Degraded arrival events →
      last.RepliesOnce ticket (engine.hoverReply document.text offset) ∧
        (enough → last.task? ticket = none)) := by
  intro ticket engine offset enough
  have htidy := hreached.tidy
  obtain ⟨settings, kb, traces, former, hscheduler⟩ := hreached
  have hnumbered : scheduler.Numbered := hscheduler ▸ (numbered_start _).run former
  have hcalm : ∀ event ∈ events, event.isStart = false := by
    intro event hmem
    cases event with
    | arrives host work =>
      have hwork := (hafter host work hmem).isStart_eq_false
      cases work with
      | start params => cases hwork
      | _ => rfl
    | _ => rfl
  refine ⟨?_, Engine.completionReply_eq_null_iff, ?_⟩
  · intro trigger haccepted arrival last hdegraded hcurrent
    have hbegins : scheduler.server.Begins ⟨place, trigger⟩ :=
      ⟨hscript, haccepted, by rw [hopen]; rfl⟩
    have hdue := due_run_of_degraded htidy (by simp) hdegraded hcalm
      (fun hlacks => due_arrives hnumbered host
        (Server.completion_degraded htidy.blank hbegins hopen hlacks))
      (fun hoffline className => htidy.blank.lacks_of_finds hoffline)
    refine hdue.repliesOnce ?_
    rintro reply hreplies (hengine | ⟨htyped, hnull⟩)
    · exact hengine
    · -- Supersession alone would explain this.
      have hsingle : scheduler.server.completions.Single := by
        rw [hscheduler]
        exact single_run Supersession.single_empty former
      have hstanding := (standing_arrives hnumbered hsingle host hbegins).run events
      rw [false_or] at hstanding
      obtain ⟨items, hitems⟩ := hstanding.exists_items hcurrent htyped hreplies
      rw [hitems] at hnull
      cases hnull
  · intro arrival last hdegraded
    have hdue := due_run_of_degraded htidy (by simp) hdegraded hcalm
      (fun hlacks => due_arrives hnumbered host
        (Server.hover_degraded htidy.blank hscript hopen hlacks))
      (fun hoffline className => htidy.blank.lacks_of_finds hoffline)
    exact hdue.repliesOnce fun reply _ hfits => hfits

end Scheduler

/-! ## A class that nobody knows -/

namespace UnknownClass

open Scheduler

/-- A script in which an element has an icon. -/
def document : Snapshot :=
  ⟨{ scheme := "file".toList, path := .segments ["main.py".toList] }, 1,
    "\nb.props('icon=home')".toList⟩

/-- The place where the name of the icon begins. -/
def place : PlaceParams := ⟨document.uri, ⟨1, 14⟩⟩

/-- Two icons, and a table of cards, to which buttons are mapped in vain. -/
def kb : KnowledgeBase where
  components := .ofList [("qcard", {})]
  icons := ["home", "house"]
  classMap := .ofList [("Button", "qbtn")]

/-- A host on which the analysis starts. -/
def host : Host Id := { FileTree.host ⟨[], []⟩ with spawn := fun _ => .ok () }

/-- A script is open, and there is no analysis. -/
def offline : Scheduler := run { server := { kb := kb } } [.arrives host (.opened document)]

/-- An analysis is started, and then a script is opened. -/
def online : Scheduler :=
  run { server := { kb := kb } } [.arrives host .ready, .resumes 0 (.answers (.ok .null)),
    .arrives host (.opened document), .resumes 1 .proceeds]

/-- A completion is asked for. -/
def asks : SchedulerEvent := .arrives host (.completion ⟨place, none⟩)

/-- The analysis says that the element is a button. -/
def names : SchedulerEvent :=
  .resumes 2 (.answers (.ok (.obj [("contents", .str "(property) props: Props[Self@Button]")])))

/-- The button is found, and nothing else. -/
theorem findsIn_iff (className : Option String) :
    FindsIn 2 className online [asks, names] ↔ className = some "qbtn" := by
  have hwaits : (Id.run (online.server.work host (.completion ⟨place, none⟩))).next.task?.isSome =
      true := by decide +kernel
  have hbutton : ((online.step asks).task? 2).bind (fun task =>
      task.found? (online.step asks).server
      (.answers (.ok (.obj [("contents", .str "(property) props: Props[Self@Button]")])))) =
      some (some "qbtn") := by decide +kernel
  constructor
  · rintro (⟨-, hfinds⟩ | ⟨-, hfound⟩ | hlater)
    · -- The request waits, so nothing was found when it arrived.
      obtain ⟨reply, hdone⟩ := hfinds.exists_done host
      rw [hdone] at hwaits
      cases hwaits
    · exact (Option.some.inj (hbutton.symm.trans hfound)).symm
    · cases hlater
  · rintro rfl
    exact Or.inr (Or.inl ⟨rfl, hbutton⟩)

/-- The range of the name of the icon. -/
def nameRange : Json :=
  .obj [("start", .obj [("line", .num (.int 1)), ("character", .num (.int 14))]),
    ("end", .obj [("line", .num (.int 1)), ("character", .num (.int 18))])]

/-- The item of an icon, which takes the place of the name. -/
def item (icon sortText : String) : Json :=
  .obj [("label", .str icon), ("kind", .num (.int 12)), ("sortText", .str sortText),
    ("insertTextFormat", .num (.int 1)),
    ("textEdit", .obj [("range", nameRange), ("newText", .str icon)])]

/-- What is said about the icon. -/
def iconHover : Json :=
  .obj [("contents", .obj [("kind", .str "markdown"),
      ("value", .str "**home**\n\nMaterial icon `home`")]),
    ("range", nameRange)]

/-- The candidate for an icon. -/
def iconCandidate (icon : String) (number : Nat) : Candidate where
  label := icon
  kind := some .value
  range := some ⟨15, 19⟩
  sortPriority := number

/-- The engine offers both icons. -/
theorem completionReply_engine :
    (Server.engine { kb := kb }).completionReply document.text 15 =
      .result (.arr [item "home" "00000", item "house" "00001"]) := by
  have htyped : ((Server.engine { kb := kb }).context document.text 15).toOption.join.isSome =
      true := by decide +kernel
  have hcandidates : ((Server.engine { kb := kb }).complete document.text 15).toOption =
      some [iconCandidate "home" 0, iconCandidate "house" 1] := by decide +kernel
  have hlist : (Server.engine { kb := kb }).completionReply document.text 15 =
      .result (.arr ([iconCandidate "home" 0, iconCandidate "house" 1].map
        (Protocol.completionItem document.text))) := by
    unfold Engine.completionReply
    rw [if_neg, eq_ok_of_toOption hcandidates]
    · rfl
    · rintro ⟨-, hnone⟩
      rw [hnone] at htyped
      cases htyped
  rw [hlist]
  rfl

/-- The engine explains the icon that stands there. -/
theorem hoverReply_engine :
    (Server.engine { kb := kb }).hoverReply document.text 15 = .result iconHover := by
  have hinfo : ((Server.engine { kb := kb }).hover document.text 15).toOption =
      some (some ⟨"**home**\n\nMaterial icon `home`".toList, ⟨15, 19⟩⟩) := by decide +kernel
  unfold Engine.hoverReply
  rw [eq_ok_of_toOption hinfo]
  rfl

/-- Without an analysis, and with one that names a class which the tables lack, both icons are
offered; without an analysis a hover request is told of the one that stands there. -/
theorem degraded_replies_offline_unknown_class :
    offline.server.analyzer? = none ∧
    (offline.run [.arrives host (.completion ⟨place, none⟩)]).repliesTo 1 =
      [.result (.arr [item "home" "00000", item "house" "00001"])] ∧
    (offline.run [.arrives host (.hover place)]).repliesTo 1 = [.result iconHover] ∧
    online.server.analyzer? = some 0 ∧
    FindsIn 2 (some "qbtn") online [asks, names] ∧
    (online.run [asks, names]).repliesTo 2 =
      [.result (.arr [item "home" "00000", item "house" "00001"])] := by
  have hoffset : Text.offsetAt document.text place.position = 15 := by decide +kernel
  have hscript : place.uri.isScript = true := by decide +kernel
  have hnone : offline.server.analyzer? = none := by decide +kernel
  obtain ⟨hcompletion, -, hhover⟩ := degraded_replies_offline
    (⟨{}, kb, false, _, rfl⟩ : offline.ReachedFromStart) host hscript
    (by decide +kernel : offline.server.documents.snapshot? place.uri = some document) []
    (by simp)
  obtain ⟨honline, -, -⟩ := degraded_replies_offline
    (⟨{}, kb, false, _, rfl⟩ : online.ReachedFromStart) host hscript
    (by decide +kernel : online.server.documents.snapshot? place.uri = some document)
    [names] (by simp [names])
  have hengine : offline.server.engine = Server.engine { kb := kb } := rfl
  have hengine' : online.server.engine = Server.engine { kb := kb } := rfl
  have hticket : offline.tickets = 1 := by decide +kernel
  have hticket' : online.tickets = 2 := by decide +kernel
  rw [hoffset, hengine, hticket] at hcompletion hhover
  rw [hoffset, hengine', hticket'] at honline
  rw [completionReply_engine] at hcompletion honline
  rw [hoverReply_engine] at hhover
  obtain ⟨hlist, hended⟩ := hcompletion none rfl (Or.inl hnone) id
  obtain ⟨htext, hended'⟩ := hhover (Or.inl hnone)
  refine ⟨hnone, hlist.repliesTo_eq (hended (Or.inl hnone)),
    htext.repliesTo_eq (hended' (Or.inl hnone)), by decide +kernel, (findsIn_iff _).mpr rfl, ?_⟩
  have hdegraded : online.Degraded asks [names] := by
    refine Or.inr fun className hfinds => ?_
    rw [hticket'] at hfinds
    rw [(findsIn_iff className).mp hfinds]
    exact Option.isNone_iff_eq_none.mp (by decide +kernel)
  have hcurrent : ¬ SupersededIn 2 document.uri (online.step asks) [names] := by
    simp [SupersededIn, Supersedes, names]
  have hanswered : (online.run [asks, names]).task? 2 = none :=
    Option.isNone_iff_eq_none.mp (by decide +kernel)
  exact (honline none rfl hdegraded hcurrent).1.repliesTo_eq hanswered

end UnknownClass

end FluentAssist
