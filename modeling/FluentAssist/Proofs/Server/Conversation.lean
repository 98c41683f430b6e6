import FluentAssist.Proofs.Resolution.Supersession
import FluentAssist.Proofs.Server.Session
import FluentAssist.Server.Lifecycle
import Mathlib.Logic.Function.Basic

/-!
# One call after another

An editor opens, changes and closes documents and asks for completions, each call only after the one
before is done. The type analysis is always there and answers every question from the text of the
document that it was told last.

`SequentialState.act` handles one call to its end with the functions of the server: it gives the new
state and the reply. The lemmas about it say what each call does to the documents, to the texts that
the analysis knows, and to what the session remembers.
-/

set_option autoImplicit false

namespace FluentAssist

open Protocol (Reply ChangedParams CompletionParams)
open Resolver (World Faithful InScope)

/-- An outcome that gives a value is this value. -/
theorem eq_ok_of_toOption {ε α : Type} {outcome : Except ε α} {value : α}
    (hfound : outcome.toOption = some value) : outcome = .ok value := by
  cases outcome with
  | error fault => cases hfound
  | ok found =>
    cases hfound
    rfl

/-- A type analysis that answers every hover request, by the text of the document that it was told
last, with something that is understood. -/
structure Analysis where
  hover : Url → Text → Position → Json
  understood : ∀ uri text position, (HoverReply.text? (hover uri text position)).isSome = true

namespace Analysis

/-- The hover text at a position of a text. -/
def body (analysis : Analysis) (uri : Url) (text : Text) (position : Position) : Option Text :=
  (HoverReply.text? (analysis.hover uri text position)).get
    (analysis.understood uri text position)

/-- The answer to a request, given the texts that were told last. -/
def reply (analysis : Analysis) (texts : Url → Text) : Analyzer.Call → Json
  | .hover uri position => analysis.hover uri (texts uri) position
  | _ => .null

/-- The world in which the versions of documents have given texts. -/
def world (analysis : Analysis) (text : Url → Int → Text) : World :=
  ⟨text, fun uri version => analysis.body uri (text uri version)⟩

/-- The class for what is typed in a document, looked up in its text without any memory. Only
attributes have one. -/
def classIn (analysis : Analysis) (classMap : List (String × String)) (document : Snapshot)
    (context : Context) : Option String :=
  context.kind.attributeKind?.bind fun _ =>
    Lookup.uncached classMap (analysis.body document.uri document.text) document.text
      context.matchStart context.kind

end Analysis

/-- The texts that the analysis was told last, after one more message. -/
def Outgoing.tell (texts : Url → Text) : Outgoing → Url → Text
  | .toAnalyzer _ (.notice (.opened document)) =>
    Function.update texts document.uri document.text
  | .toAnalyzer _ (.notice (.changed document)) =>
    Function.update texts document.uri document.text
  | _ => texts

/-- A server and the texts that its analysis was told last. -/
structure SequentialState where
  server : Server
  texts : Url → Text

/-- What the editor does. -/
inductive EditorAct
  | opens (document : Snapshot)
  | changes (params : ChangedParams)
  | closes (uri : Url)
  | completes (params : CompletionParams)

/-- The work on a call of the editor. -/
def EditorAct.work : EditorAct → Work
  | .opens document => .opened document
  | .changes params => .changed params
  | .closes uri => .closed uri
  | .completes params => .completion params

/-- The open documents after a call. -/
def EditorAct.documents (documents : Documents) : EditorAct → Documents
  | .opens document => documents.openDocument document
  | .changes params =>
    match params.document? with
    | some document => documents.update document
    | none => documents
  | .closes uri => documents.close uri
  | .completes _ => documents

namespace SequentialState

/-- Goes on with a task: the analysis answers what a completion asks, and a task that asks nothing
proceeds. -/
def goOn (analysis : Analysis) (texts : Url → Text) (server : Server) (task : Task) : Turn :=
  match task with
  | .completing _ _ _ query =>
    (server.abandon query.connection query.id).answer task
      (.ok (analysis.reply texts query.call))
  | task => server.proceed task

/-- Lets a turn go on until it is done, at most a number of times. -/
def settle (analysis : Analysis) : Nat → (Url → Text) → Turn → SequentialState × Option Reply
  | count, texts, turn =>
    let texts := turn.sent.foldl Outgoing.tell texts
    match turn.next, count with
    | .done reply, _ => (⟨turn.server, texts⟩, some reply)
    | .later _, 0 => (⟨turn.server, texts⟩, none)
    | .later task, count + 1 => settle analysis count texts (goOn analysis texts turn.server task)

/-- Handles a call to its end: the new state, and the reply if there is one in time. -/
def act (host : Host Id) (analysis : Analysis) (state : SequentialState) (action : EditorAct) :
    SequentialState × Option Reply :=
  settle analysis Resolver.mostAnswers state.texts (Id.run (state.server.work host action.work))

/-- Handles calls one after another. -/
def converse (host : Host Id) (analysis : Analysis) (state : SequentialState)
    (actions : List EditorAct) : SequentialState :=
  actions.foldl (fun state action => (state.act host analysis action).1) state

end SequentialState

namespace Server

variable {server : Server} {place : Nat}

/-- Documents are told to an analysis that is alive if they are scripts. -/
theorem Live.forward (hlive : server.Live place) (uri : Url) (notice : Analyzer.Notice) :
    server.forward uri notice =
      if uri.isScript then [.toAnalyzer place (.notice notice)] else [] := by
  have hasks : server.analyzer? = some place := hlive.asks
  unfold Server.forward
  rw [hasks]
  dsimp only
  by_cases hscript : uri.isScript = true
  · rw [if_pos hscript, if_pos hscript]
    unfold tell Analyzer.Notice.send
    rw [if_pos hlive.alive]
  · rw [if_neg hscript, if_neg hscript]

/-- What a completion request is about: an open script and a place in it where something is typed
that is not the name of an element function. -/
structure Completes (server : Server) (params : CompletionParams) (document : Snapshot)
    (context : Context) : Prop where
  script : params.place.uri.isScript = true
  accepted : server.settings.acceptsTrigger params.trigger = true
  isOpen : server.documents.snapshot? params.place.uri = some document
  noName : Cursor.uiFunction? document.text
    (Text.offsetAt document.text params.place.position) = none
  classified : Cursor.classify document.text (Text.offsetAt document.text params.place.position)
    server.settings.completion.lookback = .ok (some context)

/-- The call whose class a completion in a context needs. -/
def classKey (document : Snapshot) (context : Context) : ClassKey :=
  ⟨document.uri, document.version, context.kind, context.matchStart⟩

/-- The server after a completion request has superseded the one before. -/
def completing (server : Server) (uri : Url) : Server :=
  { server with completions := (server.completions.start uri).1 }

/-- A completion request in an open script is served under a signal of its own. -/
theorem completion_of_open {params : CompletionParams} {document : Snapshot}
    (hscript : params.place.uri.isScript = true)
    (haccepted : server.settings.acceptsTrigger params.trigger = true)
    (hopen : server.documents.snapshot? params.place.uri = some document) :
    server.completion params =
      (server.completing params.place.uri).completeAt
        (server.completions.start params.place.uri).2 document
        (Text.offsetAt document.text params.place.position) := by
  unfold completion completing
  dsimp only
  rw [hscript, haccepted, hopen, Bool.and_self, if_pos rfl]

/-- A place where something is typed is completed in its context. -/
theorem completeAt_eq (server : Server) (signal : CancelSignal) {document : Snapshot}
    {offset : Nat} {context : Context}
    (hname : Cursor.uiFunction? document.text offset = none)
    (hfound : Cursor.classify document.text offset server.settings.completion.lookback =
      .ok (some context)) :
    server.completeAt signal document offset = server.completeIn signal document context := by
  unfold completeAt
  -- Named, so that nothing tries to compute them.
  generalize Cursor.uiFunction? document.text offset = name at hname ⊢
  generalize Cursor.classify document.text offset server.settings.completion.lookback = found
    at hfound ⊢
  subst hname hfound
  rfl

/-- Every other place is completed at once, with a list if the name of an element function is
typed there. -/
theorem completeAt_cases (server : Server) (signal : CancelSignal) (document : Snapshot)
    (offset : Nat) :
    (∃ context, Cursor.uiFunction? document.text offset = none ∧
      Cursor.classify document.text offset server.settings.completion.lookback =
        .ok (some context)) ∨
    ∃ reply, server.completeAt signal document offset = .done server reply ∧
      ((∃ items, reply = .result (.arr items)) ∨
        Cursor.uiFunction? document.text offset = none ∧
          ∀ context, Cursor.classify document.text offset
            server.settings.completion.lookback ≠ .ok (some context)) := by
  unfold completeAt
  generalize Cursor.uiFunction? document.text offset = name
  generalize Cursor.classify document.text offset server.settings.completion.lookback = found
  cases name with
  | some ui => exact Or.inr ⟨_, rfl, Or.inl ⟨_, rfl⟩⟩
  | none =>
    cases found with
    | error fault => exact Or.inr ⟨_, rfl, Or.inr ⟨rfl, by simp⟩⟩
    | ok place =>
      cases place with
      | none => exact Or.inr ⟨_, rfl, Or.inr ⟨rfl, by simp⟩⟩
      | some context => exact Or.inl ⟨context, rfl, rfl⟩

/-- A completion request is served in its context. -/
theorem Completes.completion_eq {params : CompletionParams} {document : Snapshot}
    {context : Context} (hcompletes : server.Completes params document context) :
    server.completion params =
      (server.completing params.place.uri).completeIn
        (server.completions.start params.place.uri).2 document context := by
  rw [completion_of_open hcompletes.script hcompletes.accepted hcompletes.isOpen]
  exact completeAt_eq _ _ hcompletes.noName hcompletes.classified

/-- A completion request without a context is answered at once. -/
theorem completion_cases (server : Server) (params : CompletionParams) :
    (∃ document context, server.Completes params document context) ∨
    ∃ completions reply,
      server.completion params = .done { server with completions := completions } reply := by
  by_cases hserved : (params.place.uri.isScript &&
      server.settings.acceptsTrigger params.trigger) = true
  · obtain ⟨hscript, haccepted⟩ := Bool.and_eq_true_iff.mp hserved
    cases hopen : server.documents.snapshot? params.place.uri with
    | none =>
      refine Or.inr ⟨server.completions, .result .null, ?_⟩
      unfold completion
      dsimp only
      rw [if_pos hserved, hopen]
    | some document =>
      obtain ⟨context, hname, hfound⟩ | ⟨reply, heq, -⟩ :=
        completeAt_cases (server.completing params.place.uri)
          (server.completions.start params.place.uri).2 document
          (Text.offsetAt document.text params.place.position)
      · exact Or.inl ⟨document, context, hscript, haccepted, hopen, hname, hfound⟩
      · rw [completion_of_open hscript haccepted hopen]
        exact Or.inr ⟨_, reply, heq⟩
  · refine Or.inr ⟨server.completions, .result .null, ?_⟩
    unfold completion
    dsimp only
    rw [if_neg hserved]

/-- The document that is found at an address has this address and is open. -/
theorem uri_of_snapshot? {documents : Documents} {uri : Url} {document : Snapshot}
    (hopen : documents.snapshot? uri = some document) :
    document.uri = uri ∧ document ∈ documents.entries := by
  unfold Documents.snapshot? at hopen
  refine ⟨?_, List.mem_of_find?_eq_some hopen⟩
  simpa using List.find?_some hopen

/-- The analysis answers a lookup with what is so in the world of the texts that it was told. -/
theorem hoverAnswer_reply (analysis : Analysis) {text : Url → Int → Text} {texts : Url → Text}
    {key : ClassKey} (htold : texts key.uri = text key.uri key.version)
    {scope : Url → Int → Prop} {classMap : List (String × String)} {query : Query}
    {excused : Prop} (hcall : query.progress.call? = some query.call)
    (hsound : Resolver.Sound (analysis.world text) scope classMap key excused query.progress)
    (connection : Analyzer.Connection) :
    HoverAnswer.of (query.call.conclude connection (.ok (analysis.reply texts query.call))).2 =
      (analysis.world text).answer false query.progress := by
  cases hprogress : query.progress with
  | finished className =>
    rw [hprogress] at hcall
    cases hcall
  | tracing request failed =>
    rw [hprogress] at hcall
    rw [← Option.some.inj hcall]
    rfl
  | asking request failed stage later =>
    rw [hprogress] at hcall hsound
    rw [← Option.some.inj hcall, hsound.1]
    have htext : HoverReply.text? (analysis.hover key.uri (texts key.uri)
        (((analysis.world text).request key).position stage)) =
        some ((analysis.world text).body key stage) := by
      rw [htold]
      exact (Option.some_get _).symm
    change HoverAnswer.of (((Except.ok (analysis.hover key.uri (texts key.uri)
        (((analysis.world text).request key).position stage))).bind
          fun value => (Analyzer.hoverText value).map .hover)) =
      .known ((analysis.world text).body key stage)
    simp only [Except.bind, Analyzer.hoverText, htext]
    rfl

end Server

namespace SequentialState

open Server

/-- A lookup sends nothing that changes what the analysis knows of the texts. -/
theorem foldl_tell_of_calls {place : Nat} {sent : List Outgoing}
    (hcalls : ∀ message ∈ sent, ∃ id call, message = .toAnalyzer place (.call id call))
    (texts : Url → Text) : sent.foldl Outgoing.tell texts = texts := by
  induction sent generalizing texts with
  | nil => rfl
  | cons message later ih =>
    obtain ⟨id, call, rfl⟩ := hcalls message List.mem_cons_self
    exact ih (fun other hmem => hcalls other (List.mem_cons_of_mem _ hmem)) texts

/-- A turn that is done replies. -/
theorem settle_of_done (analysis : Analysis) (count : Nat) (texts : Url → Text) {turn : Turn}
    {reply : Reply} (hdone : turn.next = .done reply) :
    settle analysis count texts turn =
      (⟨turn.server, turn.sent.foldl Outgoing.tell texts⟩, some reply) := by
  unfold settle
  simp only [hdone]

/-- A turn that leaves a task goes on with it. -/
theorem settle_of_later (analysis : Analysis) (count : Nat) (texts : Url → Text) {turn : Turn}
    {task : Task} (hlater : turn.next = .later task) :
    settle analysis (count + 1) texts turn =
      settle analysis count (turn.sent.foldl Outgoing.tell texts)
        (goOn analysis (turn.sent.foldl Outgoing.tell texts) turn.server task) := by
  obtain ⟨server, sent, next⟩ := turn
  subst hlater
  rfl

/-- A completion whose class is found replies. -/
theorem settle_found (analysis : Analysis) (count : Nat) (texts : Url → Text)
    (signal : CancelSignal) (shown : Text) (context : Context) {turn : LookupTurn}
    {className : Option String} (hfound : turn.state = .found className) :
    settle analysis count texts (afterCompletionLookup signal shown context turn) =
      (⟨turn.server, turn.sent.foldl Outgoing.tell texts⟩,
        some (turn.server.completionReply signal shown context className)) := by
  unfold afterCompletionLookup
  rw [hfound]
  exact settle_of_done analysis count texts rfl

/-- A completion whose lookup waits goes on with the answer of the analysis. -/
theorem settle_waiting (analysis : Analysis) (count : Nat) (texts : Url → Text)
    (signal : CancelSignal) (shown : Text) (context : Context) {turn : LookupTurn}
    {query : Query} (hwaiting : turn.state = .waiting query)
    (hheard : turn.sent.foldl Outgoing.tell texts = texts) :
    settle analysis (count + 1) texts (afterCompletionLookup signal shown context turn) =
      settle analysis count texts (afterCompletionLookup signal shown context
        ((turn.server.abandon query.connection query.id).receiveAnswer
          (signal.isCancelled turn.server.completions) query
          (.ok (analysis.reply texts query.call)))) := by
  unfold afterCompletionLookup
  rw [hwaiting]
  rw [settle_of_later analysis count texts rfl]
  dsimp only
  rw [hheard]
  rfl

/-- A completion whose lookup is steady ends with the class that the lookup finds. -/
theorem settle_steady (analysis : Analysis) {text : Url → Int → Text}
    {scope : Url → Int → Prop} {texts : Url → Text} {key : ClassKey} {place : Nat} {server : Server}
    (htold : texts key.uri = text key.uri key.version) (signal : CancelSignal)
    (hsignal : signal.isCancelled server.completions = false) (shown : Text) (context : Context)
    (count : Nat) (turn : LookupTurn)
    (hsteady : Steady (analysis.world text) scope key place server turn)
    (hcount : turn.state.openQuestions ≤ count) :
    ∃ (last : LookupTurn) (className : Option String),
      Steady (analysis.world text) scope key place server last ∧ last.state = .found className ∧
      settle analysis count texts (afterCompletionLookup signal shown context turn) =
        (⟨last.server, texts⟩,
          some (last.server.completionReply signal shown context className)) := by
  -- Each answer leaves fewer questions open than the count allows.
  induction count generalizing turn with
  | zero =>
    cases hstate : turn.state with
    | found className =>
      refine ⟨turn, className, hsteady, hstate, ?_⟩
      rw [settle_found analysis 0 texts signal shown context hstate,
        foldl_tell_of_calls hsteady.calls]
    | waiting query =>
      have hexpects := hsteady.state
      rw [hstate] at hexpects hcount
      have hpos := LookupProgress.openQuestions_pos_of_call? hexpects.2.2.1
      exact absurd hcount (Nat.not_le_of_lt hpos)
  | succ count ih =>
    cases hstate : turn.state with
    | found className =>
      refine ⟨turn, className, hsteady, hstate, ?_⟩
      rw [settle_found analysis (count + 1) texts signal shown context hstate,
        foldl_tell_of_calls hsteady.calls]
    | waiting query =>
      have hexpects := hsteady.state
      rw [hstate] at hexpects hcount
      obtain ⟨hsession, rfl, hcall, hsound⟩ := hexpects
      have hanswer := hoverAnswer_reply analysis htold hcall hsound
        ((turn.server.abandon query.connection query.id).connection query.connection)
      obtain ⟨hnext, hless⟩ := (hsteady.live.abandon query.id).receiveAnswer_steady
        hsteady.faithful ⟨hsession, rfl, hcall, hsound⟩ hanswer
      have hcompletions : signal.isCancelled turn.server.completions = false := by
        rw [hsteady.same]
        exact hsignal
      rw [settle_waiting analysis count texts signal shown context hstate
        (foldl_tell_of_calls hsteady.calls texts), hcompletions]
      apply ih
      · exact hnext.since (by rw [hsteady.same]; rfl) hsteady.settings
      · exact Nat.le_of_lt_succ (Nat.lt_of_lt_of_le hless hcount)

/-! ## What a call does -/

variable {state : SequentialState} {place : Nat}

/-- The texts that the analysis knows after it was told of a document. Only scripts are told. -/
def hear (texts : Url → Text) (document : Snapshot) : Url → Text :=
  if document.uri.isScript then Function.update texts document.uri document.text else texts

/-- A document that is opened is told and stored. -/
theorem act_opens (host : Host Id) (analysis : Analysis) (hlive : state.server.Live place)
    (document : Snapshot) :
    state.act host analysis (.opens document) =
      (⟨state.server.store document, hear state.texts document⟩, some .silent) := by
  change settle analysis Resolver.mostAnswers state.texts (state.server.didOpen document) = _
  unfold didOpen hear
  rw [hlive.forward]
  by_cases hscript : document.uri.isScript = true
  · rw [if_pos hscript, if_pos hscript]
    rfl
  · rw [if_neg hscript, if_neg hscript]
    rfl

/-- A document that is changed is told and stored. -/
theorem act_changes (host : Host Id) (analysis : Analysis) (hlive : state.server.Live place)
    {params : ChangedParams} {document : Snapshot} (hdocument : params.document? = some document) :
    state.act host analysis (.changes params) =
      (⟨state.server.storeChange document, hear state.texts document⟩, some .silent) := by
  have hwork : state.act host analysis (.changes params) =
      settle analysis Resolver.mostAnswers state.texts (state.server.didChange document) := by
    unfold act EditorAct.work Server.work
    dsimp only
    rw [hdocument]
    rfl
  rw [hwork]
  unfold didChange hear
  rw [hlive.forward]
  by_cases hscript : document.uri.isScript = true
  · rw [if_pos hscript, if_pos hscript]
    rfl
  · rw [if_neg hscript, if_neg hscript]
    rfl

/-- A change without a text changes nothing. -/
theorem act_changes_nothing (host : Host Id) (analysis : Analysis) {params : ChangedParams}
    (hdocument : params.document? = none) :
    state.act host analysis (.changes params) = (state, some .silent) := by
  unfold act EditorAct.work Server.work
  dsimp only
  rw [hdocument]
  rfl

/-- The server after a document was closed: it is forgotten, with its requests. -/
def closing (server : Server) (uri : Url) : Server :=
  { server with
    documents := server.documents.close uri
    completions := server.completions.forget uri
    hovers := server.hovers.forget uri }

/-- A document that is closed is forgotten, and the analysis keeps its text. -/
theorem act_closes (host : Host Id) (analysis : Analysis) (hlive : state.server.Live place)
    (uri : Url) :
    state.act host analysis (.closes uri) =
      (⟨closing state.server uri, state.texts⟩, some .silent) := by
  have hclosed : (closing state.server uri).Live place := ⟨hlive.asks, hlive.alive⟩
  have hforward := hclosed.forward uri (.closed uri)
  change settle analysis Resolver.mostAnswers state.texts (state.server.didClose uri) = _
  unfold didClose
  unfold closing at hforward ⊢
  dsimp only
  rw [hforward]
  by_cases hscript : uri.isScript = true
  · rw [if_pos hscript]
    rfl
  · rw [if_neg hscript]
    rfl

/-- How a completion in a context ends. The class that it used is the one that is found without
memory, and it is remembered, unless the document is out of the scope. -/
structure Answered (analysis : Analysis) (text : Url → Int → Text) (scope : Url → Int → Prop)
    (place : Nat) (server : Server) (document : Snapshot) (context : Context) (last : Server)
    (className : Option String) : Prop where
  same : last = { server with
    connections := last.connections
    sessions := last.sessions
    completions := last.completions }
  live : last.Live place
  settings : last.currentSession.settings = server.currentSession.settings
  faithful : Faithful (analysis.world text) scope last.currentSession.settings.classMap
    last.currentSession.memory
  found : InScope scope (classKey document context) →
    className = analysis.classIn server.currentSession.settings.classMap document context
  remembered : InScope scope (classKey document context) →
    context.kind.attributeKind?.isSome = true →
    last.currentSession.memory.classes.get? (classKey document context) = some className

/-- A completion that is still current is answered with the items of its candidates. -/
theorem completionReply_current (server last : Server) (uri : Url)
    (hcompletions : last.completions = (server.completions.start uri).1)
    (hkb : last.kb = server.kb) (shown : Text) (context : Context) (className : Option String) :
    last.completionReply (server.completions.start uri).2 shown context className =
      .result (completionItems shown (Completion.assemble server.kb context className)) := by
  unfold completionReply
  rw [hcompletions, Supersession.isCancelled_start, hkb]
  rfl

/-- The class of the call of a completion is the one for what is typed, if it is an attribute. -/
theorem classOf_classKey (analysis : Analysis) {text : Url → Int → Text} {document : Snapshot}
    {context : Context} (htext : document.text = text document.uri document.version)
    (hkind : context.kind.attributeKind?.isSome = true) (classMap : List (String × String)) :
    (analysis.world text).classOf classMap (classKey document context) =
      analysis.classIn classMap document context := by
  obtain ⟨kind, hsome⟩ := Option.isSome_iff_exists.mp hkind
  unfold Analysis.classIn
  rw [hsome, htext]
  rfl

/-- A completion in a context is answered, with the class for what is typed. -/
theorem act_completes (host : Host Id) (analysis : Analysis) {text : Url → Int → Text}
    {scope : Url → Int → Prop} (hlive : state.server.Live place)
    (hfaithful : Faithful (analysis.world text) scope
      state.server.currentSession.settings.classMap state.server.currentSession.memory)
    {params : CompletionParams} {document : Snapshot} {context : Context}
    (hcompletes : state.server.Completes params document context)
    (htext : document.text = text document.uri document.version)
    (htold : state.texts document.uri = document.text) :
    ∃ (last : Server) (className : Option String),
      Answered analysis text scope place state.server document context last className ∧
      state.act host analysis (.completes params) =
        (⟨last, state.texts⟩,
          some (.result (completionItems document.text
            (Completion.assemble state.server.kb context className)))) := by
  have hwork : state.act host analysis (.completes params) =
      settle analysis Resolver.mostAnswers state.texts (state.server.completion params) := rfl
  rw [hwork, hcompletes.completion_eq]
  unfold completeIn
  cases hkind : context.kind.attributeKind? with
  | none =>
    refine ⟨state.server.completing params.place.uri, none,
      ⟨rfl, ⟨hlive.asks, hlive.alive⟩, rfl, hfaithful, ?_, ?_⟩, ?_⟩
    · intro _
      simp [Analysis.classIn, hkind]
    · intro _ hsome
      simp [hkind] at hsome
    · rw [← completionReply_current state.server (state.server.completing params.place.uri)
        params.place.uri rfl rfl]
      exact settle_of_done analysis _ _ rfl
  | some kind =>
    have hrequest : (⟨document, context.kind, context.matchStart⟩ : LookupRequest) =
        (analysis.world text).request (classKey document context) := by
      unfold World.request classKey Analysis.world
      dsimp only
      rw [← htext]
    have hlive' : (state.server.completing params.place.uri).Live place :=
      ⟨hlive.asks, hlive.alive⟩
    have hcurrent : (state.server.completions.start params.place.uri).2.isCancelled
        (state.server.completing params.place.uri).completions = false :=
      Supersession.isCancelled_start _ _
    have hknown : state.texts (classKey document context).uri =
        text (classKey document context).uri (classKey document context).version :=
      htold.trans htext
    obtain ⟨hsteady, hopen⟩ := hlive'.lookup_steady hfaithful
    obtain ⟨last, className, hlast, hfound, hsettle⟩ := settle_steady analysis hknown
      (state.server.completions.start params.place.uri).2
      hcurrent document.text context Resolver.mostAnswers _ hsteady hopen
    have hexpects := hlast.state
    rw [hfound] at hexpects
    refine ⟨last.server, className, ⟨?_, hlast.live, hlast.settings, hlast.faithful, ?_, ?_⟩, ?_⟩
    · rw [hlast.same]
      rfl
    · intro hscope
      rw [(hexpects hscope).1, hlast.settings]
      exact classOf_classKey analysis htext (by rw [hkind]; rfl) _
    · intro hscope _
      exact (hexpects hscope).2
    · dsimp only
      rw [hcurrent, hrequest, hsettle,
        completionReply_current state.server last.server params.place.uri
          (by rw [hlast.same]; rfl) (by rw [hlast.same]; rfl)]

/-- A completion whose class is remembered is answered with it. -/
theorem act_completes_remembered (host : Host Id) (analysis : Analysis)
    {params : CompletionParams} {document : Snapshot} {context : Context}
    (hcompletes : state.server.Completes params document context)
    (hkind : context.kind.attributeKind?.isSome = true) {className : Option String}
    (hremembered : state.server.currentSession.memory.classes.get? (classKey document context) =
      some className) :
    (state.act host analysis (.completes params)).2 =
      some (.result (completionItems document.text
        (Completion.assemble state.server.kb context className))) := by
  obtain ⟨kind, hsome⟩ := Option.isSome_iff_exists.mp hkind
  have hwork : state.act host analysis (.completes params) =
      settle analysis Resolver.mostAnswers state.texts (state.server.completion params) := rfl
  rw [hwork, hcompletes.completion_eq]
  unfold completeIn
  rw [hsome]
  dsimp only
  rw [lookup_remembered (state.server.completing params.place.uri) _
    ⟨document, context.kind, context.matchStart⟩ hremembered,
    settle_found analysis _ _ _ _ _ rfl]
  apply congrArg some
  apply completionReply_current
  · rfl
  · rfl

end SequentialState

end FluentAssist
