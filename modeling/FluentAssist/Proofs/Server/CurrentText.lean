import FluentAssist.Proofs.Server.Conversation

/-!
# Completions and the current text

A class is remembered under the address and the version of a document, and nothing is forgotten when
the document is closed. So the memory is as good as the versions: a completion uses the class for
the current text of its document as long as no earlier completion met another text of the same
version (`completion_uses_current_text`). An editor that raises the version with every change may
still open a document again with a version that it had before. Then a completion of the same call
uses the class for the text that is gone.

The invariant is `SequentialState.Agrees`. It is kept in a scope of versions, so that a version that
came back with another text spoils nothing but itself.
-/

set_option autoImplicit false

namespace FluentAssist

open Protocol (Reply ChangedParams CompletionParams)
open Resolver (World Faithful InScope)

/-! ## What completion requests meet -/

/-- The document that a call of the editor wants completed. -/
def EditorAct.subject? (documents : Documents) : EditorAct → Option Snapshot
  | .completes params => documents.snapshot? params.place.uri
  | _ => none

/-- The versions of documents that the completion requests among some calls meet. -/
def Documents.met (documents : Documents) : List EditorAct → List Snapshot
  | [] => []
  | action :: later =>
    (action.subject? documents).toList ++ Documents.met (action.documents documents) later

/-- Every change of an open document raises its version. -/
def Documents.Increasing (documents : Documents) : List EditorAct → Prop
  | [] => True
  | action :: later =>
    (∀ params, action = .changes params → ∀ document,
      documents.snapshot? params.uri = some document → document.version < params.version) ∧
    Documents.Increasing (action.documents documents) later

namespace Documents

variable {documents : Documents} {document entry : Snapshot}

/-- After a document was opened, every open document is that one or one with another address. -/
theorem mem_openDocument (hmem : entry ∈ (documents.openDocument document).entries) :
    entry = document ∨ entry ∈ documents.entries ∧ entry.uri ≠ document.uri := by
  simp only [openDocument, close, List.mem_append, List.mem_filter, List.mem_singleton] at hmem
  rcases hmem with ⟨hold, huri⟩ | hnew
  · exact Or.inr ⟨hold, by simpa using huri⟩
  · exact Or.inl hnew

/-- After an update a document is the new one, or an old one with another address. -/
theorem mem_update (hmem : entry ∈ (documents.update document).entries) :
    entry = document ∨ entry ∈ documents.entries ∧ entry.uri ≠ document.uri := by
  simp only [update, List.mem_map] at hmem
  obtain ⟨old, hold, hentry⟩ := hmem
  by_cases huri : old.uri = document.uri
  · rw [if_pos huri] at hentry
    exact Or.inl hentry.symm
  · rw [if_neg huri] at hentry
    subst hentry
    exact Or.inr ⟨hold, huri⟩

/-- The analysis knows the current texts of the open scripts. -/
def Told (documents : Documents) (texts : Url → Text) : Prop :=
  ∀ document ∈ documents.entries, document.uri.isScript = true →
    texts document.uri = document.text

/-- The analysis knows the texts after it was told of the one document that is new. -/
theorem Told.hear {texts : Url → Text} (htold : documents.Told texts) {next : Documents}
    (hnext : ∀ entry ∈ next.entries,
      entry = document ∨ entry ∈ documents.entries ∧ entry.uri ≠ document.uri) :
    next.Told (SequentialState.hear texts document) := by
  intro entry hmem hscript
  unfold SequentialState.hear
  rcases hnext entry hmem with rfl | ⟨hold, huri⟩
  · rw [if_pos hscript, Function.update_self]
  · split
    · rw [Function.update_of_ne huri]
      exact htold entry hold hscript
    · exact htold entry hold hscript

end Documents

/-! ## The invariant -/

namespace SequentialState

open Server

/-- The analysis is alive and knows the current texts, and in a scope of versions, which have given
texts, the memory of the current session holds nothing wrong. -/
structure Agrees (analysis : Analysis) (text : Url → Int → Text) (scope : Url → Int → Prop)
    (place : Nat) (state : SequentialState) : Prop where
  live : state.server.Live place
  faithful : Faithful (analysis.world text) scope state.server.currentSession.settings.classMap
    state.server.currentSession.memory
  told : state.server.documents.Told state.texts

variable {analysis : Analysis} {text : Url → Int → Text} {scope : Url → Int → Prop}
variable {place : Nat} {state : SequentialState}

/-- Texts out of the scope do not matter. -/
theorem Agrees.congr (hagrees : state.Agrees analysis text scope place)
    {text' : Url → Int → Text}
    (hsame : ∀ uri version, scope uri version → text uri version = text' uri version) :
    state.Agrees analysis text' scope place := by
  refine { hagrees with faithful := hagrees.faithful.congr hsame ?_ }
  intro uri version hscope
  unfold Analysis.world
  dsimp only
  rw [hsame uri version hscope]

/-- The texts of versions, after one of them was read off a document. -/
def reading (text : Url → Int → Text) (document : Snapshot) (uri : Url) (version : Int) : Text :=
  if uri = document.uri ∧ version = document.version then document.text else text uri version

/-- A document may be read if it has the text of its version or is out of the scope. -/
theorem reading_eq {document : Snapshot}
    (hread : scope document.uri document.version →
      document.text = text document.uri document.version)
    (uri : Url) (version : Int) (hscope : scope uri version) :
    text uri version = reading text document uri version := by
  unfold reading
  by_cases hsame : uri = document.uri ∧ version = document.version
  · rw [if_pos hsame]
    obtain ⟨rfl, rfl⟩ := hsame
    exact (hread hscope).symm
  · rw [if_neg hsame]

/-- A completion in a context is answered with the class for what is typed, unless its document is
out of the scope. -/
theorem Agrees.exists_answered (host : Host Id) (hagrees : state.Agrees analysis text scope place)
    {params : CompletionParams} {document : Snapshot} {context : Context}
    (hcompletes : state.server.Completes params document context)
    (hread : scope document.uri document.version →
      document.text = text document.uri document.version) :
    ∃ (last : Server) (className : Option String),
      Answered analysis (reading text document) scope place state.server document context last
        className ∧
      state.act host analysis (.completes params) =
        (⟨last, state.texts⟩,
          some (.result (completionItems document.text
            (Completion.assemble state.server.kb context className)))) := by
  have hread' := hagrees.congr (reading_eq hread)
  obtain ⟨huri, hopen⟩ := uri_of_snapshot? hcompletes.isOpen
  have hscript : document.uri.isScript = true := by
    rw [huri]
    exact hcompletes.script
  have htext : document.text = reading text document document.uri document.version := by
    unfold reading
    rw [if_pos ⟨rfl, rfl⟩]
  exact act_completes host analysis hread'.live hread'.faithful hcompletes htext
    (hagrees.told document hopen hscript)

/-- What a completion leaves behind. -/
theorem Agrees.completes (host : Host Id) (hagrees : state.Agrees analysis text scope place)
    (params : CompletionParams)
    (hread : ∀ document, state.server.documents.snapshot? params.place.uri = some document →
      scope document.uri document.version →
      document.text = text document.uri document.version) :
    (state.act host analysis (.completes params)).1.Agrees analysis text scope place ∧
      (state.act host analysis (.completes params)).1.server.documents =
        state.server.documents := by
  rcases completion_cases state.server params with
    ⟨document, context, hcompletes⟩ | ⟨completions, reply, hanswered⟩
  · have hsame := hread document hcompletes.isOpen
    obtain ⟨last, className, hlast, hact⟩ := hagrees.exists_answered host hcompletes hsame
    have hdocuments : last.documents = state.server.documents := by
      rw [hlast.same]
    have htold : last.documents.Told state.texts := by
      rw [hdocuments]
      exact hagrees.told
    have hnext : Agrees analysis (reading text document) scope place ⟨last, state.texts⟩ :=
      ⟨hlast.live, hlast.faithful, htold⟩
    rw [hact]
    exact ⟨hnext.congr fun uri version hscope => (reading_eq hsame uri version hscope).symm,
      hdocuments⟩
  · have hact : state.act host analysis (.completes params) =
        (⟨{ state.server with completions := completions }, state.texts⟩, some reply) := by
      change settle analysis Resolver.mostAnswers state.texts (state.server.completion params) = _
      rw [hanswered]
      rfl
    rw [hact]
    exact ⟨⟨⟨hagrees.live.asks, hagrees.live.alive⟩, hagrees.faithful, hagrees.told⟩, rfl⟩

/-- One call keeps the invariant, if it is no completion in a document whose version has another
text. -/
theorem Agrees.act (host : Host Id) (hagrees : state.Agrees analysis text scope place)
    (action : EditorAct)
    (hread : ∀ document, action.subject? state.server.documents = some document →
      scope document.uri document.version →
      document.text = text document.uri document.version) :
    (state.act host analysis action).1.Agrees analysis text scope place ∧
      (state.act host analysis action).1.server.documents =
        action.documents state.server.documents := by
  have hlive := hagrees.live
  cases action with
  | opens document =>
    rw [act_opens host analysis hlive]
    refine ⟨⟨⟨hlive.asks, hlive.alive⟩, hagrees.faithful, ?_⟩, rfl⟩
    exact hagrees.told.hear fun entry hmem => Documents.mem_openDocument hmem
  | changes params =>
    cases hdocument : params.document? with
    | none =>
      rw [act_changes_nothing host analysis hdocument]
      refine ⟨hagrees, ?_⟩
      simp [EditorAct.documents, hdocument]
    | some document =>
      rw [act_changes host analysis hlive hdocument]
      refine ⟨⟨⟨hlive.asks, hlive.alive⟩, hagrees.faithful, ?_⟩, ?_⟩
      · exact hagrees.told.hear fun entry hmem => Documents.mem_update hmem
      · simp [EditorAct.documents, hdocument, storeChange]
  | closes uri =>
    rw [act_closes host analysis hlive]
    refine ⟨⟨⟨hlive.asks, hlive.alive⟩, hagrees.faithful, ?_⟩, rfl⟩
    intro document hmem hscript
    exact hagrees.told document (List.mem_filter.mp hmem).1 hscript
  | completes params => exact hagrees.completes host params hread

/-- A run keeps the invariant, if no completion meets a version in the scope with another text. -/
theorem Agrees.converse (host : Host Id) (hagrees : state.Agrees analysis text scope place)
    (actions : List EditorAct)
    (hread : ∀ document ∈ state.server.documents.met actions,
      scope document.uri document.version →
      document.text = text document.uri document.version) :
    (state.converse host analysis actions).Agrees analysis text scope place := by
  induction actions generalizing state with
  | nil => exact hagrees
  | cons action later ih =>
    obtain ⟨hnext, hdocuments⟩ := hagrees.act host action (by
      intro document hsubject
      apply hread
      simp [Documents.met, hsubject])
    apply ih hnext
    intro document hmem
    rw [hdocuments] at hmem
    apply hread
    exact List.mem_append_right _ hmem

/-! ## Completions of the current text -/

/-- The analysis is alive and knows the texts of the open scripts, and nothing is remembered yet. -/
structure Ready (state : SequentialState) (place : Nat) : Prop where
  live : state.server.Live place
  hovers : state.server.currentSession.memory.hovers.entries = []
  classes : state.server.currentSession.memory.classes.entries = []
  told : state.server.documents.Told state.texts

/-- A server that has met nothing yet agrees with every analysis. -/
theorem Ready.agrees (hready : state.Ready place) (analysis : Analysis)
    (text : Url → Int → Text) (scope : Url → Int → Prop) :
    state.Agrees analysis text scope place := by
  refine ⟨hready.live, ⟨?_, ?_⟩, hready.told⟩
  · simp [hready.hovers]
  · simp [hready.classes]

/-- After closing and opening a document the server has it as it was opened, and nothing else has
changed. -/
theorem converse_reopen (host : Host Id) (analysis : Analysis) (hlive : state.server.Live place)
    (uri : Url) (document : Snapshot) :
    (state.converse host analysis [.closes uri, .opens document]).server =
      (closing state.server uri).store document := by
  have hclosed : (SequentialState.mk (closing state.server uri) state.texts).server.Live place :=
    ⟨hlive.asks, hlive.alive⟩
  unfold converse
  rw [List.foldl_cons, List.foldl_cons, List.foldl_nil, act_closes host analysis hlive,
    act_opens host analysis hclosed]

/-- **Completions use the current text, as long as versions do.** If no completion before met the
version of the document with another text, then a completion uses the class that is found in the
current text without any memory. If the document is then closed and opened again with the same
version and any text, a completion of the same call uses the class for the text that is gone. -/
theorem completion_uses_current_text (host : Host Id) (analysis : Analysis)
    (state : SequentialState) (place : Nat) (hready : state.Ready place) (actions : List EditorAct)
    (params : CompletionParams) (document : Snapshot) (context : Context)
    (hcompletes : (state.converse host analysis actions).server.Completes params document context)
    (hversion : ∀ former ∈ state.server.documents.met actions, former.uri = document.uri →
      former.version = document.version → former.text = document.text) :
    let now := state.converse host analysis actions
    let next := now.act host analysis (.completes params)
    let className := analysis.classIn now.server.currentSession.settings.classMap document context
    next.2 = some (.result (.arr ((Completion.assemble now.server.kb context className).map
      (Protocol.completionItem document.text)))) ∧
    ∀ (reopened : Snapshot) (params' : CompletionParams) (context' : Context),
      let again := next.1.converse host analysis [.closes document.uri, .opens reopened]
      again.server.Completes params' reopened context' →
      classKey reopened context' = classKey document context →
      context.kind.attributeKind?.isSome = true →
      (again.act host analysis (.completes params')).2 =
        some (.result (.arr ((Completion.assemble now.server.kb context' className).map
          (Protocol.completionItem reopened.text)))) := by
  intro now next className
  -- The scope is the one version of the document, and there all that counts is its current text.
  let text : Url → Int → Text := fun _ _ => document.text
  let scope : Url → Int → Prop := fun uri version =>
    uri = document.uri ∧ version = document.version
  have hagrees : now.Agrees analysis text scope place :=
    (hready.agrees analysis text scope).converse host actions fun former hmem hscope =>
      hversion former hmem hscope.1 hscope.2
  have hscope : InScope scope (classKey document context) := ⟨rfl, rfl⟩
  obtain ⟨last, found, hlast, hact⟩ := hagrees.exists_answered host hcompletes fun _ => rfl
  have hfound : found = className := hlast.found hscope
  subst hfound
  refine ⟨congrArg Prod.snd hact, ?_⟩
  -- Closing and opening leave the memory as it is, and the class is found there.
  intro reopened params' context' again hagain hkey hkind
  have hnext : next = (⟨last, now.texts⟩, _) := hact
  have hlive : next.1.server.Live place := by
    rw [hnext]
    exact hlast.live
  have hserver := converse_reopen host analysis hlive document.uri reopened
  have hremembered : again.server.currentSession.memory.classes.get?
      (classKey reopened context') = some className := by
    rw [hkey, hserver, hnext]
    exact hlast.remembered hscope hkind
  have hkb : again.server.kb = now.server.kb := by
    rw [hserver, hnext]
    dsimp only
    rw [hlast.same]
    rfl
  have hkind' : context'.kind.attributeKind?.isSome = true := by
    rw [show context'.kind = context.kind from congrArg ClassKey.kind hkey]
    exact hkind
  rw [← hkb]
  exact act_completes_remembered host analysis hagain hkind' hremembered

end SequentialState

/-! ## A button that becomes a card -/

namespace Reopening

open Server

/-- The address of a script. -/
def script : Url := { scheme := "file".toList, path := .segments ["main.py".toList] }

/-- A text in which the element is a button. -/
def former : Text := "\nb.props('')".toList

/-- A text in which the element is a card; the call starts at the same offset. -/
def latter : Text := "xb.props('')".toList

/-- An analysis that knows the two texts. -/
def analysis : Analysis where
  hover _ text _ :=
    if text = former then .obj [("contents", .str "(property) props: Props[Self@Button]")]
    else .obj [("contents", .str "(property) props: Props[Self@Card]")]
  understood uri text position := by
    split <;> decide +kernel

/-- Two components with an attribute each. -/
def kb : KnowledgeBase where
  components :=
    .ofList [("qbtn", { props := .ofList [("push", {})] }),
      ("qcard", { props := .ofList [("bordered", {})] })]
  classMap := .ofList [("Button", "qbtn"), ("Card", "qcard")]

/-- A server with one session, in which nothing happened yet. -/
def state : SequentialState where
  server := {
    kb := kb
    connections := [{}]
    sessions := [⟨⟨kb.classMap.entries, false⟩, Resolver.empty Resolver.defaultCapacity, some 0⟩] }
  texts := fun _ => []

/-- A host without files. -/
def host : Host Id := FileTree.host ⟨[], []⟩

/-- A completion request between the quotation marks of the former text. -/
def inFormer : CompletionParams := ⟨⟨script, ⟨1, 9⟩⟩, none⟩

/-- A completion request between the quotation marks of the latter text. -/
def inLatter : CompletionParams := ⟨⟨script, ⟨0, 10⟩⟩, none⟩

/-- What is typed in both texts. -/
def context : Context where
  offset := 10
  kind := .props
  method := some .props
  matched := ".props('".toList
  matchStart := 2
  word := []
  wordSpan := ⟨9, 11⟩
  surround := some []
  surroundSpan := some ⟨10, 10⟩

/-- The former text is completed, then it is changed to the latter. -/
def changing : List EditorAct :=
  [.opens ⟨script, 1, former⟩, .completes inFormer, .changes ⟨script, 2, [latter]⟩]

/-- The former text is completed, then the latter is opened with the same version. -/
def reopening : List EditorAct :=
  [.opens ⟨script, 1, former⟩, .completes inFormer, .closes script, .opens ⟨script, 1, latter⟩]

/-- The label of the first item of a reply. -/
def label? : Option Reply → Option String
  | some (.result (.arr (item :: _))) => (item.get? "label").bind Json.string?
  | _ => none

/-- The server has met nothing yet. -/
theorem ready : state.Ready 0 := by
  refine ⟨⟨rfl, rfl⟩, rfl, rfl, ?_⟩
  intro document hmem
  cases hmem

/-- The change to the latter text is noticed, and so it is not when the former text comes back with
the version of the latter. -/
theorem completion_uses_current_text_changing :
    let now := state.converse host analysis changing
    let next := now.act host analysis (.completes inLatter)
    let again := next.1.converse host analysis [.closes script, .opens ⟨script, 2, former⟩]
    now.server.Completes inLatter ⟨script, 2, latter⟩ context ∧
    again.server.Completes inFormer ⟨script, 2, former⟩ context ∧
    next.2 = some (.result (.arr ((Completion.assemble now.server.kb context (some "qcard")).map
      (Protocol.completionItem latter)))) ∧
    (again.act host analysis (.completes inFormer)).2 =
      some (.result (.arr ((Completion.assemble now.server.kb context (some "qcard")).map
        (Protocol.completionItem former)))) := by
  have hcompletes : (state.converse host analysis changing).server.Completes inLatter
      ⟨script, 2, latter⟩ context :=
    ⟨by decide +kernel, rfl, by decide +kernel, by decide +kernel,
      eq_ok_of_toOption (by decide +kernel)⟩
  have hagain : (((state.converse host analysis changing).act host analysis
      (.completes inLatter)).1.converse host analysis
        [.closes script, .opens ⟨script, 2, former⟩]).server.Completes inFormer
      ⟨script, 2, former⟩ context :=
    ⟨by decide +kernel, rfl, by decide +kernel, by decide +kernel,
      eq_ok_of_toOption (by decide +kernel)⟩
  have hmet : state.server.documents.met changing = [⟨script, 1, former⟩] := by decide +kernel
  have hclass : analysis.classIn
      (state.converse host analysis changing).server.currentSession.settings.classMap
      ⟨script, 2, latter⟩ context = some "qcard" := by decide +kernel
  have hversion : ∀ earlier ∈ state.server.documents.met changing, earlier.uri = script →
      earlier.version = 2 → earlier.text = latter := by
    intro earlier hmem _ hversion
    rw [hmet, List.mem_singleton] at hmem
    rw [hmem] at hversion
    exact absurd hversion (by decide)
  have huses := SequentialState.completion_uses_current_text host analysis state 0 ready changing
    inLatter ⟨script, 2, latter⟩ context hcompletes hversion
  dsimp only at huses ⊢
  rw [hclass] at huses
  obtain ⟨hcurrent, hreopened⟩ := huses
  refine ⟨hcompletes, hagain, hcurrent, ?_⟩
  apply hreopened ⟨script, 2, former⟩ inFormer context hagain
  · simp only [classKey]
  · rfl

/-- A card that is opened with the version of a button is completed as a button, though no change
of an open document kept its version. -/
theorem reopened_completion_uses_former_text :
    let now := state.converse host analysis reopening
    state.Ready 0 ∧ state.server.documents.Increasing (reopening ++ [.completes inLatter]) ∧
    now.server.Completes inLatter ⟨script, 1, latter⟩ context ∧
    (now.act host analysis (.completes inLatter)).2 ≠
      some (.result (.arr ((Completion.assemble now.server.kb context
        (analysis.classIn now.server.currentSession.settings.classMap ⟨script, 1, latter⟩
          context)).map (Protocol.completionItem latter)))) := by
  refine ⟨ready, ?_, ?_, ?_⟩
  · simp [reopening, Documents.Increasing]
  · exact ⟨by decide +kernel, rfl, by decide +kernel, by decide +kernel,
      eq_ok_of_toOption (by decide +kernel)⟩
  · intro hsame
    have hlabel := congrArg label? hsame
    revert hlabel
    decide +kernel

end Reopening

end FluentAssist
