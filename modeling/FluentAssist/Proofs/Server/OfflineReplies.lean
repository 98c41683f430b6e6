import FluentAssist.Engine
import FluentAssist.Proofs.Completion.HoverAgreement
import FluentAssist.Proofs.Server.Conversation

/-!
# Replies without a type analysis

The engine answers by itself, without a server and without a type analysis. What it would reply to
an editor is written down here (`Engine.completionReply`, `Engine.hoverReply`), and compared with
the first turn of the server's own work: that turn gives the engine's reply, unless the class of an
element has to be looked up (`Server.completeAt_offline`, `Server.hover_offline`).

A class that the knowledge base does not have is as good as none (`KnowledgeBase.Lacks`).
-/

set_option autoImplicit false

namespace FluentAssist

open Protocol (Reply PlaceParams)

/-- There is no class, or none of the components has its name. -/
def KnowledgeBase.Lacks (kb : KnowledgeBase) (className : Option String) : Prop :=
  className.bind kb.component? = none

/-- Every knowledge base lacks the class that is none. -/
theorem KnowledgeBase.lacks_none (kb : KnowledgeBase) : kb.Lacks none := rfl

/-- A class that the knowledge base lacks adds no candidate. -/
theorem Completion.assemble_of_lacks {kb : KnowledgeBase} {className : Option String}
    (hlacks : kb.Lacks className) (context : Context) :
    assemble kb context className = assemble kb context none := by
  cases hkind : context.kind.attributeKind? with
  | none => exact assemble_of_no_attributeKind hkind rfl rfl _ _
  | some kind =>
    have hcomponent : className.bind kb.component? = none := hlacks
    rw [assemble_of_attributeKind? hkind, assemble_of_attributeKind? hkind]
    unfold attributeCandidates
    rw [hcomponent]
    rfl

/-- A class that the knowledge base lacks adds nothing to a hover text. -/
theorem Hover.at?_of_lacks {kb : KnowledgeBase} {className : Option String}
    (hlacks : kb.Lacks className) (context : Context) :
    at? kb context className = at? kb context none := by
  have hattribute : ∀ kind name, ofAttribute? kb context kind className name =
      ofAttribute? kb context kind none name := by
    intro kind name
    rw [ofAttribute?_of_no_component hlacks]
    rfl
  unfold at?
  simp only [hattribute]

/-! ## What the engine replies -/

namespace Engine

/-- Candidates as a reply: the list of their items. -/
def completionResult (text : Text) : Except WindowFault (List Candidate) → Reply
  | .ok candidates => .result (.arr (candidates.map (Protocol.completionItem text)))
  | .error _ => .refused .internal

/-- What the engine replies to a completion request: nothing at a place without a context and
without the name of an element function, else its candidates. -/
def completionReply (engine : Engine) (text : Text) (offset : Nat) : Reply :=
  if Cursor.uiFunction? text offset = none ∧ engine.context text offset = .ok none then
    .result .null
  else completionResult text (engine.complete text offset)

/-- A hover text as a reply, which is nothing if there is none. -/
def hoverResult (text : Text) : Except WindowFault (Option HoverInfo) → Reply
  | .ok none => .result .null
  | .ok (some info) => .result (Protocol.hover text info)
  | .error _ => .refused .internal

/-- What the engine replies to a hover request. -/
def hoverReply (engine : Engine) (text : Text) (offset : Nat) : Reply :=
  hoverResult text (engine.hover text offset)

variable {engine : Engine} {text : Text} {offset : Nat}

/-- The engine replies with nothing exactly at a place without a context and without the name of an
element function. -/
theorem completionReply_eq_null_iff :
    engine.completionReply text offset = .result .null ↔
      Cursor.uiFunction? text offset = none ∧ engine.context text offset = .ok none := by
  unfold completionReply
  split
  · next hplain => exact iff_of_true rfl hplain
  · next htyped =>
    refine iff_of_false ?_ htyped
    cases engine.complete text offset with
    | ok candidates => simp [completionResult]
    | error fault => simp [completionResult]

/-- At the name of an element function the engine replies with the functions. -/
theorem completionReply_of_name {ui : UiContext}
    (hname : Cursor.uiFunction? text offset = some ui) :
    engine.completionReply text offset =
      .result (.arr ((Completion.uiFunctions engine.kb ui).map
        (Protocol.completionItem text))) := by
  have hcomplete : engine.complete text offset = .ok (Completion.uiFunctions engine.kb ui) := by
    unfold complete completeFor?
    rw [hname]
    rfl
  unfold completionReply
  rw [if_neg (by simp [hname]), hcomplete]
  rfl

/-- In a context the engine replies with the candidates for no class. -/
theorem completionReply_of_context {context : Context}
    (hname : Cursor.uiFunction? text offset = none)
    (hcontext : engine.context text offset = .ok (some context)) :
    engine.completionReply text offset =
      .result (.arr ((Completion.assemble engine.kb context none).map
        (Protocol.completionItem text))) := by
  have hcomplete : engine.complete text offset =
      .ok (Completion.assemble engine.kb context none) := by
    unfold complete completeFor?
    rw [hname, hcontext]
    rfl
  unfold completionReply
  rw [if_neg (by simp [hcontext]), hcomplete]
  rfl

/-- Where the window has no start the engine's completion fails. -/
theorem completionReply_of_fault {fault : WindowFault}
    (hname : Cursor.uiFunction? text offset = none)
    (hcontext : engine.context text offset = .error fault) :
    engine.completionReply text offset = .refused .internal := by
  have hcomplete : engine.complete text offset = .error fault := by
    unfold complete completeFor?
    rw [hname, hcontext]
    rfl
  unfold completionReply
  rw [if_neg (by simp [hcontext]), hcomplete]
  rfl

/-- Without a context the engine has no hover text. -/
theorem hoverReply_of_none (hcontext : engine.context text offset = .ok none) :
    engine.hoverReply text offset = .result .null := by
  unfold hoverReply hover hoverFor?
  rw [hcontext]
  rfl

/-- In a context the engine replies with the hover text for no class. -/
theorem hoverReply_of_context {context : Context}
    (hcontext : engine.context text offset = .ok (some context)) :
    engine.hoverReply text offset =
      .result (.ofOption (Protocol.hover text) (Hover.at? engine.kb context none)) := by
  have hhover : engine.hover text offset = .ok (Hover.at? engine.kb context none) := by
    unfold hover hoverFor?
    rw [hcontext]
    rfl
  unfold hoverReply
  rw [hhover]
  cases Hover.at? engine.kb context none <;> rfl

/-- Where the window has no start the engine's hover fails. -/
theorem hoverReply_of_fault {fault : WindowFault}
    (hcontext : engine.context text offset = .error fault) :
    engine.hoverReply text offset = .refused .internal := by
  unfold hoverReply hover hoverFor?
  rw [hcontext]
  rfl

end Engine

/-! ## The first turn of the server -/

namespace Server

/-- The engine with the tables and the window of a server. -/
def engine (server : Server) : Engine := ⟨server.kb, server.settings.completion.lookback⟩

/-- A completion gets the engine's reply at once, unless it has a context. -/
theorem completeAt_offline (server : Server) (signal : CancelSignal) (document : Snapshot)
    (offset : Nat) :
    (∃ context, Cursor.uiFunction? document.text offset = none ∧
      server.engine.context document.text offset = .ok (some context)) ∨
    server.completeAt signal document offset =
      .done server (server.engine.completionReply document.text offset) := by
  unfold completeAt
  -- Named, so that nothing tries to compute them.
  generalize hname : Cursor.uiFunction? document.text offset = name
  generalize hfound : Cursor.classify document.text offset server.settings.completion.lookback =
    found
  have hcontext : server.engine.context document.text offset = found := hfound
  cases name with
  | some ui =>
    rw [Engine.completionReply_of_name hname]
    exact Or.inr rfl
  | none =>
    cases found with
    | error fault =>
      rw [Engine.completionReply_of_fault hname hcontext]
      exact Or.inr rfl
    | ok place =>
      cases place with
      | none =>
        rw [Engine.completionReply_eq_null_iff.mpr ⟨hname, hcontext⟩]
        exact Or.inr rfl
      | some context => exact Or.inl ⟨context, rfl, hcontext⟩

/-- A hover request that needs the class of an element. -/
structure Hovers (server : Server) (place : PlaceParams) (document : Snapshot)
    (context : Context) (kind : AttributeKind) : Prop where
  script : place.uri.isScript = true
  isOpen : server.documents.snapshot? place.uri = some document
  classified : server.engine.context document.text
    (Text.offsetAt document.text place.position) = .ok (some context)
  word : context.word ≠ []
  kind_eq : context.kind.attributeKind? = some kind

/-- The server after a hover request has superseded the one before. -/
def hovering (server : Server) (uri : Url) : Server :=
  { server with hovers := (server.hovers.start uri).1 }

variable {server : Server} {place : PlaceParams} {document : Snapshot}

/-- A hover request gets the engine's reply at once, unless it needs the class of an element. -/
theorem hover_offline (hscript : place.uri.isScript = true)
    (hopen : server.documents.snapshot? place.uri = some document) :
    (∃ context kind, server.Hovers place document context kind) ∨
    server.hover place = .done server
      (server.engine.hoverReply document.text (Text.offsetAt document.text place.position)) := by
  unfold hover
  rw [if_pos hscript, hopen]
  dsimp only
  generalize hfound : Cursor.classify document.text
    (Text.offsetAt document.text place.position) server.settings.completion.lookback = found
  have hcontext : server.engine.context document.text
      (Text.offsetAt document.text place.position) = found := hfound
  match found with
  | .error fault =>
    rw [Engine.hoverReply_of_fault hcontext]
    exact Or.inr rfl
  | .ok none =>
    rw [Engine.hoverReply_of_none hcontext]
    exact Or.inr rfl
  | .ok (some context) =>
    rw [Engine.hoverReply_of_context hcontext]
    unfold hoverFound hoverIn
    by_cases hword : context.word = []
    · have hnone : Hover.at? server.engine.kb context none = none := by
        unfold Hover.at?
        rw [if_pos (by simp [hword])]
      rw [hnone]
      simp only [hword, List.isEmpty_nil, if_true]
      exact Or.inr rfl
    · cases hkind : context.kind.attributeKind? with
      | none =>
        simp only [List.isEmpty_iff, hword, if_false, hkind]
        exact Or.inr rfl
      | some kind => exact Or.inl ⟨context, kind, hscript, hopen, hcontext, hword, hkind⟩

/-- A hover request that needs the class of an element looks it up. -/
theorem Hovers.hover_eq {context : Context} {kind : AttributeKind}
    (hhovers : server.Hovers place document context kind) :
    server.hover place =
      afterHoverLookup (server.hovers.start place.uri).2 document.text context
        ((server.hovering place.uri).lookup
          ((server.hovers.start place.uri).2.isCancelled (server.hovering place.uri).hovers)
          ⟨document, context.kind, context.matchStart⟩) := by
  have huri : document.uri = place.uri := (uri_of_snapshot? hhovers.isOpen).1
  have hclassified : Cursor.classify document.text
      (Text.offsetAt document.text place.position) server.settings.completion.lookback =
      .ok (some context) := hhovers.classified
  unfold hover
  rw [if_pos hhovers.script, hhovers.isOpen]
  dsimp only
  rw [hclassified]
  unfold hoverFound hoverIn
  dsimp only
  rw [if_neg (by simpa using hhovers.word), hhovers.kind_eq, huri]
  rfl

end Server

end FluentAssist
