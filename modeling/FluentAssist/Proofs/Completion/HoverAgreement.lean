import FluentAssist.Hover
import FluentAssist.Knowledge.Bundled
import FluentAssist.Proofs.Cursor.Line
import FluentAssist.Proofs.Cursor.Window
import FluentAssist.Proofs.Text.Search

/-!
# Hover texts agree with candidates

A hover text looks an attribute up under the word at the cursor. Completion walks through the
collection instead: it leaves internal attributes out, keeps the names that contain the word, and
falls back to generic names when the component is not known. For a word without an equals sign both
know the same attribute, or neither knows one.

`hover_iff_documented` states this through candidates only. A hover text is there exactly if a
candidate with documentation has the word as its label; no other candidate then has this label, and
the text says what the candidate shows beside it (`Candidate.hoverText`).
-/

set_option autoImplicit false

namespace FluentAssist

/-- What a hover text says of a candidate: its label, its description and its documentation, as far
as it has them. -/
def Candidate.hoverText (item : Candidate) : Text :=
  let description := match item.description with
    | some description => "\n\n\x60".toList ++ description.toList ++ ['\x60']
    | none => []
  let documentation := match item.documentation with
    | none | some [] => []
    | some body => "\n\n".toList ++ body
  "**".toList ++ item.label.toList ++ "**".toList ++ description ++ documentation

namespace Text

/-- Every text contains itself. -/
theorem contains_self (text : Text) : contains text text = true :=
  contains_iff_infix.2 List.infix_rfl

end Text

namespace Completion

/-! ## Numbered candidates -/

/-- A numbered candidate is one of the candidates but for its number. -/
theorem mem_numbered {candidates : List Candidate} {item : Candidate}
    (hmem : item ∈ numbered candidates) :
    ∃ candidate ∈ candidates, ∃ i, item = { candidate with sortPriority := i } := by
  obtain ⟨i, hi, rfl⟩ := List.mem_mapIdx.1 hmem
  exact ⟨candidates[i], List.getElem_mem hi, i, rfl⟩

/-- Every candidate is numbered. -/
theorem exists_numbered {candidates : List Candidate} {candidate : Candidate}
    (hmem : candidate ∈ candidates) :
    ∃ i, { candidate with sortPriority := i } ∈ numbered candidates := by
  obtain ⟨i, hi, rfl⟩ := List.getElem_of_mem hmem
  exact ⟨i, List.mem_mapIdx.2 ⟨i, hi, rfl⟩⟩

/-- Where labels are distinct, a candidate is the only one with its label. -/
theorem filter_label_eq_singleton {candidates : List Candidate} {item : Candidate}
    (hnodup : (candidates.map (·.label)).Nodup) (hmem : item ∈ candidates) :
    candidates.filter (fun other => other.label = item.label) = [item] := by
  induction candidates with
  | nil => cases hmem
  | cons first rest ih =>
    rw [List.map_cons, List.nodup_cons] at hnodup
    obtain ⟨hfresh, hnodup⟩ := hnodup
    rcases List.mem_cons.1 hmem with rfl | hmem
    · have hothers : rest.filter (fun other => other.label = item.label) = [] := by
        rw [List.filter_eq_nil_iff]
        intro other hother hlabel
        exact hfresh (List.mem_map.2 ⟨other, hother, of_decide_eq_true hlabel⟩)
      rw [List.filter_cons_of_pos (by simp), hothers]
    · have hne : ¬ first.label = item.label := by
        intro hlabel
        exact hfresh (List.mem_map.2 ⟨item, hmem, hlabel.symm⟩)
      rw [List.filter_cons_of_neg (by simpa using hne)]
      exact ih hnodup hmem

/-! ## The attributes of a component -/

/-- Under a word an attribute is shown exactly if it is found there and is not internal. -/
theorem mem_shownAttributes_iff {attributes : Table Attribute} {word : Text} {attr : Attribute} :
    (String.ofList word, attr) ∈ shownAttributes word attributes.entries ↔
      attributes.get? (String.ofList word) = some attr ∧ attr.internal = false := by
  unfold shownAttributes
  rw [List.mem_filter, Table.get?_eq_some_iff]
  simp [Text.contains_self]

/-- The candidates of a known component, under a word without an equals sign. -/
def componentCandidates (context : Context) (kind : AttributeKind) (component : Component) :
    List Candidate :=
  numbered ((shownAttributes context.word (component.attributes kind).entries).map
    fun (name, attr) => attributeCandidate name attr kind context)

/-- Without an equals sign the candidates are those of the component. -/
theorem attributeCandidates_of_component {kb : KnowledgeBase} {context : Context}
    {className : Option String} {component : Component} (hequals : '=' ∉ context.word)
    (hcomponent : className.bind kb.component? = some component) (kind : AttributeKind) :
    attributeCandidates kb context kind className =
      componentCandidates context kind component := by
  unfold attributeCandidates
  simp only [Text.splitOnce?_eq_none_iff.2 hequals, hcomponent]
  rfl

/-- The candidates of a component have different labels. -/
theorem nodup_labels_componentCandidates (component : Component) (context : Context)
    (kind : AttributeKind) :
    ((componentCandidates context kind component).map (·.label)).Nodup := by
  unfold componentCandidates
  rw [labels_numbered, List.map_map]
  exact (component.attributes kind).nodup.sublist (List.filter_sublist.map Prod.fst)

/-- What stands beside an attribute in its hover text stands beside its candidate. -/
theorem hoverText_attributeCandidate (name : String) (attr : Attribute) (kind : AttributeKind)
    (context : Context) (i : Nat) :
    { attributeCandidate name attr kind context with sortPriority := i }.hoverText =
      Hover.attributeText name.toList attr := by
  unfold Candidate.hoverText Hover.attributeText attributeCandidate
  cases Documentation.ofAttribute attr <;> rfl

end Completion

namespace Hover

variable {kb : KnowledgeBase} {context : Context} {className : Option String}

/-- With a component there is a hover text for its attributes that are not internal, and for nothing
else. -/
theorem ofAttribute?_of_component {component : Component}
    (hcomponent : className.bind kb.component? = some component) (kind : AttributeKind)
    (name : Text) {info : HoverInfo} :
    ofAttribute? kb context kind className name = some info ↔
      ∃ attr, (component.attributes kind).get? (String.ofList name) = some attr ∧
        attr.internal = false ∧
        info = ⟨attributeText name attr,
          ⟨context.wordSpan.start, context.wordSpan.start + Text.bytes name⟩⟩ := by
  obtain ⟨className, rfl, hfound⟩ := Option.bind_eq_some_iff.1 hcomponent
  simp only [ofAttribute?, KnowledgeBase.attribute?, hfound, bind, Option.bind_some]
  cases (component.attributes kind).get? (String.ofList name) with
  | none => simp
  | some attr =>
    cases hinternal : attr.internal with
    | true => simp [hinternal]
    | false =>
      constructor
      · intro hinfo
        simp only [Option.bind_some, hinternal, Bool.false_eq_true, if_false] at hinfo
        exact ⟨attr, rfl, hinternal, (Option.some.inj hinfo).symm⟩
      · rintro ⟨attr', hattr, -, rfl⟩
        cases hattr
        simp [hinternal]

/-- Without a component there is no hover text for an attribute. -/
theorem ofAttribute?_of_no_component (hcomponent : className.bind kb.component? = none)
    (kind : AttributeKind) (name : Text) : ofAttribute? kb context kind className name = none := by
  cases className with
  | none => rfl
  | some className =>
    have hfound : kb.component? className = none := hcomponent
    simp [ofAttribute?, KnowledgeBase.attribute?, hfound]

/-- Without an equals sign the word is the name of an attribute. -/
theorem at?_of_no_equals {kind : AttributeKind} (hkind : context.kind.attributeKind? = some kind)
    (hword : context.word ≠ []) (hequals : '=' ∉ context.word) :
    at? kb context className = ofAttribute? kb context kind className context.word := by
  have hicons : context.kind ≠ .icons := by
    intro hicons
    rw [hicons] at hkind
    cases hkind
  unfold at?
  rw [if_neg (by simpa using hword), if_neg hicons]
  simp only [hkind, Text.splitOnce?_eq_none_iff.2 hequals]

end Hover

namespace Completion

variable {kb : KnowledgeBase} {context : Context} {className : Option String}
variable {kind : AttributeKind} {component : Component}

/-- Generic names carry no documentation. -/
theorem documentation_of_mem_plainCandidates {entries : List String} {word : Text}
    {range : Option Span} {shape : Option CandidateKind} {item : Candidate}
    (hmem : item ∈ plainCandidates entries word range shape) : item.documentation = none := by
  obtain ⟨candidate, hcandidate, i, rfl⟩ := mem_numbered hmem
  obtain ⟨entry, -, rfl⟩ := List.mem_map.1 hcandidate
  rfl

/-- A candidate of a known component whose label is the word, and what is shown for the word. -/
theorem at?_of_mem_componentCandidates {item : Candidate}
    (hcomponent : className.bind kb.component? = some component)
    (hitem : item ∈ componentCandidates context kind component)
    (hlabel : item.label.toList = context.word) :
    Hover.ofAttribute? kb context kind className context.word =
      some ⟨item.hoverText,
        ⟨context.wordSpan.start, context.wordSpan.start + Text.bytes context.word⟩⟩ := by
  obtain ⟨candidate, hcandidate, i, rfl⟩ := mem_numbered hitem
  obtain ⟨⟨name, attr⟩, hshown, rfl⟩ := List.mem_map.1 hcandidate
  have hname : name = String.ofList context.word := by
    rw [← hlabel]
    exact String.ofList_toList.symm
  rw [hname, mem_shownAttributes_iff] at hshown
  rw [Hover.ofAttribute?_of_component hcomponent, hoverText_attributeCandidate, hname,
    String.toList_ofList]
  exact ⟨attr, hshown.1, hshown.2, rfl⟩

/-- An attribute with a hover text is a candidate with documentation. -/
theorem exists_componentCandidate
    (hcomponent : className.bind kb.component? = some component)
    (hsome : (Hover.ofAttribute? kb context kind className context.word).isSome) :
    ∃ item ∈ componentCandidates context kind component,
      item.label.toList = context.word ∧ item.documentation.isSome := by
  obtain ⟨info, hinfo⟩ := Option.isSome_iff_exists.1 hsome
  rw [Hover.ofAttribute?_of_component hcomponent] at hinfo
  obtain ⟨attr, hlookup, hinternal, -⟩ := hinfo
  have hshown := mem_shownAttributes_iff.2 ⟨hlookup, hinternal⟩
  obtain ⟨i, hi⟩ := exists_numbered (List.mem_map_of_mem hshown)
  exact ⟨_, hi, String.toList_ofList, rfl⟩

/-- **Hover texts and candidates agree.** Take the context of a cursor in the props, slots, events
or methods of an element, whose word is there and has no equals sign. There is a hover text exactly
if some candidate has the word as its label and carries documentation. No other candidate then has
this label; the hover text is the candidate's and belongs to the word, at the place where it stands.
-/
theorem hover_iff_documented (kb : KnowledgeBase) (className : Option String)
    {text : Text} {offset lookback : Nat}
    (hclassify : Cursor.classify text offset lookback = .ok (some context))
    (hkind : context.kind ∈ [.props, .slots, .events, .methods])
    (hword : context.word ≠ []) (hequals : '=' ∉ context.word) :
    ((Hover.at? kb context className).isSome ↔
      ∃ item ∈ assemble kb context className,
        item.label.toList = context.word ∧ item.documentation.isSome) ∧
    ∀ item ∈ assemble kb context className,
      item.label.toList = context.word → item.documentation.isSome →
        (assemble kb context className).filter (fun other => other.label = item.label) = [item] ∧
        Hover.at? kb context className = some ⟨item.hoverText, context.wordSpan⟩ ∧
        context.wordSpan.Holds text context.word := by
  obtain ⟨kind, hkind⟩ : ∃ kind, context.kind.attributeKind? = some kind := by
    cases hcontext : context.kind <;> simp_all [ContextKind.attributeKind?]
  have hholds : context.wordSpan.Holds text context.word :=
    ((Cursor.classify_placed hclassify).word_holds hword).holds
  rw [Hover.at?_of_no_equals hkind hword hequals, assemble_of_attributeKind? hkind]
  cases hcomponent : className.bind kb.component? with
  | none =>
    -- Only generic names are offered, and there is no hover text.
    have hplain : ∀ item ∈ attributeCandidates kb context kind className,
        item.documentation = none := by
      intro item hitem
      simp only [attributeCandidates, Text.splitOnce?_eq_none_iff.2 hequals, hcomponent] at hitem
      exact documentation_of_mem_plainCandidates hitem
    rw [Hover.ofAttribute?_of_no_component hcomponent]
    refine ⟨iff_of_false (by simp) ?_, ?_⟩
    · rintro ⟨item, hitem, -, hdocumentation⟩
      rw [hplain item hitem] at hdocumentation
      cases hdocumentation
    · intro item hitem _ hdocumentation
      rw [hplain item hitem] at hdocumentation
      cases hdocumentation
  | some component =>
    rw [attributeCandidates_of_component hequals hcomponent]
    refine ⟨⟨exists_componentCandidate hcomponent, ?_⟩, ?_⟩
    · rintro ⟨item, hitem, hlabel, -⟩
      rw [at?_of_mem_componentCandidates hcomponent hitem hlabel]
      rfl
    · intro item hitem hlabel _
      refine ⟨filter_label_eq_singleton
        (nodup_labels_componentCandidates component context kind) hitem, ?_, hholds⟩
      rw [at?_of_mem_componentCandidates hcomponent hitem hlabel, ← hholds.stop_eq]

/-! ## A prop that is typed on a button -/

/-- A prop that is typed on an element. -/
def typedProp (word : Text) : Text := "b.props('".toList ++ word ++ "')".toList

/-- The context of a cursor behind the prop. -/
def typedContext (word : Text) : Context where
  offset := 9 + word.length
  kind := .props
  method := some .props
  matched := ".props('".toList ++ word
  matchStart := 1
  word := word
  wordSpan := ⟨9, 9 + word.length⟩
  surround := some word
  surroundSpan := some ⟨9, 9 + word.length⟩

/-- Two props of the bundled buttons contain the word, and one of them is meant. -/
theorem hover_iff_documented_icon :
    Cursor.classify (typedProp "icon".toList) 13 Cursor.defaultLookback =
      .ok (some (typedContext "icon".toList)) ∧
    ((assemble KnowledgeBase.bundled (typedContext "icon".toList) (some "qbtn")).map
      (·.label)) = ["icon", "icon-right"] ∧
    ∃ item ∈ assemble KnowledgeBase.bundled (typedContext "icon".toList) (some "qbtn"),
      item.label.toList = "icon".toList ∧
      (assemble KnowledgeBase.bundled (typedContext "icon".toList) (some "qbtn")).filter
        (fun other => other.label = item.label) = [item] ∧
      Hover.at? KnowledgeBase.bundled (typedContext "icon".toList) (some "qbtn") =
        some ⟨item.hoverText, ⟨9, 13⟩⟩ ∧
      Span.Holds ⟨9, 13⟩ (typedProp "icon".toList) "icon".toList := by
  have hclassify : Cursor.classify (typedProp "icon".toList) 13 Cursor.defaultLookback =
      .ok (some (typedContext "icon".toList)) := by
    rw [Cursor.classify_eq (by decide)]
    exact congrArg Except.ok (by decide +kernel)
  obtain ⟨hiff, hitems⟩ := hover_iff_documented KnowledgeBase.bundled (some "qbtn")
    hclassify (by decide) (by decide) (by decide)
  obtain ⟨item, hitem, hlabel, hdocumentation⟩ := hiff.1 (by decide +kernel)
  exact ⟨hclassify, by decide +kernel, item, hitem, hlabel,
    hitems item hitem hlabel hdocumentation⟩

end Completion

end FluentAssist
