import FluentAssist.Proofs.Completion.HoverAgreement

/-!
# Internal attributes

An attribute that is flagged internal is for the library that defines it and not to be shown. To say
so without naming the places where it could appear, the knowledge base is compared with one from
which all internal attributes are removed (`KnowledgeBase.withoutInternal`): whoever sees the answers
should not be able to tell the two apart.

Three routes lead to a collection. Names are offered from a filtered list, and a hover text is given
for an attribute that is found and not internal; both keep internal attributes to themselves. The
third route, from a word with an equals sign to the values of the attribute before it, finds the
attribute and offers its values without looking at the flag. So `internal_attributes_invisible_iff`
has an exception, and it is exactly this one (`Completion.AsksInternal`).
-/

set_option autoImplicit false

namespace FluentAssist

/-- A component without its internal attributes. -/
def Component.withoutInternal (component : Component) : Component :=
  { component with
    props := component.props.filter fun attr => !attr.internal
    slots := component.slots.filter fun attr => !attr.internal
    events := component.events.filter fun attr => !attr.internal
    methods := component.methods.filter fun attr => !attr.internal }

/-- A knowledge base without internal attributes. -/
def KnowledgeBase.withoutInternal (kb : KnowledgeBase) : KnowledgeBase :=
  { kb with components := kb.components.map Component.withoutInternal }

/-- A component without internal attributes has the others of each kind. -/
theorem Component.attributes_withoutInternal (component : Component) (kind : AttributeKind) :
    component.withoutInternal.attributes kind =
      (component.attributes kind).filter fun attr => !attr.internal := by
  cases kind <;> rfl

namespace KnowledgeBase

variable {kb : KnowledgeBase}

/-- Every component is there without its internal attributes. -/
theorem component?_withoutInternal (kb : KnowledgeBase) (name : String) :
    kb.withoutInternal.component? name =
      (kb.component? name).map Component.withoutInternal :=
  Table.get?_map _ _ _

/-- An attribute is there without the internal ones unless it is internal. -/
theorem attribute?_withoutInternal (className : String)
    (kind : AttributeKind) (key : String) :
    kb.withoutInternal.attribute? className kind key =
      (kb.attribute? className kind key).filter fun attr => !attr.internal := by
  unfold attribute?
  rw [component?_withoutInternal]
  cases hcomponent : kb.component? className with
  | none => rfl
  | some component =>
    show (component.withoutInternal.attributes kind).get? key = _
    rw [component.attributes_withoutInternal]
    exact Table.get?_filter _ _ _

end KnowledgeBase

/-! ## Hover texts -/

namespace Hover

variable {kb : KnowledgeBase}

/-- Hover texts for attributes are the same without the internal ones. -/
theorem ofAttribute?_withoutInternal (context : Context)
    (kind : AttributeKind) (className : Option String) (name : Text) :
    ofAttribute? kb.withoutInternal context kind className name =
      ofAttribute? kb context kind className name := by
  cases className with
  | none => rfl
  | some className =>
    simp only [ofAttribute?, bind, Option.bind_some]
    rw [KnowledgeBase.attribute?_withoutInternal]
    cases kb.attribute? className kind (String.ofList name) with
    | none => rfl
    | some attr => cases hinternal : attr.internal <;> simp [Option.filter, hinternal]

/-- Hover texts are the same without the internal attributes. -/
theorem at?_withoutInternal (context : Context) (className : Option String) :
    at? kb.withoutInternal context className = at? kb context className := by
  unfold at?
  simp only [ofAttribute?_withoutInternal]
  rfl

end Hover

/-! ## Candidates -/

namespace Completion

variable {kb : KnowledgeBase}

/-- The attribute of the element that a key names. -/
def named? (kb : KnowledgeBase) (kind : AttributeKind) (className : Option String) (key : Text) :
    Option Attribute :=
  className.bind fun name => kb.attribute? name kind (String.ofList key)

/-- The word at the cursor asks for the values of an internal attribute, and there are some. The
values of an icon prop are icons and not its own. -/
def AsksInternal (kb : KnowledgeBase) (context : Context) (className : Option String) : Prop :=
  ∃ kind key value attr, context.kind.attributeKind? = some kind ∧
    context.word = key ++ '=' :: value ∧ '=' ∉ key ∧ String.ofList key ∉ iconProps ∧
    named? kb kind className key = some attr ∧ attr.internal = true ∧ attr.literalValues ≠ []

/-- A word with an equals sign asks for an internal attribute exactly if its key names one with
values and no icon prop. -/
theorem asksInternal_iff {context : Context} {kind : AttributeKind} {key value : Text}
    (hkind : context.kind.attributeKind? = some kind)
    (hsplit : Text.splitOnce? '=' context.word = some (key, value)) (className : Option String) :
    AsksInternal kb context className ↔ String.ofList key ∉ iconProps ∧
      ∃ attr, named? kb kind className key = some attr ∧ attr.internal = true ∧
        attr.literalValues ≠ [] := by
  constructor
  · rintro ⟨kind', key', value', attr, hkind', hword', hkey', hicon, hattr, hinternal⟩
    cases hkind.symm.trans hkind'
    have hsplit' := Text.splitOnce?_eq_some_iff.2 ⟨hword', hkey'⟩
    cases hsplit.symm.trans hsplit'
    exact ⟨hicon, attr, hattr, hinternal⟩
  · rintro ⟨hicon, attr, hattr, hinternal⟩
    obtain ⟨hword, hkey⟩ := Text.splitOnce?_eq_some_iff.1 hsplit
    exact ⟨kind, key, value, attr, hkind, hword, hkey, hicon, hattr, hinternal⟩

/-- Names are offered from a list without internal attributes in any case. -/
theorem shownAttributes_withoutInternal (word : Text) (component : Component)
    (kind : AttributeKind) :
    shownAttributes word (component.withoutInternal.attributes kind).entries =
      shownAttributes word (component.attributes kind).entries := by
  unfold shownAttributes
  rw [component.attributes_withoutInternal, Table.entries_filter, List.filter_filter]
  apply List.filter_congr
  rintro ⟨name, attr⟩ -
  cases hinternal : attr.internal <;> simp [hinternal]

/-- Without an equals sign the candidates are the same without the internal attributes. -/
theorem attributeCandidates_of_no_equals (context : Context) (kind : AttributeKind)
    (className : Option String) (hsplit : Text.splitOnce? '=' context.word = none) :
    attributeCandidates kb.withoutInternal context kind className =
      attributeCandidates kb context kind className := by
  have hcomponent : className.bind kb.withoutInternal.component? =
      (className.bind kb.component?).map Component.withoutInternal := by
    cases className with
    | none => rfl
    | some name => exact kb.component?_withoutInternal name
  unfold attributeCandidates
  simp only [hsplit, hcomponent]
  cases className.bind kb.component? with
  | none => rfl
  | some component => simp only [Option.map_some, shownAttributes_withoutInternal]

/-! ## Values -/

/-- The values of a prop that is no icon prop are those of the attribute that the key names. -/
theorem valuesOf?_eq (kb : KnowledgeBase) (kind : AttributeKind) (className : Option String)
    {key : Text} (hicon : String.ofList key ∉ iconProps) :
    valuesOf? kb kind (className.bind kb.component?) (String.ofList key) =
      (named? kb kind className key).map fun attr => attr.literalValues.map String.ofList := by
  have hplain : iconProps.contains (String.ofList key) = false := by simpa using hicon
  unfold valuesOf?
  rw [hplain, if_neg Bool.false_ne_true]
  cases className <;> rfl

/-- The attribute that a key names is there without the internal ones unless it is internal. -/
theorem named?_withoutInternal (kind : AttributeKind)
    (className : Option String) (key : Text) :
    named? kb.withoutInternal kind className key =
      (named? kb kind className key).filter fun attr => !attr.internal := by
  cases className with
  | none => rfl
  | some name => exact KnowledgeBase.attribute?_withoutInternal name kind _

/-- There are no candidates for values exactly if there are no values. -/
theorem valueCandidates_eq_nil_iff {context : Context} {kind : AttributeKind}
    {component : Option Component} {key : Text} :
    valueCandidates kb context kind component key = [] ↔
      (valuesOf? kb kind component (String.ofList key)).getD [] = [] := by
  unfold valueCandidates numbered
  rw [List.mapIdx_eq_nil_iff, List.map_eq_nil_iff]

/-- Candidates for values are made of the values alone. -/
theorem valueCandidates_congr {kb kb' : KnowledgeBase} {context : Context} {kind : AttributeKind}
    {component component' : Option Component} {key : Text}
    (hvalues : valuesOf? kb' kind component' (String.ofList key) =
      valuesOf? kb kind component (String.ofList key)) :
    valueCandidates kb' context kind component' key =
      valueCandidates kb context kind component key := by
  unfold valueCandidates
  rw [hvalues]

/-- The candidates for values are the same without the internal attributes unless the word asks for
one. -/
theorem valueCandidates_withoutInternal_iff {context : Context}
    {kind : AttributeKind} {key value : Text} (hkind : context.kind.attributeKind? = some kind)
    (hsplit : Text.splitOnce? '=' context.word = some (key, value)) (className : Option String) :
    valueCandidates kb.withoutInternal context kind
        (className.bind kb.withoutInternal.component?) key =
      valueCandidates kb context kind (className.bind kb.component?) key ↔
    ¬ AsksInternal kb context className := by
  rw [asksInternal_iff hkind hsplit]
  by_cases hicon : String.ofList key ∈ iconProps
  · -- Both knowledge bases have the same icons.
    refine iff_of_true (valueCandidates_congr ?_) (fun hasks => hasks.1 hicon)
    have hcontains : iconProps.contains (String.ofList key) = true := by simpa using hicon
    unfold valuesOf?
    rw [if_pos hcontains, if_pos hcontains]
    rfl
  have hvalues := valuesOf?_eq kb kind className hicon
  have hpublic := valuesOf?_eq kb.withoutInternal kind className hicon
  rw [named?_withoutInternal] at hpublic
  cases hattr : named? kb kind className key with
  | none =>
    rw [hattr] at hvalues hpublic
    refine iff_of_true (valueCandidates_congr (hpublic.trans hvalues.symm)) ?_
    rintro ⟨-, attr, hsome, -⟩
    cases hsome
  | some attr =>
    rw [hattr] at hvalues hpublic
    cases hinternal : attr.internal with
    | false =>
      simp only [Option.filter_some, hinternal, Bool.not_false, if_true] at hpublic
      refine iff_of_true (valueCandidates_congr (hpublic.trans hvalues.symm)) ?_
      rintro ⟨-, attr', hsome, htrue, -⟩
      cases hsome
      cases hinternal.symm.trans htrue
    | true =>
      -- Nothing is offered for an attribute that is gone.
      have hnone : valueCandidates kb.withoutInternal context kind
          (className.bind kb.withoutInternal.component?) key = [] := by
        rw [valueCandidates_eq_nil_iff, hpublic]
        simp [Option.filter_some, hinternal]
      rw [hnone, eq_comm, valueCandidates_eq_nil_iff, hvalues]
      simp only [Option.map_some, Option.getD_some, List.map_eq_nil_iff]
      constructor
      · rintro hempty ⟨-, attr', hsome, -, hvalues'⟩
        cases hsome
        exact hvalues' hempty
      · intro hasks
        by_contra hnonempty
        exact hasks ⟨hicon, attr, rfl, hinternal, hnonempty⟩

/-- The candidates for attributes are the same without the internal ones unless the word asks for
one. -/
theorem attributeCandidates_withoutInternal_iff {context : Context}
    {kind : AttributeKind} (hkind : context.kind.attributeKind? = some kind)
    (className : Option String) :
    attributeCandidates kb.withoutInternal context kind className =
      attributeCandidates kb context kind className ↔ ¬ AsksInternal kb context className := by
  cases hsplit : Text.splitOnce? '=' context.word with
  | none =>
    refine iff_of_true (attributeCandidates_of_no_equals context kind className hsplit) ?_
    rintro ⟨-, key, value, -, -, hword, -⟩
    rw [Text.splitOnce?_eq_none_iff, hword] at hsplit
    simp at hsplit
  | some parts =>
    obtain ⟨key, value⟩ := parts
    rw [← valueCandidates_withoutInternal_iff hkind hsplit className]
    unfold attributeCandidates
    simp only [hsplit]

/-- **Internal attributes are invisible but for their values.** Take any knowledge base, any context
and the name of a component or none. The hover text is the same as without internal attributes. So
are the candidates, except in one case: the word at the cursor has an equals sign, and the part
before it names an internal attribute that has values and is no icon prop. -/
theorem internal_attributes_invisible_iff (kb : KnowledgeBase) (context : Context)
    (className : Option String) :
    Hover.at? kb.withoutInternal context className = Hover.at? kb context className ∧
    (assemble kb.withoutInternal context className = assemble kb context className ↔
      ¬ AsksInternal kb context className) := by
  refine ⟨Hover.at?_withoutInternal context className, ?_⟩
  cases hkind : context.kind.attributeKind? with
  | none =>
    have hplain : ¬ AsksInternal kb context className := by
      rintro ⟨kind, -, -, -, hattribute, -⟩
      cases hkind.symm.trans hattribute
    have hicons : kb.withoutInternal.icons = kb.icons := rfl
    have hclasses : kb.withoutInternal.utilityClasses = kb.utilityClasses := rfl
    exact iff_of_true (assemble_of_no_attributeKind hkind hicons hclasses _ _) hplain
  | some kind =>
    rw [assemble_of_attributeKind? hkind, assemble_of_attributeKind? hkind]
    exact attributeCandidates_withoutInternal_iff hkind className

/-! ## The place of a button in the order of focus -/

/-- The bundled buttons have an internal attribute. It is typed without values, and nobody sees it.
-/
theorem internal_attributes_invisible_iff_bundled :
    ((KnowledgeBase.bundled.attribute? "qbtn" .props "tabindex").map (·.internal)) = some true ∧
    Cursor.classify (typedProp "tabindex".toList) 17 Cursor.defaultLookback =
      .ok (some (typedContext "tabindex".toList)) ∧
    Hover.at? KnowledgeBase.bundled.withoutInternal (typedContext "tabindex".toList)
        (some "qbtn") =
      Hover.at? KnowledgeBase.bundled (typedContext "tabindex".toList) (some "qbtn") ∧
    ¬ AsksInternal KnowledgeBase.bundled (typedContext "tabindex".toList) (some "qbtn") ∧
    assemble KnowledgeBase.bundled.withoutInternal (typedContext "tabindex".toList)
        (some "qbtn") =
      assemble KnowledgeBase.bundled (typedContext "tabindex".toList) (some "qbtn") := by
  obtain ⟨hhover, hcandidates⟩ := internal_attributes_invisible_iff KnowledgeBase.bundled
    (typedContext "tabindex".toList) (some "qbtn")
  have hplain : ¬ AsksInternal KnowledgeBase.bundled (typedContext "tabindex".toList)
      (some "qbtn") := by
    rintro ⟨-, key, value, -, -, hword, -⟩
    have hequals : '=' ∈ (typedContext "tabindex".toList).word := by
      rw [hword]
      simp
    exact absurd hequals (by decide)
  refine ⟨by decide +kernel, ?_, hhover, hplain, hcandidates.2 hplain⟩
  rw [Cursor.classify_eq (by decide)]
  exact congrArg Except.ok (by decide +kernel)

/-- A button whose internal attribute has a value. -/
def guarded : KnowledgeBase where
  components :=
    .ofList [("qbtn",
      { props := .ofList [("tabindex", { acceptedLiterals := some ["'0'"], internal := true })] })]

/-- The value of the internal attribute is offered behind its equals sign. -/
theorem internal_values_offered :
    Cursor.classify (typedProp "tabindex=".toList) 18 Cursor.defaultLookback =
      .ok (some (typedContext "tabindex=".toList)) ∧
    assemble guarded (typedContext "tabindex=".toList) (some "qbtn") =
      [{ label := "0", kind := some .value }] ∧
    assemble guarded.withoutInternal (typedContext "tabindex=".toList) (some "qbtn") = [] := by
  refine ⟨?_, by decide +kernel, by decide +kernel⟩
  rw [Cursor.classify_eq (by decide)]
  exact congrArg Except.ok (by decide +kernel)

end Completion

end FluentAssist
