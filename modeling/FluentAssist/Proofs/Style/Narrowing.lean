import FluentAssist.Proofs.Style.Declaration

/-!
# Typing more narrows what is offered

A candidate is offered if its lower-case form contains the lower-case form of what is typed. Typing
on makes the typed text longer, but its lower-case form need not become longer at its end only: a
capital sigma at the end of a word is lowered to another letter than one before a letter. So two
cases are kept apart. Up to a capital sigma lower-casing works character by character, and a longer
text has a longer lower-case form. With a capital sigma a small one is sought, of either form, and
the catalog has none: nothing is offered, before and after.
-/

set_option autoImplicit false

namespace FluentAssist

/-! ## Lower case -/

namespace Text

/-- Without a capital sigma characters are lowered one by one. -/
theorem lowerAfter_append {text : Text} (h : 'Σ' ∉ text) (before more : Text) :
    lowerAfter before (text ++ more) =
      text.flatMap lowerChar ++ lowerAfter (text.reverse ++ before) more := by
  induction text generalizing before with
  | nil => rfl
  | cons c rest ih =>
    rw [List.mem_cons, not_or] at h
    rw [List.cons_append, lowerAfter, if_neg (Ne.symm h.1), ih h.2, List.flatMap_cons,
      List.append_assoc, List.reverse_cons, List.append_assoc]
    rfl

/-- Without the one letter whose lower case depends on its place, a text is put into lower case
character by character. -/
theorem lower_eq_flatMap {text : Text} (h : 'Σ' ∉ text) :
    lower text = text.flatMap lowerChar := by
  have happend := lowerAfter_append h [] []
  rw [List.append_nil] at happend
  rw [lower, happend, lowerAfter, List.append_nil]

/-- Text without a capital sigma begins the lower-case form of all that it begins. -/
theorem lower_prefix_lower_append {text : Text} (h : 'Σ' ∉ text) (more : Text) :
    lower text <+: lower (text ++ more) := by
  rw [lower_eq_flatMap h, lower, lowerAfter_append h]
  exact List.prefix_append _ _

/-- A capital sigma is lowered to a small one. -/
theorem exists_sigma_mem_lowerAfter {text : Text} (h : 'Σ' ∈ text) (before : Text) :
    ∃ c ∈ lowerAfter before text, c = 'σ' ∨ c = 'ς' := by
  induction text generalizing before with
  | nil => cases h
  | cons c rest ih =>
    rw [lowerAfter]
    by_cases hc : c = 'Σ'
    · refine ⟨lowerSigma before rest, ?_, ?_⟩
      · simp [hc]
      · unfold lowerSigma
        split
        · exact .inr rfl
        · exact .inl rfl
    · have hrest : 'Σ' ∈ rest := (List.mem_cons.1 h).resolve_left (Ne.symm hc)
      obtain ⟨d, hd, hsigma⟩ := ih hrest (c :: before)
      exact ⟨d, List.mem_append_right _ hd, hsigma⟩

/-- Whether a text has ASCII characters only. -/
def isAscii (text : Text) : Bool := text.all fun c => c.toNat < 128

/-- Lower case keeps ASCII characters in ASCII. -/
theorem toNat_toLower_lt {c : Char} (h : c.toNat < 128) : c.toLower.toNat < 128 := by
  unfold Char.toLower
  split
  · next hupper =>
    have hle : c.val.toNat ≤ 90 := UInt32.le_iff_toNat_le.1 hupper.2
    have hshift : ('a'.val - 'A'.val).toNat = 32 := rfl
    show (c.val + ('a'.val - 'A'.val)).toNat < 128
    rw [UInt32.toNat_add, hshift]
    omega
  · exact h

/-- The lower-case form of an ASCII text is one. -/
theorem isAscii_lower {text : Text} (h : isAscii text = true) : isAscii (lower text) = true := by
  simp only [isAscii, List.all_eq_true, decide_eq_true_eq] at h ⊢
  have hsigma : 'Σ' ∉ text := fun hmem => absurd (h _ hmem) (by decide)
  rw [lower_eq_flatMap hsigma]
  intro c hc
  obtain ⟨d, hd, hmem⟩ := List.mem_flatMap.1 hc
  rw [lowerChar, if_pos (h d hd), List.mem_singleton] at hmem
  rw [hmem]
  exact toNat_toLower_lt (h d hd)

/-- More text behind a text is trimmed away only if the text is all white space. -/
theorem trimStart_append_cases (text more : Text) :
    trimStart text = [] ∨ trimStart (text ++ more) = trimStart text ++ more := by
  by_cases h : trimStart text = []
  · exact .inl h
  · rw [trimStart, trimStart, List.dropWhile_append, if_neg]
    · exact .inr rfl
    · rw [List.isEmpty_iff]
      exact h

end Text

namespace Style

/-! ## What is offered -/

/-- The labels of the catalog for a mode. -/
def offer : Mode → List String
  | .property => properties
  | .value name => valuesFor (String.ofList name)

/-- The labels of a position are those labels of its mode that what is typed lets through. -/
theorem labels_eq (position : StylePosition) :
    labels position = (offer position.mode).filter (isOffered position.typed) := by
  unfold labels offer
  cases position.mode <;> rfl

/-- Every label that is ever offered is ASCII. -/
theorem isAscii_of_mem_offer (mode : Mode) {label : String} (h : label ∈ offer mode) :
    Text.isAscii label.toList = true := by
  have hproperties : properties.all (Text.isAscii ·.toList) = true := by decide +kernel
  have hcommon : commonValues.all (Text.isAscii ·.toList) = true := by decide +kernel
  have hvalues : propertyValues.all (fun entry => entry.2.all (Text.isAscii ·.toList)) = true := by
    decide +kernel
  cases mode with
  | property => exact List.all_eq_true.1 hproperties label h
  | value name =>
    simp only [offer, valuesFor] at h
    cases hlookup : propertyValues.lookup (String.ofList name) with
    | none =>
      rw [hlookup] at h
      exact List.all_eq_true.1 hcommon label h
    | some values =>
      rw [hlookup] at h
      obtain ⟨front, back, hentry, -⟩ := List.lookup_eq_some_iff.1 hlookup
      have hmem : (String.ofList name, values) ∈ propertyValues := by simp [hentry]
      exact List.all_eq_true.1 (List.all_eq_true.1 hvalues _ hmem) label h

/-- A label is let through if what is typed occurs in it, both in lower case. -/
theorem isOffered_iff {typed : Text} {label : String} :
    isOffered typed label = true ↔ Text.lower typed <:+: Text.lower label.toList := by
  rw [isOffered, Bool.or_eq_true, Text.contains_iff_infix, List.isEmpty_iff]
  constructor
  · rintro (hnil | hinfix)
    · rw [hnil]
      exact List.nil_infix
    · exact hinfix
  · exact Or.inr

/-- What is offered for a longer text is offered for its beginning, if it has ASCII characters
only. -/
theorem isOffered_of_append {typed more : Text} {label : String}
    (hlabel : Text.isAscii label.toList = true) (h : isOffered (typed ++ more) label = true) :
    isOffered typed label = true := by
  rw [isOffered_iff] at h ⊢
  by_cases hsigma : 'Σ' ∈ typed
  · -- A small sigma would stand in the label.
    obtain ⟨c, hc, hsmall⟩ :=
      Text.exists_sigma_mem_lowerAfter (List.mem_append_left more hsigma) []
    have hascii := List.all_eq_true.1 (Text.isAscii_lower hlabel) c (h.subset hc)
    rcases hsmall with rfl | rfl
    · exact absurd hascii (by decide)
    · exact absurd hascii (by decide)
  · exact (Text.lower_prefix_lower_append hsigma more).isInfix.trans h

/-- Of the catalog, less is offered for a longer text. -/
theorem labels_sublist {position position' : StylePosition} {more : Text}
    (hmode : position'.mode = position.mode)
    (htyped : position.typed = [] ∨ position'.typed = position.typed ++ more) :
    List.Sublist (labels position') (labels position) := by
  have hoffered : ∀ label ∈ offer position.mode,
      isOffered position'.typed label = true → isOffered position.typed label = true := by
    intro label hlabel h
    rcases htyped with hnil | htyped
    · rw [hnil]
      rfl
    · rw [htyped] at h
      exact isOffered_of_append (isAscii_of_mem_offer position.mode hlabel) h
  have hnarrow : (offer position.mode).filter (isOffered position'.typed) =
      ((offer position.mode).filter (isOffered position.typed)).filter
        (isOffered position'.typed) := by
    rw [List.filter_filter]
    apply List.filter_congr
    intro label hlabel
    cases h : isOffered position'.typed label with
    | false => rfl
    | true => rw [hoffered label hlabel h, Bool.and_self]
  rw [labels_eq, labels_eq, hmode, hnarrow]
  exact List.filter_sublist

/-! ## Going on with a declaration -/

/-- A longer part of a declaration has the same mode, unless a first colon was typed, and the typed
text goes on with what was added. -/
theorem readSegment_append {part more : Text} (hcolon : ':' ∉ more ∨ ':' ∈ part) :
    (readSegment (part ++ more)).1 = (readSegment part).1 ∧
      ((readSegment part).2 = [] ∨
        (readSegment (part ++ more)).2 = (readSegment part).2 ++ more) := by
  rcases colon_cases part with hpart | ⟨name, value, rfl, hname⟩
  · have hmore : ':' ∉ part ++ more := by
      rw [List.mem_append, not_or]
      exact ⟨hpart, hcolon.resolve_right hpart⟩
    rw [readSegment_of_no_colon hpart, readSegment_of_no_colon hmore]
    exact ⟨rfl, Text.trimStart_append_cases part more⟩
  · rw [List.append_assoc, List.cons_append, readSegment_of_colon hname,
      readSegment_of_colon hname]
    exact ⟨rfl, Text.trimStart_append_cases value more⟩

/-- A value is typed only behind a colon. -/
theorem mem_of_readSegment_eq_value {part name : Text} (h : (readSegment part).1 = .value name) :
    ':' ∈ part := by
  by_contra hcolon
  rw [readSegment_of_no_colon hcolon] at h
  cases h

/-- At a later cursor in the same declaration its part goes on with what stands between the two
cursors. -/
theorem segment_later {literal : Text} {offset later : Nat} (hle : offset ≤ later)
    (hoffset : Text.IsBoundary literal offset) (hlater : Text.IsBoundary literal later)
    (hunbroken : ∀ c ∈ Span.slice ⟨offset, later⟩ literal, c ≠ ';' ∧ c ≠ '\n') :
    segment (Text.splitAtOffset literal later).1 =
      segment (Text.splitAtOffset literal offset).1 ++ Span.slice ⟨offset, later⟩ literal := by
  obtain ⟨before, after, hcut, hbytes⟩ := hoffset
  obtain ⟨before', after', hcut', hbytes'⟩ := hlater
  obtain ⟨between, rfl, rfl⟩ :=
    Text.exists_append_of_bytes_le (hcut.trans hcut'.symm) (by omega)
  have hslice : Span.slice ⟨offset, later⟩ literal = between := by
    apply Span.Holds.slice_eq
    rw [Text.bytes_append, hbytes] at hbytes'
    exact ⟨before, after', hcut.symm, by rw [hbytes, hbytes']⟩
  rw [hslice] at hunbroken ⊢
  rw [Text.splitAtOffset_of_append hcut hbytes, Text.splitAtOffset_of_append hcut' hbytes']
  exact Text.afterLast_append fun c hc => isSeparator_eq_false_iff.2 (hunbroken c hc)

/-- **Typing more only narrows what is offered.** Let a cursor be moved on in a literal, between two
character boundaries, without passing a separator, and without passing a colon unless a value is
typed already. Then the mode stays the same, with the same property, and the labels on offer at the
later place are some of those at the earlier one, in the same order. -/
theorem typing_narrows_offer (literal : Text) (start cursor later : Nat) (hle : cursor ≤ later)
    (hcursor : Text.IsBoundary literal (cursor - start))
    (hlater : Text.IsBoundary literal (later - start))
    (hunbroken : ∀ c ∈ Span.slice ⟨cursor - start, later - start⟩ literal, c ≠ ';' ∧ c ≠ '\n')
    (hcolon : ':' ∉ Span.slice ⟨cursor - start, later - start⟩ literal ∨
      ∃ name, (locate literal cursor start).mode = .value name) :
    (locate literal later start).mode = (locate literal cursor start).mode ∧
      List.Sublist ((candidates (locate literal later start)).map (·.label))
        ((candidates (locate literal cursor start)).map (·.label)) := by
  have hlonger := segment_later (by omega) hcursor hlater hunbroken
  have hcolon' : ':' ∉ Span.slice ⟨cursor - start, later - start⟩ literal ∨
      ':' ∈ segment (Text.splitAtOffset literal (cursor - start)).1 := by
    rcases hcolon with hcolon | ⟨name, hmode⟩
    · exact .inl hcolon
    · exact .inr (mem_of_readSegment_eq_value hmode)
  obtain ⟨hmode, htyped⟩ := readSegment_append hcolon'
  rw [← hlonger] at hmode htyped
  rw [map_label_candidates, map_label_candidates]
  exact ⟨hmode, labels_sublist hmode htyped⟩

/-- A declaration whose value has a colon in it. -/
def colonInValue : Text := "Display : F:l".toList

/-- In a value a colon may be passed: from the end of `F` to the end of the literal. -/
theorem typing_narrows_offer_value :
    Text.IsBoundary colonInValue (21 - 10) ∧ Text.IsBoundary colonInValue (23 - 10) ∧
    ':' ∈ Span.slice ⟨21 - 10, 23 - 10⟩ colonInValue ∧
    (locate colonInValue 21 10).mode = .value "display".toList ∧
    (locate colonInValue 23 10).mode = .value "display".toList ∧
    List.Sublist ((candidates (locate colonInValue 23 10)).map (·.label))
      ((candidates (locate colonInValue 21 10)).map (·.label)) := by
  have hcursor : Text.IsBoundary colonInValue (21 - 10) :=
    ⟨"Display : F".toList, ":l".toList, by decide, by decide⟩
  have hlater : Text.IsBoundary colonInValue (23 - 10) :=
    ⟨colonInValue, [], by decide, by decide⟩
  have hslice : Span.slice ⟨21 - 10, 23 - 10⟩ colonInValue = ":l".toList := by decide
  have hunbroken : ∀ c ∈ Span.slice ⟨21 - 10, 23 - 10⟩ colonInValue, c ≠ ';' ∧ c ≠ '\n' := by
    rw [hslice]
    simp
  have hvalue : (locate colonInValue 21 10).mode = .value "display".toList := by decide
  obtain ⟨hmode, hnarrow⟩ := typing_narrows_offer colonInValue 10 21 23 (by decide) hcursor hlater
    hunbroken (.inr ⟨_, hvalue⟩)
  refine ⟨hcursor, hlater, ?_, hvalue, hmode.trans hvalue, hnarrow⟩
  rw [hslice]
  decide

end Style

end FluentAssist
