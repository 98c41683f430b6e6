import FluentAssist.Proofs.Completion.Edits

/-!
# Where the cursor stands in what a candidate replaces

An editor asks for completions at a cursor and expects that an accepted candidate replaces text
around it. The word at the cursor and the literal around it are found because they touch the cursor,
a partial name of an element function ends there, and what is typed of a style ends there too: the
ranges of all these contain the cursor.

A word of the form `key=value` is different. It is found around the cursor as a whole, but only its
part after the equals sign is replaced, wherever in the word the cursor stands. So
`range_contains_cursor_iff` has one exception, a cursor that is still in the key.
-/

set_option autoImplicit false

namespace FluentAssist

open Text (bytes floorOffset IsBoundary)

variable {text : Text} {offset : Nat}

/-- What is typed of a style ends at the cursor if the cursor is in the literal. -/
theorem Style.stop_locate {literal : Text} {outer : Span} {cursor : Nat}
    (hliteral : outer.Holds text literal) (hcursor : IsBoundary text cursor)
    (hinside : outer.Contains cursor) :
    (Style.locate literal cursor outer.start).range.stop = cursor := by
  have hfloor : floorOffset literal (cursor - outer.start) = cursor - outer.start :=
    Text.floorOffset_eq_self (hinside.isBoundary hliteral hcursor)
  have hstart := hinside.1
  show outer.start + floorOffset literal (cursor - outer.start) = cursor
  rw [hfloor]
  omega

/-- A declaration that is typed in a literal reaches to the cursor. -/
theorem Style.locate_contains {literal : Text} {outer : Span} {cursor : Nat}
    (hliteral : outer.Holds text literal) (hcursor : IsBoundary text cursor)
    (hinside : outer.Contains cursor) :
    (Style.locate literal cursor outer.start).range.Contains cursor := by
  have hstop := Style.stop_locate hliteral hcursor hinside
  have hle : (Style.locate literal cursor outer.start).range.start ≤
      (Style.locate literal cursor outer.start).range.stop := by
    simp only [Style.locate]
    exact Nat.sub_le _ _
  rw [hstop] at hle
  exact ⟨hle, Nat.le_of_eq hstop.symm⟩

namespace Completion

/-- The cursor stands in the key of a word that asks for values: not after its first equals sign. -/
def InKey (context : Context) : Prop :=
  context.kind.attributeKind? ≠ none ∧ ∃ key value, context.word = key ++ '=' :: value ∧
    '=' ∉ key ∧ context.offset ≤ context.wordSpan.start + bytes key

variable {context : Context} {span : Span} {kb : KnowledgeBase} {className : Option String}
  {candidate : Candidate}

/-- Of a word with an equals sign the key is known. -/
theorem inKey_iff (hkind : context.kind.attributeKind? ≠ none) {key value : Text}
    (hword : context.word = key ++ '=' :: value) (hkey : '=' ∉ key) :
    InKey context ↔ context.offset ≤ context.wordSpan.start + bytes key := by
  constructor
  · rintro ⟨-, key', value', hword', hkey', hle⟩
    have hsplit := Text.splitOnce?_eq_some_iff.2 ⟨hword, hkey⟩
    have hsplit' := Text.splitOnce?_eq_some_iff.2 ⟨hword', hkey'⟩
    rw [hsplit] at hsplit'
    cases hsplit'
    exact hle
  · intro hle
    exact ⟨hkind, key, value, hword, hkey, hle⟩

/-- What is said of the range of a candidate: it does not end before the cursor, and it starts
after the cursor exactly if the cursor is in a key. -/
def Reaches (context : Context) (span : Span) : Prop :=
  context.offset ≤ span.stop ∧ (span.start ≤ context.offset ↔ ¬ InKey context)

/-- Outside of keys a range that contains the cursor reaches it. -/
theorem Reaches.of_contains (h : span.Contains context.offset) (hkey : ¬ InKey context) :
    Reaches context span :=
  ⟨h.2, iff_of_true h.1 hkey⟩

/-- Every range of a candidate for a context reaches the cursor as said. -/
theorem assemble_reaches (hplaced : Cursor.Placed text offset context)
    (haround : Cursor.Around text offset context)
    (hmem : candidate ∈ assemble kb context className) (hrange : candidate.range = some span) :
    Reaches context span := by
  cases assemble_rangeOf hmem hrange with
  | @typed literal outer hkind hsurround hspan =>
    have hcursor : IsBoundary text context.offset := by
      rw [haround.offset_eq]
      exact Text.isBoundary_floorOffset text offset
    refine Reaches.of_contains (Style.locate_contains
      (hplaced.surround_holds literal outer hsurround hspan).holds hcursor
      (haround.surround_contains outer hspan)) ?_
    simp [InKey, hkind, ContextKind.attributeKind?]
  | className hkind hne =>
    refine Reaches.of_contains haround.word_contains ?_
    simp [InKey, hkind, ContextKind.attributeKind?]
  | name hkind hne hname =>
    refine Reaches.of_contains haround.word_contains ?_
    rintro ⟨-, key, value, hword, -⟩
    rw [hword] at hname
    simp at hname
  | value hkind hword hkey =>
    refine ⟨haround.word_contains.2, ?_⟩
    rw [inKey_iff hkind hword hkey]
    dsimp only
    omega

/-- A partial name ends at the cursor. -/
theorem uiFunctions_contains {context : UiContext}
    (hcontext : Cursor.uiFunction? text offset = some context)
    (hmem : candidate ∈ uiFunctions kb context) (hrange : candidate.range = some span) :
    span.Contains (floorOffset text offset) := by
  have hsame := (range_of_mem_plainCandidates hmem).symm.trans hrange
  split at hsame
  · cases hsame
  · cases hsame
    unfold Cursor.uiFunction? at hcontext
    obtain ⟨⟨place, name⟩, -, rfl⟩ := Option.map_eq_some_iff.1 hcontext
    exact ⟨Nat.sub_le _ _, Nat.le_refl _⟩

/-- **A range contains the cursor unless the cursor is in a key.** Take any knowledge base, any
text, any cursor, any lookback below `2 ^ 63`, and the name of a component or none. The range of a
candidate for a partial name of an element function contains the cursor. The range of a candidate
for the cursor's context does not end before the cursor, and it starts at or before the cursor
except in one case: the word at the cursor has an equals sign, its values are offered, and the
cursor is not behind the first equals sign. In that case it always starts after the cursor. -/
theorem range_contains_cursor_iff (kb : KnowledgeBase) (text : Text) (offset lookback : Nat)
    (className : Option String) (hlookback : lookback < wordSize63) :
    (∀ context, Cursor.uiFunction? text offset = some context →
      ∀ candidate ∈ uiFunctions kb context, ∀ span, candidate.range = some span →
        span.Contains (floorOffset text offset)) ∧
    ∃ found, Cursor.classify text offset lookback = .ok found ∧
      ∀ context, found = some context → context.offset = floorOffset text offset ∧
        ∀ candidate ∈ assemble kb context className, ∀ span, candidate.range = some span →
          context.offset ≤ span.stop ∧ (span.start ≤ context.offset ↔ ¬ InKey context) := by
  obtain ⟨found, hfound⟩ : ∃ found, Cursor.classify text offset lookback = .ok found :=
    ⟨_, Cursor.classify_eq hlookback⟩
  refine ⟨fun context hcontext candidate hmem span hrange =>
    uiFunctions_contains hcontext hmem hrange, found, hfound, ?_⟩
  rintro context rfl
  have haround := Cursor.classify_around hfound
  refine ⟨haround.offset_eq, ?_⟩
  intro candidate hmem span hrange
  exact assemble_reaches (Cursor.classify_placed hfound) haround hmem hrange

/-- A prop with its value in a string literal. -/
def iconTyped : Text := "b.props('icon=home')".toList

/-- The context of a cursor in the word of the prop. -/
def iconContext (cursor : Nat) (matched : Text) : Context where
  offset := cursor
  kind := .props
  method := some .props
  matched := matched
  matchStart := 1
  word := "icon=home".toList
  wordSpan := ⟨9, 18⟩
  surround := some "icon=home".toList
  surroundSpan := some ⟨9, 18⟩

/-- The one icon that is offered for the value. -/
def homeCandidate : Candidate := { label := "home", kind := some .value, range := some ⟨14, 18⟩ }

/-- Behind the equals sign the cursor is in the props. -/
theorem classify_iconTyped_value :
    Cursor.classify iconTyped 16 Cursor.defaultLookback =
      .ok (some (iconContext 16 ".props('icon=ho".toList)) := by
  rw [Cursor.classify_eq (by decide)]
  exact congrArg Except.ok (by decide +kernel)

/-- With the cursor in the value, the range of the value contains it. -/
theorem range_contains_cursor_iff_value :
    Cursor.defaultLookback < wordSize63 ∧
    Cursor.classify iconTyped 16 Cursor.defaultLookback =
      .ok (some (iconContext 16 ".props('icon=ho".toList)) ∧
    homeCandidate ∈
      assemble { icons := ["home"] } (iconContext 16 ".props('icon=ho".toList) none ∧
    ¬ InKey (iconContext 16 ".props('icon=ho".toList) ∧
    Span.Contains ⟨14, 18⟩ 16 := by
  have hlookback : Cursor.defaultLookback < wordSize63 := by decide
  have hmem : homeCandidate ∈
      assemble { icons := ["home"] } (iconContext 16 ".props('icon=ho".toList) none := by
    decide +kernel
  have hkey : ¬ InKey (iconContext 16 ".props('icon=ho".toList) := by
    have hword : (iconContext 16 ".props('icon=ho".toList).word =
        "icon".toList ++ '=' :: "home".toList := by decide
    rw [inKey_iff (by decide) hword (by decide)]
    decide
  obtain ⟨-, found, hfound, hranges⟩ := range_contains_cursor_iff { icons := ["home"] } iconTyped
    16 Cursor.defaultLookback none hlookback
  obtain rfl := Except.ok.inj (hfound.symm.trans classify_iconTyped_value)
  obtain ⟨-, hreaches⟩ := hranges _ rfl
  obtain ⟨hstop, hstart⟩ := hreaches homeCandidate hmem ⟨14, 18⟩ rfl
  exact ⟨hlookback, classify_iconTyped_value, hmem, hkey, hstart.2 hkey, hstop⟩

/-- With the cursor in the key, the range of the value starts after it. -/
theorem range_misses_cursor_in_key :
    Cursor.classify iconTyped 11 Cursor.defaultLookback =
      .ok (some (iconContext 11 ".props('ic".toList)) ∧
    ∃ candidate ∈ assemble { icons := ["home"] } (iconContext 11 ".props('ic".toList) none,
      candidate.range = some ⟨14, 18⟩ ∧ ¬ Span.Contains ⟨14, 18⟩ 11 := by
  refine ⟨?_, homeCandidate, by decide +kernel, rfl, fun h => absurd h.1 (by decide)⟩
  rw [Cursor.classify_eq (by decide)]
  exact congrArg Except.ok (by decide +kernel)

end Completion

end FluentAssist
