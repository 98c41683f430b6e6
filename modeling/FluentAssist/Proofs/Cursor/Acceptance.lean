import FluentAssist.Proofs.Cursor.Classification
import FluentAssist.Proofs.Cursor.Tokens

/-!
# Accepting a candidate

An accepted candidate takes the place of the word at the cursor, and the cursor stands behind it.
This file compares the contexts of the two texts. They agree before the word, so three facts are
enough:

* the word is a run of token characters, and any other run in its place is a word again;
* the run contains no parenthesis, so a call that is open at the cursor opens before the run, and it
  is open with any other run behind its parenthesis;
* an open call needs an argument, which is why the cursor has to be behind the start of the word.

`accepted_word_keeps_context` puts them together.
-/

set_option autoImplicit false

namespace FluentAssist

open Text (bytes floorOffset splitAtOffset)

namespace Cursor

variable {text text' : Text} {offset offset' lookback : Nat} {context : Context}
  {method : BuilderMethod}

/-! ## The call -/

/-- A call opens before the run that ends at the cursor, so it stays open with another run. -/
theorem isOpenCall_exchange {pre typed other : Text} {start : Nat}
    (htyped : (splitAtOffset text offset).1 = pre ++ typed)
    (hother : (splitAtOffset text' offset').1 = pre ++ other)
    (hchars : ∀ c ∈ typed, isTokenChar c = true)
    (hne : other ≠ []) (hchars' : ∀ c ∈ other, isTokenChar c = true)
    (h : IsOpenCall method (textFrom text offset start)) :
    IsOpenCall method (textFrom text' offset' start) := by
  obtain ⟨front, hfront, hstart⟩ := (textFrom_eq_iff h.ne_nil).1 rfl
  obtain ⟨arguments, ⟨gap, gap', hgap, hgap', hcall⟩, -, hclosed⟩ := h
  have hwhole : ((front ++ '.' :: (gap ++ (method.name.toList ++ gap'))) ++ ['(']) ++ arguments =
      pre ++ typed := by
    rw [← htyped, hfront, hcall]
    simp
  -- The parenthesis is not in the run, so the run is the end of the arguments.
  obtain ⟨first, hpre, harguments⟩ : ∃ first,
      pre = ((front ++ '.' :: (gap ++ (method.name.toList ++ gap'))) ++ ['(']) ++ first ∧
        arguments = first ++ typed := by
    rcases List.append_eq_append_iff.1 hwhole with ⟨first, hpre, hargs⟩ | ⟨last, hopener, hrun⟩
    · exact ⟨first, hpre, hargs⟩
    · rcases List.eq_nil_or_concat' last with rfl | ⟨init, c, rfl⟩
      · exact ⟨[], by simpa using hopener.symm, by simpa using hrun.symm⟩
      · have hlast := congrArg List.getLast? hopener
        rw [← List.append_assoc pre, List.getLast?_concat, List.getLast?_concat] at hlast
        have hc : c = '(' := (Option.some.inj hlast).symm
        have hmem : c ∈ typed := by simp [hrun]
        exact absurd hc (ne_parenthesis_of_isTokenChar (hchars c hmem)).1
  have hopens : Opens method (first ++ other)
      ('.' :: (gap ++ (method.name.toList ++ (gap' ++ '(' :: (first ++ other))))) :=
    ⟨gap, gap', hgap, hgap', rfl⟩
  have hfrom : textFrom text' offset' start =
      '.' :: (gap ++ (method.name.toList ++ (gap' ++ '(' :: (first ++ other)))) := by
    rw [textFrom_eq_iff hopens.ne_nil]
    refine ⟨front, ?_, hstart⟩
    rw [hother, hpre]
    simp
  rw [hfrom]
  refine ⟨first ++ other, hopens, by simp [hne], ?_⟩
  intro hmem
  rcases List.mem_append.1 hmem with hmem | hmem
  · exact hclosed (harguments ▸ List.mem_append_left typed hmem)
  · exact (ne_parenthesis_of_isTokenChar (hchars' _ hmem)).2 rfl

/-- With another run at the cursor the same call is the last open one near it. -/
theorem InCall.exchange {pre typed other : Text} (hcall : InCall text offset lookback context method)
    (hlookback : lookback < wordSize63)
    (htyped : (splitAtOffset text offset).1 = pre ++ typed)
    (hother : (splitAtOffset text' offset').1 = pre ++ other)
    (hne : typed ≠ []) (hchars : ∀ c ∈ typed, isTokenChar c = true)
    (hne' : other ≠ []) (hchars' : ∀ c ∈ other, isTokenChar c = true)
    (hlength : (textFrom text' offset' context.matchStart).length ≤ lookback) :
    ∃ context', classify text' offset' lookback = .ok (some context') ∧
      context'.kind = context.kind ∧ context'.method = context.method ∧
      context'.matchStart = context.matchStart := by
  have hopen : OpenCallAt text' offset' lookback method context.matchStart :=
    ⟨isOpenCall_exchange htyped hother hchars hne' hchars' hcall.isOpen.1, hlength⟩
  have hlast : ∀ method' start, OpenCallAt text' offset' lookback method' start →
      start ≤ context.matchStart := by
    intro method' start hopen'
    by_contra hlater
    -- A later call would have been open in the first text as well.
    have hback : IsOpenCall method' (textFrom text offset start) :=
      isOpenCall_exchange hother htyped hchars' hne hchars hopen'.1
    have hsuffix := textFrom_suffix hcall.isOpen.1.ne_nil hback.ne_nil (by omega)
    have hshort := hsuffix.length_le.trans hcall.isOpen.2
    exact hlater (hcall.last method' start ⟨hback, hshort⟩)
  rcases @classify_cases text' offset' lookback hlookback with
    ⟨context', method', hclassify, hcall'⟩ | ⟨hclosed, -⟩
  · have hstart : context'.matchStart = context.matchStart :=
      Nat.le_antisymm (hlast method' _ hcall'.isOpen) (hcall'.last method _ hopen)
    obtain ⟨arguments, hopens, -⟩ := hopen.1
    obtain ⟨arguments', hopens', -⟩ := hcall'.isOpen.1
    rw [hstart] at hopens'
    obtain ⟨rfl, -⟩ := hopens.unique hopens'
    exact ⟨context', hclassify, by rw [hcall'.kind_eq, hcall.kind_eq],
      by rw [hcall'.method_eq, hcall.method_eq], hstart⟩
  · exact absurd hopen (hclosed method context.matchStart)

/-! ## The word -/

/-- A line feed is no part of a token. -/
theorem isNewline_eq_false_of_isTokenChar {c : Char} (h : isTokenChar c = true) :
    Text.isNewline c = false := by
  by_contra hbreak
  rw [Bool.not_eq_false, Text.isNewline, beq_iff_eq] at hbreak
  subst hbreak
  exact absurd h (by decide)

/-- How a text is put together around the word of a context: `pre` up to the word, what is typed of
it before the cursor, the rest of it, and `post`. -/
structure WordParts (text : Text) (offset : Nat) (context : Context)
    (pre typed left post : Text) : Prop where
  text_eq : text = pre ++ (context.word ++ post)
  word_eq : context.word = typed ++ left
  wordSpan_eq : context.wordSpan = ⟨bytes pre, bytes pre + bytes context.word⟩
  before_eq : (splitAtOffset text offset).1 = pre ++ typed
  chars : ∀ c ∈ context.word, isTokenChar c = true
  /-- Any other run can stand in the place of the word, and is then the word at its end. -/
  exchange : ∀ other, other ≠ [] → (∀ c ∈ other, isTokenChar c = true) →
    ∀ lookback context', classify (pre ++ (other ++ post)) (bytes pre + bytes other) lookback =
      .ok (some context') →
    context'.word = other ∧ context'.wordSpan = ⟨bytes pre, bytes pre + bytes other⟩

/-- If the cursor is not before the word, the text can be put together around it. -/
theorem exists_wordParts (h : classify text offset lookback = .ok (some context))
    (hword : context.word ≠ []) (hstart : context.wordSpan.start ≤ context.offset) :
    ∃ pre typed left post, WordParts text offset context pre typed left post := by
  obtain ⟨front, head, tail, back, hparts⟩ := Text.exists_lineParts text offset
  obtain ⟨hwordAt, hspanAt⟩ := word_of_classify hparts h
  rw [hwordAt] at hword
  obtain ⟨before, after, hline, hspan, hrun⟩ := exists_isRun_of_wordAt hword
  rw [← hwordAt] at hline hspan hrun
  rw [hspan] at hspanAt
  have haround := classify_around h
  have hstop := haround.word_contains.2
  rw [haround.offset_eq, hparts.floorOffset_eq, hspanAt] at hstart hstop
  simp only [Span.shift] at hstart hstop
  -- The cursor cuts the line inside the word.
  obtain ⟨typed, hhead, hrest⟩ := Text.exists_append_of_bytes_le hline.symm (by omega)
  have htyped : bytes typed ≤ bytes context.word := by
    rw [hhead, Text.bytes_append] at hstop
    omega
  obtain ⟨left, hleft, -⟩ := Text.exists_append_of_bytes_le hrest.symm htyped
  obtain ⟨hfront, hback⟩ := hparts.edges
  refine ⟨front ++ before, typed, left, after ++ back, ?_, hleft, ?_, ?_, hrun.chars, ?_⟩
  · rw [hparts.text_eq, ← List.append_assoc head, hline]
    simp
  · rw [hspanAt]
    simp only [Span.shift, Text.bytes_append, Span.mk.injEq]
    omega
  · rw [hparts.splitAtOffset_eq, hhead, List.append_assoc]
  · intro other hne hchars lookback' context' hclassify
    have hunbroken : ∀ c ∈ (before ++ other) ++ after, Text.isNewline c = false := by
      intro c hc
      rw [List.append_assoc, List.mem_append, List.mem_append] at hc
      have hmem : c ∈ before ∨ c ∈ after → Text.isNewline c = false := by
        intro hside
        apply hparts.unbroken c
        rw [hline]
        rcases hside with hside | hside
        · exact List.mem_append_left _ hside
        · exact List.mem_append_right _ (List.mem_append_right _ hside)
      rcases hc with hc | hc | hc
      · exact hmem (Or.inl hc)
      · exact isNewline_eq_false_of_isTokenChar (hchars c hc)
      · exact hmem (Or.inr hc)
    have hparts' := Text.lineParts_of_append hfront hback hunbroken
    have htext : front ++ ((before ++ other) ++ (after ++ back)) =
        (front ++ before) ++ (other ++ (after ++ back)) := by simp
    have hcursor : bytes front + bytes (before ++ other) =
        bytes (front ++ before) + bytes other := by
      simp only [Text.bytes_append]
      omega
    rw [htext, hcursor] at hparts'
    obtain ⟨hword', hspan'⟩ := word_of_classify hparts' hclassify
    have hpos := Text.bytes_pos hne
    rw [List.append_assoc, wordAt_of_isRun (hrun.replace hne hchars)
      (by rw [Text.bytes_append]; omega) (by rw [Text.bytes_append])] at hword' hspan'
    refine ⟨hword', ?_⟩
    rw [hspan']
    simp only [Span.shift, Text.bytes_append, Span.mk.injEq]
    omega

/-- **An accepted word keeps the context and leaves nothing of the former one.** Take a cursor in a
call whose word is not empty and starts before the cursor, and put any other word in its place, with
the cursor behind it. If the call still starts among the last `lookback` characters, the context is
one of the same kind and method, the call starts where it did, and the word is exactly what was put
in. The cursor is where classification reports it, at a character boundary. -/
theorem accepted_word_keeps_context (text : Text) (offset lookback : Nat) (context : Context)
    (other : Text) (hlookback : lookback < wordSize63)
    (hclassify : classify text offset lookback = .ok (some context))
    (hmethod : context.method ≠ none) (hword : context.word ≠ [])
    (hstart : context.wordSpan.start < context.offset)
    (hother : other ≠ []) (hchars : ∀ c ∈ other, isTokenChar c = true)
    (hlength : (textFrom (context.wordSpan.replace text other)
      (context.wordSpan.start + bytes other) context.matchStart).length ≤ lookback) :
    ∃ context', classify (context.wordSpan.replace text other)
        (context.wordSpan.start + bytes other) lookback = .ok (some context') ∧
      context'.kind = context.kind ∧ context'.method = context.method ∧
      context'.matchStart = context.matchStart ∧ context'.word = other ∧
      context'.wordSpan = ⟨context.wordSpan.start, context.wordSpan.start + bytes other⟩ := by
  obtain ⟨pre, typed, left, post, hparts⟩ :=
    exists_wordParts hclassify hword (Nat.le_of_lt hstart)
  have hreplaced : context.wordSpan.replace text other = pre ++ (other ++ post) := by
    rw [hparts.wordSpan_eq]
    nth_rewrite 1 [hparts.text_eq]
    exact Span.replace_eq pre context.word post other
  have hbegin : context.wordSpan.start = bytes pre := by rw [hparts.wordSpan_eq]
  have hbefore : (splitAtOffset (pre ++ (other ++ post)) (bytes pre + bytes other)).1 =
      pre ++ other := by
    rw [Text.splitAtOffset_of_append (List.append_assoc _ _ _) (Text.bytes_append _ _)]
  have htyped : typed ≠ [] := by
    rintro rfl
    have hcursor : floorOffset text offset = bytes pre := by
      rw [floorOffset, hparts.before_eq, List.append_nil]
    rw [(classify_around hclassify).offset_eq, hcursor, hbegin] at hstart
    exact Nat.lt_irrefl _ hstart
  have htypedChars : ∀ c ∈ typed, isTokenChar c = true :=
    fun c hc => hparts.chars c (hparts.word_eq ▸ List.mem_append_left left hc)
  rw [hreplaced, hbegin] at hlength ⊢
  rcases @classify_cases text offset lookback hlookback with
    ⟨found, method, hfound, hcall⟩ | ⟨-, ⟨found, hfound, -, hnone, -⟩ | ⟨hfound, -⟩⟩
  · obtain rfl : context = found := by
      rw [hclassify] at hfound
      exact Option.some.inj (Except.ok.inj hfound)
    obtain ⟨context', hclassify', hkind, hmethod', hmatch⟩ := hcall.exchange hlookback
      hparts.before_eq hbefore htyped htypedChars hother hchars hlength
    obtain ⟨hword', hspan'⟩ := hparts.exchange other hother hchars lookback context' hclassify'
    exact ⟨context', hclassify', hkind, hmethod', hmatch, hword', hspan'⟩
  · rw [hclassify] at hfound
    obtain rfl := Option.some.inj (Except.ok.inj hfound)
    exact absurd hnone hmethod
  · rw [hclassify] at hfound
    cases hfound

/-- A prop that is typed in a nested call. -/
def propTyped : Text := "b.on('a', c.props('dé x'))".toList

/-- The context of the cursor at 20, inside the prop. -/
def propContext : Context where
  offset := 20
  kind := .props
  method := some .props
  matched := ".props('d".toList
  matchStart := 11
  word := "dé".toList
  wordSpan := ⟨19, 22⟩
  surround := some "dé x".toList
  surroundSpan := some ⟨19, 24⟩

/-- The whole prop is replaced, also what stands after the cursor, and the inner call still counts.
-/
theorem accepted_word_keeps_context_nested :
    classify propTyped 20 defaultLookback = .ok (some propContext) ∧
    propContext.wordSpan.replace propTyped "dense=ü".toList =
      "b.on('a', c.props('dense=ü x'))".toList ∧
    ∃ context, classify "b.on('a', c.props('dense=ü x'))".toList 27 defaultLookback =
        .ok (some context) ∧
      context.kind = .props ∧ context.method = some .props ∧ context.matchStart = 11 ∧
      context.word = "dense=ü".toList ∧ context.wordSpan = ⟨19, 27⟩ := by
  have hlookback : defaultLookback < wordSize63 := by decide
  have hclassify : classify propTyped 20 defaultLookback = .ok (some propContext) := by
    rw [classify_eq hlookback]
    exact congrArg Except.ok (by decide +kernel)
  have hreplaced : propContext.wordSpan.replace propTyped "dense=ü".toList =
      "b.on('a', c.props('dense=ü x'))".toList := by decide
  have hkept := accepted_word_keeps_context propTyped 20 defaultLookback propContext
    "dense=ü".toList hlookback hclassify (by decide) (by decide) (by decide) (by decide)
    (List.all_eq_true.1 (by decide +kernel)) (by decide +kernel)
  rw [hreplaced] at hkept
  exact ⟨hclassify, hreplaced, hkept⟩

/-- A letter of two bytes in a nested call. -/
def letterTyped : Text := "b.on(x.props(é".toList

/-- The context of the cursor before the letter. -/
def letterContext : Context where
  offset := 13
  kind := .events
  method := some .on
  matched := ".on(x.props(".toList
  matchStart := 1
  word := ['é']
  wordSpan := ⟨13, 15⟩
  surround := none
  surroundSpan := none

/-- The context of the cursor behind another letter in its place. -/
def nestedContext : Context where
  offset := 14
  kind := .props
  method := some .props
  matched := ".props(d".toList
  matchStart := 6
  word := ['d']
  wordSpan := ⟨13, 14⟩
  surround := none
  surroundSpan := none

/-- An offset inside the first character of a word is after the start of the word, but the cursor is
not: nothing is typed in the nested call yet, and the enclosing one counts. With a word in its place
and the cursor behind it, the nested call counts. -/
theorem accepted_word_enters_nested_call :
    classify letterTyped 14 defaultLookback = .ok (some letterContext) ∧
    letterContext.method ≠ none ∧ letterContext.word ≠ [] ∧ letterContext.wordSpan.start < 14 ∧
    isTokenChar 'd' = true ∧
    letterContext.wordSpan.replace letterTyped ['d'] = "b.on(x.props(d".toList ∧
    letterContext.wordSpan.start + bytes ['d'] = 14 ∧
    (textFrom "b.on(x.props(d".toList 14 letterContext.matchStart).length ≤ defaultLookback ∧
    classify "b.on(x.props(d".toList 14 defaultLookback = .ok (some nestedContext) ∧
    nestedContext.kind ≠ letterContext.kind ∧ nestedContext.method ≠ letterContext.method ∧
    nestedContext.matchStart ≠ letterContext.matchStart := by
  have hlookback : defaultLookback < wordSize63 := by decide
  refine ⟨?_, by decide, by decide, by decide, by decide, by decide, by decide, by decide +kernel,
    ?_, by decide, by decide, by decide⟩
  · rw [classify_eq hlookback]
    exact congrArg Except.ok (by decide +kernel)
  · rw [classify_eq hlookback]
    exact congrArg Except.ok (by decide +kernel)

end Cursor

end FluentAssist
