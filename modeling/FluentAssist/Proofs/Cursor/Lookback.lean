import FluentAssist.Proofs.Cursor.Classification
import FluentAssist.Proofs.Cursor.Line

/-!
# How far classification looks back

The lookback is a setting of 64 bits that is read as a signed number and negated. Up to `2 ^ 63`
this moves the start of the window back by that many characters. The negation of every greater
lookback is positive, so the start moves forward: if a character follows the cursor, the start
passes the cursor and there is no window, and at the end of the text the window is empty.
`window_right_iff` says for every lookback whether the window is right.

The second result compares two lookbacks. The open calls in the smaller window are the last ones of
the larger window, so `larger_lookback_keeps_call` holds: a call that is recognised is recognised
with every larger lookback, and the context is the same.
-/

set_option autoImplicit false

namespace FluentAssist.Cursor

open Text (bytes floorOffset splitAtOffset)

variable {text : Text} {offset lookback : Nat}

/-! ## The window for every lookback -/

/-- A window from `start` to the cursor that is made of the last `lookback` characters before the
cursor, or of all of them if there are fewer. -/
structure IsWindow (text : Text) (offset lookback start : Nat) (found : Text) : Prop where
  isBoundary : Text.IsBoundary text start
  start_le : start ≤ floorOffset text offset
  holds : Span.Holds ⟨start, floorOffset text offset⟩ text found
  length_eq : found.length = min lookback (splitAtOffset text offset).1.length

/-- The last characters before the cursor are a window of the lookback's length. -/
theorem isWindow_lastBefore :
    IsWindow text offset lookback (bytes ((splitAtOffset text offset).1.rdrop lookback))
      (lastBefore text offset lookback) where
  isBoundary := lastBefore_holds.isBoundary_start
  start_le := lastBefore_holds.start_le_stop
  holds := lastBefore_holds
  length_eq := length_lastBefore

/-- A lookback of more than `2 ^ 63` is a negative number, and its negation is positive. -/
theorem negate64_asSigned64_of_gt {n : Nat} (h : wordSize63 < n) (hword : n < wordSize64) :
    negate64 (asSigned64 n) = ((wordSize64 - n : Nat) : Int) := by
  unfold negate64 asSigned64 Int.bmod
  simp only [wordSize63, wordSize64] at *
  omega

/-- A lookback above half the word size starts the window behind the cursor, since it is negated as
a word. -/
theorem windowStart_of_gt (h : wordSize63 < lookback) (hword : lookback < wordSize64) :
    windowStart text (floorOffset text offset) lookback =
      floorOffset text offset +
        bytes ((splitAtOffset text offset).2.take (wordSize64 - lookback)) := by
  rw [windowStart, negate64_asSigned64_of_gt h hword, Text.shiftChars,
    Text.splitAtOffset_floorOffset]
  simp only [Int.natCast_nonneg, if_true, Int.toNat_natCast]
  rfl

/-- A start that moves forward passes the cursor unless the text ends there. -/
theorem window_of_gt (h : wordSize63 < lookback) (hword : lookback < wordSize64) :
    window text (floorOffset text offset) lookback =
      if (splitAtOffset text offset).2 = [] then .ok (floorOffset text offset, [])
      else .error .startsAfterCursor := by
  rw [window, windowStart_of_gt h hword]
  cases hafter : (splitAtOffset text offset).2 with
  | nil =>
    have hempty : Span.slice ⟨floorOffset text offset, floorOffset text offset⟩ text = [] :=
      Span.Holds.slice_eq ⟨_, _, (Text.splitAtOffset_append text offset).symm, rfl⟩
    simp [hempty]
  | cons c after =>
    obtain ⟨steps, hsteps⟩ : ∃ steps, wordSize64 - lookback = steps + 1 :=
      Nat.exists_eq_add_one_of_ne_zero (by omega)
    have hc := Char.utf8Size_pos c
    have hpast : ¬ floorOffset text offset + bytes ((c :: after).take (wordSize64 - lookback)) ≤
        floorOffset text offset := by
      rw [hsteps, List.take_succ_cons, Text.bytes_cons]
      omega
    simp [hpast]

/-- The cursor stands before the end of the text if something follows it. -/
theorem floorOffset_lt_bytes_iff :
    floorOffset text offset < bytes text ↔ (splitAtOffset text offset).2 ≠ [] := by
  have hbytes := congrArg bytes (Text.splitAtOffset_append text offset)
  rw [Text.bytes_append] at hbytes
  rw [ne_eq, ← Text.bytes_eq_zero_iff, floorOffset]
  omega

/-- Classification fails where there is no window. -/
theorem classify_eq_error_iff :
    classify text offset lookback = .error .startsAfterCursor ↔
      window text (floorOffset text offset) lookback = .error .startsAfterCursor := by
  cases hwindow : window text (floorOffset text offset) lookback with
  | error fault =>
    cases fault with
    | startsAfterCursor =>
      rw [classify, hwindow]
      exact iff_of_true rfl rfl
  | ok found =>
    rw [classify, hwindow]
    exact iff_of_false (by rintro ⟨⟩) (by rintro ⟨⟩)

/-- A lookback of more than `2 ^ 63` gives the right window only if there is nothing to show and
nothing to pass. -/
theorem exists_isWindow_of_gt_iff (h : wordSize63 < lookback) (hword : lookback < wordSize64) :
    (∃ start found, window text (floorOffset text offset) lookback = .ok (start, found) ∧
      IsWindow text offset lookback start found) ↔ text = [] := by
  have hwindow : window text (floorOffset text offset) lookback = _ := window_of_gt h hword
  constructor
  · rintro ⟨start, found, hfound, hright⟩
    rw [hwindow] at hfound
    split at hfound
    · next hafter =>
      cases hfound
      have hlength := hright.length_eq
      have hbefore : (splitAtOffset text offset).1 = [] := by
        rw [← List.length_eq_zero_iff]
        simp only [List.length_nil] at hlength
        omega
      have hsplit := Text.splitAtOffset_append text offset
      rw [hbefore, hafter] at hsplit
      exact hsplit.symm
    · cases hfound
  · rintro rfl
    refine ⟨_, _, hwindow.trans (if_pos rfl), ?_⟩
    exact ⟨⟨[], [], rfl, rfl⟩, Nat.le_refl _, ⟨[], [], rfl, rfl⟩, by simp [splitAtOffset]⟩

/-- **The window is right up to a lookback of `2 ^ 63`.** For every setting of 64 bits, the window
is made of the last `lookback` characters before the cursor, or of all of them if there are fewer,
exactly if the lookback is at most `2 ^ 63` or the text is empty. With a greater lookback
classification fails at every cursor that has a character behind it, and at the end of the text it
recognises nothing. -/
theorem window_right_iff (text : Text) (offset lookback : Nat) (hword : lookback < wordSize64) :
    ((∃ start found, window text (floorOffset text offset) lookback = .ok (start, found) ∧
        IsWindow text offset lookback start found) ↔ lookback ≤ wordSize63 ∨ text = []) ∧
      (classify text offset lookback = .error .startsAfterCursor ↔
        wordSize63 < lookback ∧ floorOffset text offset < bytes text) ∧
      (wordSize63 < lookback → floorOffset text offset = bytes text →
        classify text offset lookback = .ok none) := by
  rw [classify_eq_error_iff]
  rcases Nat.lt_or_ge wordSize63 lookback with hgt | hle
  · have hwindow : window text (floorOffset text offset) lookback = _ := window_of_gt hgt hword
    refine ⟨?_, ?_, ?_⟩
    · rw [exists_isWindow_of_gt_iff hgt hword]
      exact ⟨Or.inr, fun h => h.resolve_left (Nat.not_le_of_lt hgt)⟩
    · rw [hwindow, floorOffset_lt_bytes_iff]
      by_cases hafter : (splitAtOffset text offset).2 = []
      · rw [if_pos hafter]
        exact iff_of_false (by rintro ⟨⟩) (fun h => h.2 hafter)
      · rw [if_neg hafter]
        exact iff_of_true rfl ⟨hgt, hafter⟩
    · intro _ hend
      have hafter : (splitAtOffset text offset).2 = [] := by
        by_contra hne
        have hlt := floorOffset_lt_bytes_iff.2 hne
        omega
      rw [classify, hwindow, if_pos hafter]
      rfl
  · refine ⟨iff_of_true ⟨_, _, window_eq hle, isWindow_lastBefore⟩ (Or.inl hle), ?_,
      fun hgt => absurd hgt (Nat.not_lt_of_le hle)⟩
    rw [window_eq hle]
    exact iff_of_false (by rintro ⟨⟩) (fun h => Nat.not_lt_of_le hle h.1)

/-- A call that is open at the end of a text of 10 bytes. -/
def openAtEnd : Text := "b.props('x".toList

/-- With a lookback of `2 ^ 63` the window is right. -/
theorem window_right_iff_half :
    wordSize63 < wordSize64 ∧
    ∃ start found, window openAtEnd (floorOffset openAtEnd 10) wordSize63 = .ok (start, found) ∧
      IsWindow openAtEnd 10 wordSize63 start found := by
  have hword : wordSize63 < wordSize64 := by decide
  exact ⟨hword, (window_right_iff openAtEnd 10 wordSize63 hword).1.2 (Or.inl (Nat.le_refl _))⟩

/-- With the greatest lookback the call that is open at the end of the text is not seen, since the
window is empty, and before the last character there is no window at all. -/
theorem greatest_lookback_misses_call :
    OpenCallAt openAtEnd 10 (wordSize64 - 1) .props 1 ∧
    classify openAtEnd 10 (wordSize64 - 1) = .ok none ∧
    (¬ ∃ start found,
      window openAtEnd (floorOffset openAtEnd 10) (wordSize64 - 1) = .ok (start, found) ∧
        IsWindow openAtEnd 10 (wordSize64 - 1) start found) ∧
    classify openAtEnd 9 (wordSize64 - 1) = .error .startsAfterCursor := by
  have hgt : wordSize63 < wordSize64 - 1 := by decide
  have hword : wordSize64 - 1 < wordSize64 := by decide
  refine ⟨⟨⟨['\'', 'x'], ⟨[], [], by simp, by simp, by decide⟩, by decide, by decide⟩, by decide⟩,
    ?_, ?_, ?_⟩
  · rw [classify, window_of_gt hgt hword, if_pos (by decide)]
    rfl
  · rw [exists_isWindow_of_gt_iff hgt hword]
    decide
  · rw [classify_eq_error_iff, window_of_gt hgt hword, if_neg (by decide)]

/-! ## Two lookbacks -/

/-- A call that is open within a lookback is open within a larger one. -/
theorem OpenCallAt.mono {method : BuilderMethod} {start lookback' : Nat}
    (h : OpenCallAt text offset lookback method start) (hle : lookback ≤ lookback') :
    OpenCallAt text offset lookback' method start :=
  ⟨h.1, h.2.trans hle⟩

/-- The last call of the smaller window is the last one of the larger window. -/
theorem InCall.same {context context' : Context} {method method' : BuilderMethod} {lookback' : Nat}
    (h : InCall text offset lookback context method)
    (h' : InCall text offset lookback' context' method') (hle : lookback ≤ lookback') :
    context.matchStart = context'.matchStart ∧ method = method' := by
  have hbefore : context.matchStart ≤ context'.matchStart :=
    h'.last method context.matchStart (h.isOpen.mono hle)
  -- From the later call to the cursor there is less text, so it is in the smaller window as well.
  have hsuffix := textFrom_suffix h.isOpen.1.ne_nil h'.isOpen.1.ne_nil hbefore
  have hnear : OpenCallAt text offset lookback method' context'.matchStart :=
    ⟨h'.isOpen.1, hsuffix.length_le.trans h.isOpen.2⟩
  have hstart : context.matchStart = context'.matchStart :=
    Nat.le_antisymm hbefore (h.last method' context'.matchStart hnear)
  obtain ⟨arguments, hopens, -⟩ := h.isOpen.1
  obtain ⟨arguments', hopens', -⟩ := h'.isOpen.1
  rw [← hstart] at hopens'
  exact ⟨hstart, (hopens.unique hopens').1⟩

/-- Contexts of one cursor differ at most in what was recognised. -/
theorem context_eq_of_classify {context context' : Context} {lookback' : Nat}
    (h : classify text offset lookback = .ok (some context))
    (h' : classify text offset lookback' = .ok (some context'))
    (hkind : context.kind = context'.kind) (hmethod : context.method = context'.method)
    (hmatched : context.matched = context'.matched)
    (hstart : context.matchStart = context'.matchStart) : context = context' := by
  obtain ⟨start, ⟨kind, method, place, matched⟩, rfl⟩ := exists_contextAt_of_classify h
  obtain ⟨start', ⟨kind', method', place', matched'⟩, rfl⟩ := exists_contextAt_of_classify h'
  simp only [contextAt] at hkind hmethod hmatched hstart ⊢
  rw [hkind, hmethod, hmatched, hstart]

/-- **A larger lookback keeps a recognised call.** If a call is recognised, then with every larger
lookback below `2 ^ 63` the cursor has the same context. -/
theorem larger_lookback_keeps_call (text : Text) (offset lookback lookback' : Nat)
    (context : Context) (hle : lookback ≤ lookback') (hlookback : lookback' < wordSize63)
    (hclassify : classify text offset lookback = .ok (some context))
    (hmethod : context.method ≠ none) :
    classify text offset lookback' = .ok (some context) := by
  have hsmaller : lookback < wordSize63 := Nat.lt_of_le_of_lt hle hlookback
  obtain ⟨method, hcall⟩ := inCall_of_classify hsmaller hclassify hmethod
  rcases classify_cases hlookback with ⟨context', method', hclassify', hcall'⟩ | ⟨hclosed, -⟩
  · obtain ⟨hstart, rfl⟩ := hcall.same hcall' hle
    have hkind : context.kind = context'.kind := by rw [hcall.kind_eq, hcall'.kind_eq]
    have hsame : context.method = context'.method := by rw [hcall.method_eq, hcall'.method_eq]
    have hmatched : context.matched = context'.matched := by
      rw [hcall.matched_eq, hcall'.matched_eq, hstart]
    rw [hclassify', context_eq_of_classify hclassify hclassify' hkind hsame hmatched hstart]
  · exact absurd (hcall.isOpen.mono hle) (hclosed method context.matchStart)

/-- The context of a cursor at 33 in two nested calls. -/
def nestedPropContext : Context where
  offset := 33
  kind := .props
  method := some .props
  matched := ".props('de".toList
  matchStart := 23
  word := ['d', 'e']
  wordSpan := ⟨31, 33⟩
  surround := none
  surroundSpan := none

/-- The smaller window starts with the inner call, the larger one has the outer call as well. -/
theorem larger_lookback_keeps_call_nested :
    classify nestedCalls 33 10 = .ok (some nestedPropContext) ∧
    OpenCallAt nestedCalls 33 defaultLookback .on 1 ∧
    classify nestedCalls 33 defaultLookback = .ok (some nestedPropContext) := by
  have hclassify : classify nestedCalls 33 10 = .ok (some nestedPropContext) := by
    rw [classify_eq (by decide)]
    exact congrArg Except.ok (by decide +kernel)
  have houter : OpenCallAt nestedCalls 33 defaultLookback .on 1 :=
    ⟨⟨"'click', lambda: c.props('de".toList, ⟨[], [], by simp, by simp, by decide⟩, by decide,
      by decide⟩, by decide⟩
  exact ⟨hclassify, houter, larger_lookback_keeps_call nestedCalls 33 10 defaultLookback
    nestedPropContext (by decide) (by decide) hclassify (by decide)⟩

end FluentAssist.Cursor
