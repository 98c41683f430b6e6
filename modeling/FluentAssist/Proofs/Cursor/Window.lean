import FluentAssist.Cursor.Context
import FluentAssist.Proofs.Text.Boundary
import Mathlib.Data.List.DropRight

/-!
# The window before the cursor

A lookback of at most `2 ^ 63` is negated as the number that it is, so the window that
classification searches is made of the last `lookback` characters before the cursor, and
classification always answers. Everything that a window shows is a piece of the document that ends
at the cursor.
-/

set_option autoImplicit false

namespace FluentAssist.Cursor

open Text (bytes floorOffset splitAtOffset)

/-- The last `count` characters before an offset. -/
def lastBefore (text : Text) (offset count : Nat) : Text :=
  (splitAtOffset text offset).1.rtake count

/-- The text from `start` to the cursor. -/
def textFrom (text : Text) (offset start : Nat) : Text :=
  Span.slice ⟨start, floorOffset text offset⟩ text

/-- A lookback below half the word size is negated as a number. -/
theorem negate64_asSigned64 {n : Nat} (h : n ≤ wordSize63) :
    negate64 (asSigned64 n) = -(n : Int) := by
  unfold negate64 asSigned64 Int.bmod
  simp only [wordSize63, wordSize64] at *
  omega

variable {text : Text} {offset lookback : Nat}

/-- The window starts behind all characters but the last ones before the cursor. -/
theorem windowStart_eq (hlookback : lookback ≤ wordSize63) :
    windowStart text (floorOffset text offset) lookback =
      bytes ((splitAtOffset text offset).1.rdrop lookback) := by
  rw [windowStart, negate64_asSigned64 hlookback, Text.shiftChars, Text.splitAtOffset_floorOffset]
  by_cases hzero : lookback = 0
  · simp [hzero]
  · simp [hzero, List.rdrop]

/-- What stands before the window and the window make up what stands before the cursor. -/
theorem rdrop_append_lastBefore :
    (splitAtOffset text offset).1.rdrop lookback ++ lastBefore text offset lookback =
      (splitAtOffset text offset).1 :=
  List.take_append_drop _ _

/-- The text before the window and the window together reach to the cursor. -/
theorem bytes_rdrop_add_bytes_lastBefore :
    bytes ((splitAtOffset text offset).1.rdrop lookback) +
      bytes (lastBefore text offset lookback) = floorOffset text offset := by
  rw [← Text.bytes_append, rdrop_append_lastBefore]
  rfl

/-- The window has the lookback's number of characters, or all there are. -/
theorem length_lastBefore :
    (lastBefore text offset lookback).length =
      min lookback (splitAtOffset text offset).1.length := by
  simp only [lastBefore, List.rtake, List.length_drop]
  omega

/-- The window stands between its start and the cursor. -/
theorem lastBefore_holds :
    Span.Holds ⟨bytes ((splitAtOffset text offset).1.rdrop lookback), floorOffset text offset⟩ text
      (lastBefore text offset lookback) := by
  refine ⟨(splitAtOffset text offset).1.rdrop lookback, (splitAtOffset text offset).2, ?_, ?_⟩
  · rw [← List.append_assoc, rdrop_append_lastBefore, Text.splitAtOffset_append]
  · rw [bytes_rdrop_add_bytes_lastBefore]

/-- A lookback up to half the word size gives the last characters before the cursor as the window.
-/
theorem window_eq (hlookback : lookback ≤ wordSize63) :
    window text (floorOffset text offset) lookback =
      .ok (bytes ((splitAtOffset text offset).1.rdrop lookback),
        lastBefore text offset lookback) := by
  have hholds : Span.Holds
      ⟨bytes ((splitAtOffset text offset).1.rdrop lookback), floorOffset text offset⟩ text
      (lastBefore text offset lookback) := lastBefore_holds
  rw [window, windowStart_eq hlookback, hholds.slice_eq, if_pos hholds.start_le_stop]

/-- The cursor is classified by what is recognised in the last characters before it. -/
theorem classify_eq (hlookback : lookback < wordSize63) :
    classify text offset lookback =
      .ok ((recognise? (lastBefore text offset lookback)).map
        (contextAt text (floorOffset text offset)
          (bytes ((splitAtOffset text offset).1.rdrop lookback)))) := by
  rw [classify, window_eq (Nat.le_of_lt hlookback)]
  rfl

/-- A text that is not empty reaches from an offset to the cursor exactly if it ends what stands
before the cursor and starts there. -/
theorem textFrom_eq_iff {start : Nat} {rest : Text} (hrest : rest ≠ []) :
    textFrom text offset start = rest ↔
      ∃ front, (splitAtOffset text offset).1 = front ++ rest ∧ bytes front = start := by
  have hsplit := Text.splitAtOffset_append text offset
  constructor
  · rintro rfl
    obtain ⟨front, after, htext, hspan⟩ := Span.Holds.of_slice_ne_nil hrest
    rw [Span.mk.injEq] at hspan
    refine ⟨front, ?_, hspan.1.symm⟩
    rw [← List.append_assoc] at htext
    have hcursor : bytes (front ++ textFrom text offset start) = floorOffset text offset := by
      rw [Text.bytes_append]
      exact hspan.2.symm
    have hfront := Text.splitAtOffset_of_append htext.symm hcursor
    rw [Text.splitAtOffset_floorOffset] at hfront
    exact congrArg Prod.fst hfront
  · rintro ⟨front, hfront, rfl⟩
    apply Span.Holds.slice_eq
    refine ⟨front, (splitAtOffset text offset).2, ?_, ?_⟩
    · rw [← List.append_assoc, ← hfront, hsplit]
    · rw [floorOffset, hfront, Text.bytes_append]

/-- From a later offset to the cursor there is less text. -/
theorem textFrom_suffix {start later : Nat} (hstart : textFrom text offset start ≠ [])
    (hlater : textFrom text offset later ≠ []) (hle : start ≤ later) :
    textFrom text offset later <:+ textFrom text offset start := by
  obtain ⟨front, hfront, hbytes⟩ := (textFrom_eq_iff hstart).1 rfl
  obtain ⟨front', hfront', hbytes'⟩ := (textFrom_eq_iff hlater).1 rfl
  obtain ⟨between, -, hbetween⟩ :=
    Text.exists_append_of_bytes_le (hfront.symm.trans hfront') (by omega)
  exact ⟨between, hbetween.symm⟩

end FluentAssist.Cursor
