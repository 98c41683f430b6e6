import FluentAssist.Proofs.Text.Lines
import FluentAssist.Text.Position
import Mathlib.Data.Prod.Lex
import Mathlib.Order.Monotone.Defs

/-!
# Offsets and positions

A position counts line breaks and then UTF-16 units, an offset counts bytes. The two agree about the
order of the boundaries of a text and can be turned into each other: what a boundary has before it
decides its position, and walking to the position's line and then to its column comes back to it.

A position has room for numbers below `2 ^ 32`; every number in the position of a smaller text fits.
`positions_lossless` is the main statement.
-/

set_option autoImplicit false

namespace FluentAssist

/-- Positions are ordered by line, and in a line by character. -/
def Position.key (position : Position) : ℕ ×ₗ ℕ := toLex (position.line, position.character)

namespace Text

/-- Every character takes a code unit. -/
theorem unitsOf_pos (c : Char) : 0 < unitsOf c := by
  unfold unitsOf
  split <;> omega

/-- A text that is not empty takes some code units. -/
theorem units_pos {text : Text} (h : text ≠ []) : 0 < units text := by
  cases text with
  | nil => exact absurd rfl h
  | cons c rest =>
    have hc := unitsOf_pos c
    rw [units]
    omega

/-- No character takes more code units than bytes. -/
theorem unitsOf_le_utf8Size (c : Char) : unitsOf c ≤ c.utf8Size := by
  have hpos := Char.utf8Size_pos c
  unfold unitsOf
  split
  · omega
  · next hplane =>
    -- Only the characters below 128 have a single byte.
    have hne : c.utf8Size ≠ 1 := by
      rw [ne_eq, Char.utf8Size_eq_one_iff, UInt32.le_iff_toNat_le]
      have hval : c.toNat = c.val.toNat := rfl
      have hseven : (127 : UInt32).toNat = 127 := rfl
      omega
    omega

/-- No text takes more code units than bytes. -/
theorem units_le_bytes (text : Text) : units text ≤ bytes text := by
  induction text with
  | nil => simp [units]
  | cons c rest ih =>
    have hc := unitsOf_le_utf8Size c
    rw [units, bytes_cons]
    omega

/-! ## From offsets to positions -/

/-- In a text of less than `2 ^ 32` bytes, the position of a boundary has the number of line breaks
before it and the number of units since the last one. -/
theorem positionAt_of_append {text before after : Text} {offset : Nat}
    (hsize : bytes text < wordSize32) (htext : before ++ after = text)
    (hoffset : bytes before = offset) :
    positionAt text offset =
      ⟨before.countP isNewline, units (afterLast isNewline before)⟩ := by
  obtain ⟨front, hfront, -⟩ := exists_append_afterLast isNewline before
  have hbefore : bytes before ≤ bytes text := by
    rw [← htext, bytes_append]
    omega
  have hline : before.countP isNewline < wordSize32 := by
    have hcount : before.countP isNewline ≤ before.length := List.countP_le_length
    have hlength := length_le_bytes before
    omega
  have hcharacter : units (afterLast isNewline before) < wordSize32 := by
    have hunits := units_le_bytes (afterLast isNewline before)
    have hbytes := congrArg bytes hfront
    rw [bytes_append] at hbytes
    omega
  simp only [positionAt, splitAtOffset_of_append htext hoffset, Nat.mod_eq_of_lt hline,
    Nat.mod_eq_of_lt hcharacter]

/-- An offset and the boundary below it have the same position. -/
theorem positionAt_floorOffset (text : Text) (offset : Nat) :
    positionAt text (floorOffset text offset) = positionAt text offset := by
  simp only [positionAt, splitAtOffset_floorOffset]

/-- What follows a boundary moves the position on: to a later line if it has a line break, else to a
later character of the same line. -/
theorem positionAt_lt_positionAt {text : Text} (hsize : bytes text < wordSize32)
    {first second : Nat} (hfirst : IsBoundary text first) (hsecond : IsBoundary text second)
    (hlt : first < second) :
    (positionAt text first).key < (positionAt text second).key := by
  obtain ⟨before, after, htext, hoffset⟩ := hfirst
  obtain ⟨before', after', htext', hoffset'⟩ := hsecond
  obtain ⟨between, hbetween, -⟩ :=
    exists_append_of_bytes_le (htext.trans htext'.symm) (by omega : bytes before ≤ bytes before')
  rw [positionAt_of_append hsize htext hoffset, positionAt_of_append hsize htext' hoffset',
    Position.key, Position.key, Prod.Lex.toLex_lt_toLex]
  by_cases hbreak : ∃ c ∈ between, isNewline c = true
  · left
    have hcount : 0 < between.countP isNewline := List.countP_pos_iff.2 hbreak
    simp only [hbetween, List.countP_append]
    omega
  · right
    have hunbroken : ∀ c ∈ between, isNewline c = false := by simpa using hbreak
    have hcount : between.countP isNewline = 0 := by
      rw [List.countP_eq_zero]
      simpa using hbreak
    have hne : between ≠ [] := by
      rintro rfl
      rw [List.append_nil] at hbetween
      rw [hbetween] at hoffset'
      omega
    have hunits := units_pos hne
    simp only [hbetween, List.countP_append, afterLast_append hunbroken, units_append]
    omega

/-- All boundaries inside a line have the number of line breaks in front of the line. -/
theorem LineParts.line_positionAt {text front head tail back : Text} {offset : Nat}
    (h : LineParts text offset front head tail back) {before after : Text}
    (hline : head ++ tail = before ++ after) :
    (positionAt text (bytes front + bytes before)).line =
      front.countP isNewline % wordSize32 := by
  have htext : (front ++ before) ++ (after ++ back) = text := by
    rw [h.text_eq, List.append_assoc, ← List.append_assoc before, ← hline, List.append_assoc]
  have hcount : before.countP isNewline = 0 := by
    have hbefore : ∀ c ∈ before, isNewline c = false := fun c hc =>
      h.unbroken c (hline ▸ List.mem_append_left after hc)
    rw [List.countP_eq_zero]
    simpa using hbefore
  simp only [positionAt, splitAtOffset_of_append htext (bytes_append _ _), List.countP_append,
    hcount, Nat.add_zero]

/-- Both ends of a range inside the line around an offset have the line of that offset. -/
theorem line_positionRange {text part : Text} {offset : Nat} {span : Span}
    (h : span.HoldsOnLine text offset part) :
    (positionRange text span).start.line = (positionAt text offset).line ∧
      (positionRange text span).stop.line = (positionAt text offset).line := by
  obtain ⟨front, head, tail, back, hparts⟩ := exists_lineParts text offset
  obtain ⟨inner, hinner, rfl⟩ := h
  rw [hparts.holds.slice_eq] at hinner
  have hboundary : ∀ {column}, IsBoundary (head ++ tail) column →
      (positionAt text (column + (lineBounds text offset).start)).line =
        (positionAt text offset).line := by
    rintro column ⟨before, after, hline, rfl⟩
    rw [← positionAt_floorOffset text offset, hparts.floorOffset_eq, hparts.line_positionAt rfl,
      hparts.lineBounds_eq, Nat.add_comm, hparts.line_positionAt hline.symm]
  exact ⟨hboundary hinner.isBoundary_start, hboundary hinner.isBoundary_stop⟩

/-! ## And back -/

/-- A line starts after the line breaks before it. -/
theorem lineStart?_concat {c : Char} (hc : isNewline c = true) (init rest : Text) :
    lineStart? (init ++ c :: rest) (init.countP isNewline + 1) =
      some (bytes (init ++ [c]), rest) := by
  induction init with
  | nil => simp [lineStart?, hc]
  | cons d init ih =>
    by_cases hd : isNewline d = true
    · simp [lineStart?, hd, ih]
    · simp [lineStart?, hd, ih]

/-- The line behind as many line feeds as the text before it has starts there. -/
theorem lineStart?_countP {front : Text}
    (hfront : front = [] ∨ ∃ init c, front = init ++ [c] ∧ isNewline c = true) (rest : Text) :
    lineStart? (front ++ rest) (front.countP isNewline) = some (bytes front, rest) := by
  rcases hfront with rfl | ⟨init, c, rfl, hc⟩
  · simp [lineStart?]
  · simpa [hc] using lineStart?_concat hc init rest

/-- In a line, the units of its beginning lead to the end of that beginning. -/
theorem columnBytes_units {line : Text} (hline : ∀ c ∈ line, isNewline c = false) (after : Text) :
    columnBytes (line ++ after) (units line) = bytes line := by
  induction line with
  | nil => cases after <;> simp [columnBytes, units]
  | cons c rest ih =>
    have hc := unitsOf_pos c
    have hne : ¬ unitsOf c + units rest = 0 := by omega
    have hrest := ih fun d hd => hline d (List.mem_cons_of_mem c hd)
    rw [units, List.cons_append, columnBytes, hline c (List.mem_cons_self ..)]
    simp only [hne, decide_false, Bool.or_false, Bool.false_eq_true, if_false,
      Nat.add_sub_cancel_left, hrest, bytes_cons]

/-- The position of an offset leads back to the boundary below it. -/
theorem offsetAt_positionAt {text : Text} (hsize : bytes text < wordSize32) (offset : Nat) :
    offsetAt text (positionAt text offset) = floorOffset text offset := by
  obtain ⟨before, after, htext, hfloor⟩ := isBoundary_floorOffset text offset
  rw [← positionAt_floorOffset, positionAt_of_append hsize htext hfloor, ← hfloor, ← htext]
  obtain ⟨front, hfront, hline, hbreak⟩ := exists_append_afterLast isNewline before
  generalize afterLast isNewline before = line at hfront hline ⊢
  subst hfront
  have hcount : line.countP isNewline = 0 := by
    rw [List.countP_eq_zero]
    simpa using hline
  simp only [offsetAt, List.countP_append, hcount, Nat.add_zero, List.append_assoc,
    lineStart?_countP hbreak, columnBytes_units hline, bytes_append]

/-- **Offsets and positions convert without loss.** In every text of less than `2 ^ 32` bytes, the
positions of the character boundaries are ordered as the boundaries are, the position of an offset
leads back to the boundary at or before it, and a range between two boundaries is the same after it
was turned into positions and back. -/
theorem positions_lossless (text : Text) (hsize : bytes text < wordSize32) :
    StrictMonoOn (fun offset => (positionAt text offset).key) {offset | IsBoundary text offset} ∧
    (∀ offset, offsetAt text (positionAt text offset) = floorOffset text offset) ∧
    (∀ span : Span, IsBoundary text span.start → IsBoundary text span.stop →
      Span.mk (offsetAt text (positionRange text span).start)
        (offsetAt text (positionRange text span).stop) = span) := by
  refine ⟨?_, offsetAt_positionAt hsize, ?_⟩
  · intro first hfirst second hsecond hlt
    exact positionAt_lt_positionAt hsize hfirst hsecond hlt
  · intro span hstart hstop
    simp only [positionRange, offsetAt_positionAt hsize, floorOffset_eq_self hstart,
      floorOffset_eq_self hstop]

/-- A line break before a character of two units and four bytes: the offset inside that character is
moved to its start, and the range around it and the line break comes back. -/
theorem positions_lossless_two_units :
    bytes "é\n😀x".toList < wordSize32 ∧
    (positionAt "é\n😀x".toList 3).key < (positionAt "é\n😀x".toList 7).key ∧
    offsetAt "é\n😀x".toList (positionAt "é\n😀x".toList 5) = 3 ∧
    Span.mk (offsetAt "é\n😀x".toList (positionRange "é\n😀x".toList ⟨2, 7⟩).start)
      (offsetAt "é\n😀x".toList (positionRange "é\n😀x".toList ⟨2, 7⟩).stop) = ⟨2, 7⟩ := by
  have hsize : bytes "é\n😀x".toList < wordSize32 := by decide
  have hbreak : IsBoundary "é\n😀x".toList 2 := ⟨['é'], ['\n', '😀', 'x'], by decide, by decide⟩
  have hemoji : IsBoundary "é\n😀x".toList 3 := ⟨['é', '\n'], ['😀', 'x'], by decide, by decide⟩
  have hlast : IsBoundary "é\n😀x".toList 7 := ⟨['é', '\n', '😀'], ['x'], by decide, by decide⟩
  obtain ⟨hmono, hback, hrange⟩ := positions_lossless "é\n😀x".toList hsize
  exact ⟨hsize, hmono hemoji hlast (by decide), (hback 5).trans (by decide),
    hrange ⟨2, 7⟩ hbreak hlast⟩

end Text

end FluentAssist
