import FluentAssist.Proofs.Text.Boundary
import Mathlib

/-!
# Moving by characters

The boundaries of a text are numbered from 0 (`boundary`), in the order of their offsets. Moving an
offset by a number of characters adds that number to the number of its boundary and stops at the
first and at the last one (`clampTo`). All else follows from this one equation: moves keep the order
of offsets and of distances, and two moves are one if the first does not stop early.

`shifts_clamped` is the main statement. It also reads both directions off the places where
characters start, as a walk along the text would: forward they are counted from the offset on, with
the end of the text behind them, and backward from the nearest one, where the first step already
leads to a start.
-/

set_option autoImplicit false

namespace FluentAssist.Text

variable {text : Text}

/-! ## Boundaries by number -/

/-- The boundary behind the first `count` characters. -/
def boundary (text : Text) (count : Nat) : Nat := bytes (text.take count)

/-- The number from 0 to `last` that is nearest to `place`. -/
def clampTo (last : Nat) (place : Int) : Nat := (max 0 (min place last)).toNat

/-- The first boundary is the start. -/
@[simp] theorem boundary_zero (text : Text) : boundary text 0 = 0 := rfl

/-- The last boundary is the end. -/
@[simp] theorem boundary_length (text : Text) : boundary text text.length = bytes text := by
  rw [boundary, List.take_length]

/-- A later boundary is as many bytes further as the characters between take. -/
theorem boundary_add (text : Text) (count more : Nat) :
    boundary text (count + more) = boundary text count + bytes ((text.drop count).take more) := by
  rw [boundary, List.take_add, bytes_append, boundary]

/-- Beyond the last character there is only the end. -/
theorem boundary_eq_bytes {count : Nat} (h : text.length ≤ count) :
    boundary text count = bytes text := by
  rw [boundary, List.take_of_length_le h]

/-- Different numbers of characters have different boundaries, in their order. -/
theorem boundary_strictMonoOn (text : Text) :
    StrictMonoOn (boundary text) (Set.Iic text.length) := by
  intro first _ second hsecond hlt
  obtain ⟨more, rfl⟩ := Nat.exists_eq_add_of_le (Nat.le_of_lt hlt)
  have hlength : first + more ≤ text.length := hsecond
  have hne : (text.drop first).take more ≠ [] := by
    rw [← List.length_pos_iff, List.length_take, List.length_drop]
    omega
  have hpos := bytes_pos hne
  rw [boundary_add]
  omega

/-- Boundaries follow the order of their numbers. -/
theorem boundary_mono (text : Text) : Monotone (boundary text) := by
  intro first second hle
  obtain ⟨more, rfl⟩ := Nat.exists_eq_add_of_le hle
  rw [boundary_add]
  exact Nat.le_add_right _ _

/-- The boundaries are numbered by the characters before them. -/
theorem isBoundary_iff_exists {offset : Nat} :
    IsBoundary text offset ↔ ∃ count ≤ text.length, boundary text count = offset := by
  constructor
  · rintro ⟨before, after, rfl, rfl⟩
    refine ⟨before.length, ?_, ?_⟩
    · rw [List.length_append]
      exact Nat.le_add_right _ _
    · rw [boundary, List.take_left]
  · rintro ⟨count, -, rfl⟩
    exact ⟨text.take count, text.drop count, List.take_append_drop _ _, rfl⟩

/-- A text is split at a numbered boundary behind as many characters. -/
theorem splitAtOffset_boundary (text : Text) (count : Nat) :
    splitAtOffset text (boundary text count) = (text.take count, text.drop count) :=
  splitAtOffset_of_append (List.take_append_drop _ _) rfl

/-- An offset rounded down is a numbered boundary. -/
theorem exists_floorOffset_eq (text : Text) (offset : Nat) :
    ∃ count ≤ text.length, floorOffset text offset = boundary text count := by
  obtain ⟨count, hcount, hoffset⟩ := isBoundary_iff_exists.1 (isBoundary_floorOffset text offset)
  exact ⟨count, hcount, hoffset.symm⟩

/-- The floor of an offset is the greatest boundary that is not behind it. -/
theorem isGreatest_floorOffset (text : Text) (offset : Nat) :
    IsGreatest {place | IsBoundary text place ∧ place ≤ offset} (floorOffset text offset) := by
  refine ⟨⟨isBoundary_floorOffset text offset, bytes_splitAtOffset_le text offset⟩, ?_⟩
  rintro _ ⟨⟨before, after, rfl, rfl⟩, hle⟩
  obtain ⟨more, rfl⟩ := Nat.exists_eq_add_of_le hle
  rw [floorOffset_append_add]
  exact Nat.le_add_right _ _

/-- Rounding down keeps the order of offsets. -/
theorem floorOffset_mono (text : Text) : Monotone (floorOffset text) := by
  intro first second hle
  obtain ⟨hboundary, hfloor⟩ := (isGreatest_floorOffset text first).1
  exact (isGreatest_floorOffset text second).2 ⟨hboundary, hfloor.trans hle⟩

/-! ## Moves -/

/-- Shifting starts at the boundary below the offset. -/
theorem shiftChars_floorOffset (text : Text) (offset : Nat) (delta : Int) :
    shiftChars text (floorOffset text offset) delta = shiftChars text offset delta := by
  rw [shiftChars, shiftChars, splitAtOffset_floorOffset]

/-- A move adds to the number of a boundary and stops at the first and at the last one. -/
theorem shiftChars_boundary {count : Nat} (hcount : count ≤ text.length) (delta : Int) :
    shiftChars text (boundary text count) delta =
      boundary text (clampTo text.length (count + delta)) := by
  rw [shiftChars, splitAtOffset_boundary]
  by_cases hforward : 0 ≤ delta
  · simp only [hforward, if_true]
    rw [← boundary, ← boundary_add]
    rcases Nat.le_total (count + delta.toNat) text.length with hinside | hbehind
    · have hclamp : clampTo text.length (count + delta) = count + delta.toNat := by
        unfold clampTo
        omega
      rw [hclamp]
    · have hclamp : clampTo text.length (count + delta) = text.length := by
        unfold clampTo
        omega
      rw [hclamp, boundary_length, boundary_eq_bytes hbehind]
  · simp only [hforward, if_false]
    have hclamp : clampTo text.length (count + delta) = count - delta.natAbs := by
      unfold clampTo
      omega
    rw [hclamp, List.length_take, Nat.min_eq_left hcount, List.take_take,
      Nat.min_eq_left (Nat.sub_le _ _), boundary]

/-- Shifting adds to the number of the boundary and clamps the sum. -/
theorem shiftChars_eq {offset count : Nat} (hcount : count ≤ text.length)
    (hfloor : floorOffset text offset = boundary text count) (delta : Int) :
    shiftChars text offset delta = boundary text (clampTo text.length (count + delta)) := by
  rw [← shiftChars_floorOffset, hfloor, shiftChars_boundary hcount]

/-- A clamped number is at most the last one. -/
theorem clampTo_le (last : Nat) (place : Int) : clampTo last place ≤ last := by
  unfold clampTo
  omega

/-- Clamping keeps the order of numbers. -/
theorem clampTo_mono (last : Nat) : Monotone (clampTo last) := by
  intro first second hle
  unfold clampTo
  omega

/-- Shifting leads to a boundary. -/
theorem isBoundary_shiftChars (text : Text) (offset : Nat) (delta : Int) :
    IsBoundary text (shiftChars text offset delta) := by
  obtain ⟨count, hcount, hfloor⟩ := exists_floorOffset_eq text offset
  rw [shiftChars_eq hcount hfloor]
  exact isBoundary_iff_exists.2 ⟨_, clampTo_le _ _, rfl⟩

/-- Shifting keeps the order of offsets. -/
theorem shiftChars_mono_offset (text : Text) (delta : Int) :
    Monotone fun offset => shiftChars text offset delta := by
  intro first second hle
  obtain ⟨count, hcount, hfloor⟩ := exists_floorOffset_eq text first
  obtain ⟨count', hcount', hfloor'⟩ := exists_floorOffset_eq text second
  have horder : count ≤ count' := by
    rw [← (boundary_strictMonoOn text).le_iff_le hcount hcount', ← hfloor, ← hfloor']
    exact floorOffset_mono text hle
  show shiftChars text first delta ≤ shiftChars text second delta
  rw [shiftChars_eq hcount hfloor, shiftChars_eq hcount' hfloor']
  exact boundary_mono text (clampTo_mono _ (by omega))

/-- Shifting further leads no less far. -/
theorem shiftChars_mono_delta (text : Text) (offset : Nat) :
    Monotone (shiftChars text offset) := by
  intro first second hle
  obtain ⟨count, hcount, hfloor⟩ := exists_floorOffset_eq text offset
  rw [shiftChars_eq hcount hfloor, shiftChars_eq hcount hfloor]
  exact boundary_mono text (clampTo_mono _ (by omega))

/-- Two moves are one, if the first does not stop early. -/
theorem shiftChars_shiftChars {offset count : Nat} {delta : Int} (hcount : count ≤ text.length)
    (hfloor : floorOffset text offset = boundary text count) (hstart : 0 ≤ count + delta)
    (hend : count + delta ≤ text.length) (delta' : Int) :
    shiftChars text (shiftChars text offset delta) delta' =
      shiftChars text offset (delta + delta') := by
  have hinside : (clampTo text.length (count + delta) : Int) = count + delta := by
    unfold clampTo
    omega
  rw [shiftChars_eq hcount hfloor, shiftChars_eq hcount hfloor,
    shiftChars_boundary (clampTo_le _ _), hinside, Int.add_assoc]

/-! ## Walks along the starts of characters -/

/-- The offsets at which the characters of a text start, if the text itself starts at an offset. -/
def startsFrom : Nat → Text → List Nat
  | _, [] => []
  | offset, c :: rest => offset :: startsFrom (offset + c.utf8Size) rest

/-- The starts of the characters are the boundaries but the last, moved by the offset. -/
theorem startsFrom_eq (offset : Nat) (text : Text) :
    startsFrom offset text =
      (List.range text.length).map fun count => offset + boundary text count := by
  induction text generalizing offset with
  | nil => rfl
  | cons c rest ih =>
    rw [startsFrom, ih, List.length_cons, List.range_succ_eq_map, List.map_cons, List.map_map]
    simp [boundary, Function.comp_def, Nat.add_assoc]

/-- The start of a character is its boundary. -/
theorem getElem?_startsFrom {offset count : Nat} (hcount : count < text.length) :
    (startsFrom offset text)[count]? = some (offset + boundary text count) := by
  rw [startsFrom_eq]
  simp [hcount]

/-- Every character has one start. -/
theorem length_startsFrom (offset : Nat) (text : Text) :
    (startsFrom offset text).length = text.length := by
  rw [startsFrom_eq, List.length_map, List.length_range]

/-- The offset to which a walk along the starts of characters leads. Forward, the start at the
offset itself is the first one, and the end of the text follows the last; backward, the first step
leads to the nearest start before the offset. A walk that runs out of places stays at the end it was
going to. -/
def walk (text : Text) (offset : Nat) (delta : Int) : Nat :=
  let (before, after) := splitAtOffset text offset
  if 0 ≤ delta then
    (startsFrom (bytes before) after ++ [bytes text])[delta.natAbs]?.getD (bytes text)
  else (startsFrom 0 before).reverse[delta.natAbs - 1]?.getD 0

/-- Some steps forward from a boundary lead behind as many characters, or to the end. -/
theorem getD_forward (before after : Text) (steps : Nat) :
    (startsFrom (bytes before) after ++ [bytes (before ++ after)])[steps]?.getD
        (bytes (before ++ after)) =
      bytes before + bytes (after.take steps) := by
  rcases Nat.lt_trichotomy steps after.length with hinside | rfl | hbehind
  · rw [List.getElem?_append_left (by rwa [length_startsFrom]), getElem?_startsFrom hinside,
      Option.getD_some, boundary]
  · rw [List.getElem?_append_right (by rw [length_startsFrom]), length_startsFrom, Nat.sub_self,
      List.take_length, ← bytes_append]
    rfl
  · have hlength :
        (startsFrom (bytes before) after ++ [bytes (before ++ after)]).length ≤ steps := by
      rw [List.length_append, length_startsFrom, List.length_singleton]
      omega
    rw [List.getElem?_eq_none hlength, Option.getD_none,
      List.take_of_length_le (Nat.le_of_lt hbehind), bytes_append]

/-- Some steps backward from a boundary lead before as many characters, or to the start. -/
theorem getD_backward (before : Text) {steps : Nat} (hsteps : 0 < steps) :
    (startsFrom 0 before).reverse[steps - 1]?.getD 0 =
      bytes (before.take (before.length - steps)) := by
  rcases Nat.lt_or_ge before.length steps with hbehind | hinside
  · have hlength : (startsFrom 0 before).reverse.length ≤ steps - 1 := by
      rw [List.length_reverse, length_startsFrom]
      omega
    have hzero : before.length - steps = 0 := by omega
    rw [List.getElem?_eq_none hlength, Option.getD_none, hzero, List.take_zero, bytes_nil]
  · have hplace : before.length - 1 - (steps - 1) = before.length - steps := by omega
    rw [List.getElem?_reverse (by rw [length_startsFrom]; omega), length_startsFrom, hplace,
      getElem?_startsFrom (by omega), Option.getD_some, Nat.zero_add, boundary]

/-- Moving leads where the walk leads. -/
theorem shiftChars_eq_walk (text : Text) (offset : Nat) (delta : Int) :
    shiftChars text offset delta = walk text offset delta := by
  have htext := splitAtOffset_append text offset
  rw [shiftChars, walk]
  generalize splitAtOffset text offset = parts at htext ⊢
  subst htext
  by_cases hforward : 0 ≤ delta
  · have hsteps : delta.toNat = delta.natAbs := by omega
    simp only [hforward, if_true, getD_forward, hsteps]
  · have hsteps : 0 < delta.natAbs := by omega
    simp only [hforward, if_false, getD_backward _ hsteps]

/-- **Moving by characters adds to the number of a boundary and stops at both ends.** The numbered
boundaries of a text are all its boundaries in their order, from 0 to its length. For every offset,
whose floor is the boundary with some number, and every distance, however large: the move leads to
the boundary with the sum of both numbers, or with the nearest number that there is. So it always
leads to a boundary, keeps the order of offsets and of distances, and two moves are one if the first
does not stop early. The walks along the starts of characters, forward and backward, lead to the
same places. -/
theorem shifts_clamped (text : Text) :
    (boundary text 0 = 0 ∧ boundary text text.length = bytes text ∧
      StrictMonoOn (boundary text) (Set.Iic text.length) ∧
      ∀ offset, IsBoundary text offset ↔ ∃ count ≤ text.length, boundary text count = offset) ∧
    (∀ offset, IsGreatest {place | IsBoundary text place ∧ place ≤ offset}
      (floorOffset text offset)) ∧
    (∀ (offset count : Nat) (delta : Int), count ≤ text.length →
      floorOffset text offset = boundary text count →
      shiftChars text offset delta = boundary text (clampTo text.length (count + delta))) ∧
    (∀ offset delta, IsBoundary text (shiftChars text offset delta)) ∧
    (∀ delta, Monotone fun offset => shiftChars text offset delta) ∧
    (∀ offset, Monotone (shiftChars text offset)) ∧
    (∀ (offset count : Nat) (delta delta' : Int), count ≤ text.length →
      floorOffset text offset = boundary text count → 0 ≤ count + delta →
      count + delta ≤ text.length →
      shiftChars text (shiftChars text offset delta) delta' =
        shiftChars text offset (delta + delta')) ∧
    ∀ offset delta, shiftChars text offset delta = walk text offset delta :=
  ⟨⟨boundary_zero text, boundary_length text, boundary_strictMonoOn text,
      fun _ => isBoundary_iff_exists⟩,
    isGreatest_floorOffset text,
    fun _ _ delta hcount hfloor => shiftChars_eq hcount hfloor delta,
    isBoundary_shiftChars text,
    shiftChars_mono_offset text,
    shiftChars_mono_delta text,
    fun _ _ _ delta' hcount hfloor hstart hend =>
      shiftChars_shiftChars hcount hfloor hstart hend delta',
    shiftChars_eq_walk text⟩

/-- From inside of the second character one back. -/
example : shiftChars "aé b".toList 2 (-1) = 0 := by decide

end FluentAssist.Text
