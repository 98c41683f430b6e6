import FluentAssist.Text.Basic
import Mathlib.Data.List.Basic

/-!
# Character boundaries

An offset is a character boundary of a text if some beginning of the text has exactly that many
bytes. This file has the facts about boundaries that offsets and ranges rest on: a boundary splits
a text in one way only, `floorOffset` gives a boundary and leaves boundaries as they are, and a
range `Span.Holds` a part of a text if it is the byte range of an occurrence of that part.

Ranges are computed inside a line or inside a literal and moved to the document afterwards;
`Span.Holds.shift` says that this keeps what they hold.
-/

set_option autoImplicit false

namespace FluentAssist

namespace Text

/-- An offset between two characters of a text, or at either end of it. -/
def IsBoundary (text : Text) (offset : Nat) : Prop :=
  ∃ before after, before ++ after = text ∧ bytes before = offset

/-- A text that is not empty takes some bytes. -/
theorem bytes_pos {text : Text} (h : text ≠ []) : 0 < bytes text := by
  cases text with
  | nil => exact absurd rfl h
  | cons c rest =>
    have hc := Char.utf8Size_pos c
    rw [bytes_cons]
    omega

/-- Only the empty text takes no bytes. -/
@[simp] theorem bytes_eq_zero_iff {text : Text} : bytes text = 0 ↔ text = [] := by
  constructor
  · intro hzero
    by_contra hne
    have hpos := bytes_pos hne
    omega
  · rintro rfl
    rfl

/-- Every character takes at least one byte. -/
theorem length_le_bytes (text : Text) : text.length ≤ bytes text := by
  induction text with
  | nil => simp
  | cons c rest ih =>
    have hc := Char.utf8Size_pos c
    simp only [List.length_cons, bytes_cons]
    omega

/-- Of two beginnings of a text, the one with fewer bytes is a beginning of the other. -/
theorem exists_append_of_bytes_le {before after before' after' : Text}
    (h : before ++ after = before' ++ after') (hle : bytes before ≤ bytes before') :
    ∃ between, before' = before ++ between ∧ after = between ++ after' := by
  rcases List.append_eq_append_iff.1 h with ⟨between, hlong, hrest⟩ | ⟨between, hlong, hrest⟩
  · exact ⟨between, hlong, hrest⟩
  · have hzero : bytes between = 0 := by
      rw [hlong, bytes_append] at hle
      omega
    rw [bytes_eq_zero_iff] at hzero
    subst hzero
    exact ⟨[], by simpa using hlong.symm, by simpa using hrest.symm⟩

/-- Splitting at a boundary gives the two parts that meet there. -/
theorem splitAtOffset_of_append {text before after : Text} {offset : Nat}
    (htext : before ++ after = text) (hoffset : bytes before = offset) :
    splitAtOffset text offset = (before, after) := by
  rw [← htext, ← hoffset]
  exact splitAtOffset_bytes before after

/-- Where a text is split depends on what follows only through the next character. -/
theorem splitAtOffset_exchange {before after after' : Text} {c : Char} {offset : Nat}
    (h : splitAtOffset (before ++ c :: after) offset = (before, c :: after)) :
    splitAtOffset (before ++ c :: after') offset = (before, c :: after') := by
  induction before generalizing offset with
  | nil =>
    rw [List.nil_append, splitAtOffset] at h ⊢
    split at h
    · cases h
    · next hinside => rw [if_neg hinside]
  | cons d before ih =>
    rw [List.cons_append, splitAtOffset] at h ⊢
    split at h
    · next hpast =>
      have hrest : splitAtOffset (before ++ c :: after) (offset - d.utf8Size) =
          (before, c :: after) := by
        simp only [Prod.mk.injEq, List.cons.injEq, true_and] at h
        exact Prod.ext h.1 h.2
      rw [if_pos hpast, ih hrest]
    · cases h

/-- A boundary stays one when text is added behind. -/
theorem IsBoundary.append {text : Text} {offset : Nat} (h : IsBoundary text offset) (more : Text) :
    IsBoundary (text ++ more) offset := by
  obtain ⟨before, after, rfl, hoffset⟩ := h
  exact ⟨before, after ++ more, (List.append_assoc _ _ _).symm, hoffset⟩

/-- An offset rounded down is a boundary. -/
theorem isBoundary_floorOffset (text : Text) (offset : Nat) :
    IsBoundary text (floorOffset text offset) :=
  ⟨_, _, splitAtOffset_append text offset, rfl⟩

/-- Splitting at an offset and at its floor is the same. -/
theorem splitAtOffset_floorOffset (text : Text) (offset : Nat) :
    splitAtOffset text (floorOffset text offset) = splitAtOffset text offset :=
  splitAtOffset_of_append (splitAtOffset_append text offset) rfl

/-- A boundary is not rounded. -/
theorem floorOffset_eq_self {text : Text} {offset : Nat} (h : IsBoundary text offset) :
    floorOffset text offset = offset := by
  obtain ⟨before, after, htext, hoffset⟩ := h
  rw [floorOffset, splitAtOffset_of_append htext hoffset]
  exact hoffset

/-- Behind a beginning of a text the floor is that of the rest. -/
theorem floorOffset_append_add (before rest : Text) (offset : Nat) :
    floorOffset (before ++ rest) (bytes before + offset) = bytes before + floorOffset rest offset := by
  induction before with
  | nil => simp
  | cons c before ih =>
    have hle : c.utf8Size ≤ bytes (c :: before) + offset := by
      rw [bytes_cons]
      omega
    have hrest : bytes (c :: before) + offset - c.utf8Size = bytes before + offset := by
      rw [bytes_cons]
      omega
    rw [floorOffset] at ih ⊢
    rw [List.cons_append, splitAtOffset, if_pos hle, hrest, bytes_cons, bytes_cons, ih,
      Nat.add_assoc]

/-- What follows a text does not matter for an offset in it. -/
theorem floorOffset_append_of_le {text : Text} {offset : Nat} (hle : offset ≤ bytes text)
    (after : Text) : floorOffset (text ++ after) offset = floorOffset text offset := by
  induction text generalizing offset with
  | nil =>
    obtain rfl : offset = 0 := Nat.le_zero.1 hle
    exact floorOffset_eq_self ⟨[], after, rfl, rfl⟩
  | cons c text ih =>
    rw [floorOffset, floorOffset, List.cons_append, splitAtOffset, splitAtOffset]
    by_cases hc : c.utf8Size ≤ offset
    · have hrest : offset - c.utf8Size ≤ bytes text := by
        rw [bytes_cons] at hle
        omega
      have htext := ih hrest
      rw [floorOffset, floorOffset] at htext
      rw [if_pos hc, if_pos hc, bytes_cons, bytes_cons, htext]
    · rw [if_neg hc, if_neg hc]

/-- An offset behind a text is moved to its end. -/
theorem floorOffset_of_bytes_le {text : Text} {offset : Nat} (hle : bytes text ≤ offset) :
    floorOffset text offset = bytes text := by
  obtain ⟨more, rfl⟩ := Nat.exists_eq_add_of_le hle
  have hrest := floorOffset_append_add text [] more
  rwa [List.append_nil] at hrest

end Text

namespace Span

/-- A range of a text is where `part` stands. -/
def Holds (span : Span) (text part : Text) : Prop :=
  ∃ before after, text = before ++ (part ++ after) ∧
    span = ⟨Text.bytes before, Text.bytes before + Text.bytes part⟩

namespace Holds

variable {span : Span} {text part : Text}

/-- What is read in a range is the part that it holds. -/
theorem slice_eq (h : span.Holds text part) : span.slice text = part := by
  obtain ⟨before, after, rfl, rfl⟩ := h
  simp [slice, Text.splitAtOffset_bytes]

/-- A range that holds something ends behind its start. -/
theorem start_le_stop (h : span.Holds text part) : span.start ≤ span.stop := by
  obtain ⟨before, after, rfl, rfl⟩ := h
  exact Nat.le_add_right _ _

/-- A range that holds something starts at a boundary. -/
theorem isBoundary_start (h : span.Holds text part) : Text.IsBoundary text span.start := by
  obtain ⟨before, after, rfl, rfl⟩ := h
  exact ⟨before, part ++ after, rfl, rfl⟩

/-- A range that holds something ends at a boundary. -/
theorem isBoundary_stop (h : span.Holds text part) : Text.IsBoundary text span.stop := by
  obtain ⟨before, after, rfl, rfl⟩ := h
  exact ⟨before ++ part, after, List.append_assoc _ _ _, Text.bytes_append _ _⟩

/-- What a range holds inside a part of a text, it holds in the text when it is moved there. -/
theorem shift {outer : Span} {whole : Text} (houter : outer.Holds whole text)
    (h : span.Holds text part) : (span.shift outer.start).Holds whole part := by
  obtain ⟨before, after, rfl, rfl⟩ := houter
  obtain ⟨before', after', rfl, rfl⟩ := h
  refine ⟨before ++ before', after' ++ after, by simp, ?_⟩
  simp only [Span.shift, Text.bytes_append, Span.mk.injEq]
  omega

/-- A range that covers anything holds it. -/
theorem of_slice_ne_nil (h : span.slice text ≠ []) : span.Holds text (span.slice text) := by
  obtain ⟨start, stop⟩ := span
  have houter := Text.splitAtOffset_append text start
  have hinner := Text.splitAtOffset_append (Text.splitAtOffset text start).2 (stop - start)
  unfold slice at h ⊢
  dsimp only at h ⊢
  split at h
  · next hends =>
    rw [if_pos hends]
    refine ⟨(Text.splitAtOffset text start).1,
      (Text.splitAtOffset (Text.splitAtOffset text start).2 (stop - start)).2, ?_, ?_⟩
    · rw [hinner, houter]
    · rw [hends.1, hends.2]
  · exact absurd rfl h

/-- A range is as long as what it holds. -/
theorem stop_eq (h : span.Holds text part) : span.stop = span.start + Text.bytes part := by
  obtain ⟨before, after, rfl, rfl⟩ := h
  rfl

/-- The end of what a range holds is held by the end of the range. -/
theorem suffix {front : Text} (h : span.Holds text (front ++ part)) :
    Holds ⟨span.start + Text.bytes front, span.stop⟩ text part := by
  obtain ⟨before, after, rfl, rfl⟩ := h
  exact ⟨before ++ front, after, by simp, by simp [Nat.add_assoc]⟩

/-- A range that holds something ends in the text. -/
theorem stop_le (h : span.Holds text part) : span.stop ≤ Text.bytes text := by
  obtain ⟨before, after, rfl, rfl⟩ := h
  simp only [Text.bytes_append]
  omega

/-- A range that ends behind a character and does not hold it starts behind it. -/
theorem lt_start_of_not_mem {front rest : Text} {c : Char} (h : span.Holds text part)
    (htext : text = front ++ c :: rest) (hc : c ∉ part) (hstop : Text.bytes front < span.stop) :
    Text.bytes front < span.start := by
  obtain ⟨before, after, hpart, rfl⟩ := h
  by_contra hle
  have hwhole : before ++ (part ++ after) = front ++ c :: rest := hpart.symm.trans htext
  obtain ⟨between, rfl, hrest⟩ := Text.exists_append_of_bytes_le hwhole (Nat.le_of_not_lt hle)
  -- The range has a byte of `c`, and it ends at a boundary, so it has all of it.
  rcases List.append_eq_append_iff.1 hrest with ⟨more, hmore, -⟩ | ⟨more, hmore, htail⟩
  · rw [hmore] at hstop
    simp only [Text.bytes_append] at hstop
    omega
  · cases more with
    | nil =>
      rw [hmore] at hstop
      simp only [Text.bytes_append, Text.bytes_nil] at hstop
      omega
    | cons d more =>
      rw [List.cons_append, List.cons.injEq] at htail
      apply hc
      rw [hmore, htail.1]
      simp

end Holds

/-- The text with another one in the place of a range. -/
def replace (span : Span) (text other : Text) : Text :=
  (Text.splitAtOffset text span.start).1 ++ (other ++ (Text.splitAtOffset text span.stop).2)

/-- Replacing a part of a text leaves what is before and behind it. -/
theorem replace_eq (before part after other : Text) :
    replace ⟨Text.bytes before, Text.bytes before + Text.bytes part⟩ (before ++ (part ++ after))
      other = before ++ (other ++ after) := by
  have hstart : Text.splitAtOffset (before ++ (part ++ after)) (Text.bytes before) =
      (before, part ++ after) := Text.splitAtOffset_bytes before (part ++ after)
  have hstop : Text.splitAtOffset (before ++ (part ++ after))
      (Text.bytes before + Text.bytes part) = (before ++ part, after) :=
    Text.splitAtOffset_of_append (List.append_assoc _ _ _) (Text.bytes_append _ _)
  rw [replace, hstart, hstop]

/-- An offset inside a range or at one of its ends. -/
def Contains (span : Span) (offset : Nat) : Prop := span.start ≤ offset ∧ offset ≤ span.stop

namespace Contains

variable {span : Span} {offset : Nat}

/-- A range that is moved contains an offset that is moved as far. -/
theorem shift (h : span.Contains offset) (by_ : Nat) :
    (span.shift by_).Contains (offset + by_) :=
  ⟨Nat.add_le_add_right h.1 by_, Nat.add_le_add_right h.2 by_⟩

/-- A range that holds nothing is the empty range at the offset in it. -/
theorem eq_empty {text : Text} (h : span.Contains offset) (hholds : span.Holds text []) :
    span = Span.empty offset := by
  have hstop := hholds.stop_eq
  obtain ⟨start, stop⟩ := span
  obtain ⟨hleft, hright⟩ := h
  simp only [Text.bytes_nil] at hstop hleft hright
  rw [Span.empty, Span.mk.injEq]
  omega

/-- A character boundary of a text that lies in a range is one of what the range holds. -/
theorem isBoundary {text part : Text} (h : span.Contains offset) (hholds : span.Holds text part)
    (hboundary : Text.IsBoundary text offset) : Text.IsBoundary part (offset - span.start) := by
  obtain ⟨before, after, htext, hspan⟩ := hholds
  obtain ⟨front, back, hcut, hoffset⟩ := hboundary
  obtain ⟨hstart, hstop⟩ := h
  rw [hspan] at hstart hstop ⊢
  dsimp only at hstart hstop ⊢
  have hwhole : before ++ (part ++ after) = front ++ back := htext.symm.trans hcut.symm
  obtain ⟨between, rfl, hrest⟩ := Text.exists_append_of_bytes_le hwhole (by omega)
  rw [Text.bytes_append] at hoffset
  obtain ⟨left, hpart, -⟩ := Text.exists_append_of_bytes_le hrest.symm (by omega)
  exact ⟨between, left, hpart.symm, by omega⟩

end Contains

end Span

end FluentAssist
