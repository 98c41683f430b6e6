import FluentAssist.Proofs.Text.Boundary
import Mathlib.Data.List.TakeWhile

/-!
# The line around an offset

`lineBounds` gives the part of a text between the line breaks on both sides of an offset.
`LineParts` cuts a text into what stands before that line, the line up to the offset, the line from
there on, and the rest; `exists_lineParts` says that every text can be cut so at every offset. A
range `Span.HoldsOnLine` a part of the text if it holds it inside that line.
-/

set_option autoImplicit false

namespace FluentAssist

namespace Text

section AfterLast

variable {α : Type} {p : α → Bool}

/-- A list ends with what follows its last `p`, in which no element is a `p`. -/
theorem exists_append_afterLast (p : α → Bool) (list : List α) :
    ∃ front, list = front ++ afterLast p list ∧ (∀ c ∈ afterLast p list, p c = false) ∧
      (front = [] ∨ ∃ init c, front = init ++ [c] ∧ p c = true) := by
  refine ⟨(list.reverse.dropWhile (fun c => !p c)).reverse, ?_, ?_, ?_⟩
  · rw [afterLast, ← List.reverse_append, List.takeWhile_append_dropWhile, List.reverse_reverse]
  · intro c hc
    rw [afterLast, List.mem_reverse] at hc
    simpa using List.mem_takeWhile_imp hc
  · cases hdrop : list.reverse.dropWhile (fun c => !p c) with
    | nil => exact Or.inl rfl
    | cons c init =>
      have hc := List.head_dropWhile_not (fun c => !p c) (l := list.reverse) (by simp [hdrop])
      simp only [hdrop, List.head_cons, Bool.not_eq_false'] at hc
      exact Or.inr ⟨init.reverse, c, by simp, hc⟩

/-- Elements that are no `p` only lengthen what follows the last one. -/
theorem afterLast_append {list more : List α} (hmore : ∀ c ∈ more, p c = false) :
    afterLast p (list ++ more) = afterLast p list ++ more := by
  have hreverse : ∀ c ∈ more.reverse, (!p c) = true := by simpa using hmore
  rw [afterLast, List.reverse_append, List.takeWhile_append_of_pos hreverse, List.reverse_append,
    List.reverse_reverse, afterLast]

/-- Behind an element that is `p`, or at the start, elements that are no `p` are all that follows.
-/
theorem afterLast_append_of_edge {front more : List α}
    (hedge : front = [] ∨ ∃ init c, front = init ++ [c] ∧ p c = true)
    (hmore : ∀ c ∈ more, p c = false) : afterLast p (front ++ more) = more := by
  have hfront : afterLast p front = [] := by
    rcases hedge with rfl | ⟨init, c, rfl, hc⟩
    · rfl
    · simp [afterLast, hc]
  rw [afterLast_append hmore, hfront, List.nil_append]

end AfterLast

/-- A text cut at an offset and at both ends of the line around it. -/
structure LineParts (text : Text) (offset : Nat) (front head tail back : Text) : Prop where
  text_eq : text = front ++ (head ++ (tail ++ back))
  floorOffset_eq : floorOffset text offset = bytes front + bytes head
  lineBounds_eq : lineBounds text offset = ⟨bytes front, bytes front + (bytes head + bytes tail)⟩
  unbroken : ∀ c ∈ head ++ tail, isNewline c = false

/-- Every text can be cut at the line of an offset and at the offset. -/
theorem exists_lineParts (text : Text) (offset : Nat) :
    ∃ front head tail back, LineParts text offset front head tail back := by
  obtain ⟨front, hfront, hhead, -⟩ :=
    exists_append_afterLast isNewline (splitAtOffset text offset).1
  have htail : ∀ c ∈ beforeFirst isNewline (splitAtOffset text offset).2, isNewline c = false := by
    intro c hc
    simpa using List.mem_takeWhile_imp hc
  have hafter : beforeFirst isNewline (splitAtOffset text offset).2 ++
      (splitAtOffset text offset).2.dropWhile (fun c => !isNewline c) =
      (splitAtOffset text offset).2 := List.takeWhile_append_dropWhile
  have hbytes := congrArg bytes hfront
  rw [bytes_append] at hbytes
  refine ⟨front, afterLast isNewline (splitAtOffset text offset).1,
    beforeFirst isNewline (splitAtOffset text offset).2,
    (splitAtOffset text offset).2.dropWhile (fun c => !isNewline c), ?_, hbytes, ?_, ?_⟩
  · rw [← List.append_assoc front, ← hfront, hafter, splitAtOffset_append]
  · simp only [lineBounds, Span.mk.injEq]
    omega
  · intro c hc
    rcases List.mem_append.1 hc with hc | hc
    · exact hhead c hc
    · exact htail c hc

/-- The line around an offset is the line around its floor. -/
theorem lineBounds_floorOffset (text : Text) (offset : Nat) :
    lineBounds text (floorOffset text offset) = lineBounds text offset := by
  rw [lineBounds, splitAtOffset_floorOffset]
  rfl

namespace LineParts

variable {text front head tail back : Text} {offset : Nat}

/-- The range of the line holds the line. -/
theorem holds (h : LineParts text offset front head tail back) :
    (lineBounds text offset).Holds text (head ++ tail) :=
  ⟨front, back, by rw [h.text_eq, List.append_assoc], by rw [h.lineBounds_eq, bytes_append]⟩

/-- From the start of the line to the offset stands its first part. -/
theorem head_holds (h : LineParts text offset front head tail back) :
    Span.Holds ⟨(lineBounds text offset).start, floorOffset text offset⟩ text head :=
  ⟨front, tail ++ back, h.text_eq, by rw [h.lineBounds_eq, h.floorOffset_eq]⟩

/-- The line parts are cut at the offset. -/
theorem splitAtOffset_eq (h : LineParts text offset front head tail back) :
    splitAtOffset text offset = (front ++ head, tail ++ back) := by
  rw [← splitAtOffset_floorOffset]
  apply splitAtOffset_of_append
  · rw [h.text_eq, List.append_assoc]
  · rw [h.floorOffset_eq, bytes_append]

/-- The cut at the floor of an offset is the cut at the offset. -/
theorem of_floorOffset (h : LineParts text (floorOffset text offset) front head tail back) :
    LineParts text offset front head tail back := by
  refine ⟨h.text_eq, ?_, ?_, h.unbroken⟩
  · rw [← h.floorOffset_eq, floorOffset_eq_self (isBoundary_floorOffset text offset)]
  · rw [← h.lineBounds_eq, lineBounds_floorOffset]

/-- What stands before a line is empty or ends with a line break, and what stands after it is empty
or starts with one. -/
theorem edges (h : LineParts text offset front head tail back) :
    afterLast isNewline front = [] ∧ beforeFirst isNewline back = [] := by
  have hhead : ∀ c ∈ head, isNewline c = false :=
    fun c hc => h.unbroken c (List.mem_append_left tail hc)
  have htail : ∀ c ∈ tail, (!isNewline c) = true := by
    intro c hc
    rw [h.unbroken c (List.mem_append_right head hc)]
    rfl
  have hlast : beforeFirst isNewline (tail ++ back) = tail ++ beforeFirst isNewline back :=
    List.takeWhile_append_of_pos htail
  have hbounds := h.lineBounds_eq
  simp only [lineBounds, h.splitAtOffset_eq, afterLast_append hhead, hlast, bytes_append,
    Span.mk.injEq] at hbounds
  obtain ⟨init, hinit, -⟩ := exists_append_afterLast isNewline front
  have hbytes := congrArg bytes hinit
  rw [bytes_append] at hbytes
  constructor
  · rw [← bytes_eq_zero_iff]
    omega
  · rw [← bytes_eq_zero_iff]
    omega

end LineParts

/-- A text that is put together from a line and its surroundings is cut there. -/
theorem lineParts_of_append {front head tail back : Text}
    (hfront : afterLast isNewline front = []) (hback : beforeFirst isNewline back = [])
    (hunbroken : ∀ c ∈ head ++ tail, isNewline c = false) :
    LineParts (front ++ (head ++ (tail ++ back))) (bytes front + bytes head) front head tail
      back := by
  have hsplit : splitAtOffset (front ++ (head ++ (tail ++ back))) (bytes front + bytes head) =
      (front ++ head, tail ++ back) :=
    splitAtOffset_of_append (List.append_assoc _ _ _) (bytes_append _ _)
  have hhead : ∀ c ∈ head, isNewline c = false :=
    fun c hc => hunbroken c (List.mem_append_left tail hc)
  have htail : ∀ c ∈ tail, (!isNewline c) = true := by
    intro c hc
    rw [hunbroken c (List.mem_append_right head hc)]
    rfl
  have hlast : beforeFirst isNewline (tail ++ back) = tail := by
    rw [beforeFirst, List.takeWhile_append_of_pos htail, ← beforeFirst, hback, List.append_nil]
  refine ⟨rfl, ?_, ?_, hunbroken⟩
  · rw [floorOffset, hsplit, bytes_append]
  · simp only [lineBounds, hsplit, afterLast_append hhead, hfront, hlast, List.nil_append,
      bytes_append, Span.mk.injEq]
    omega

/-- What stands on a line behind the next characters can be exchanged. -/
theorem LineParts.exchange {text front head shown tail tail' back : Text} {offset : Nat}
    (h : LineParts text offset front head (shown ++ tail) back) (hshown : shown ≠ [])
    (htail : ∀ c ∈ tail', isNewline c = false) :
    LineParts (front ++ (head ++ ((shown ++ tail') ++ back))) offset front head (shown ++ tail')
      back := by
  obtain ⟨hfront, hback⟩ := h.edges
  have hunbroken : ∀ c ∈ head ++ (shown ++ tail'), isNewline c = false := by
    intro c hc
    rw [← List.append_assoc] at hc
    rcases List.mem_append.1 hc with hc | hc
    · apply h.unbroken c
      rw [← List.append_assoc]
      exact List.mem_append_left tail hc
    · exact htail c hc
  have hparts := lineParts_of_append hfront hback hunbroken
  obtain ⟨c, rest, rfl⟩ := List.exists_cons_of_ne_nil hshown
  -- The offset may stand inside `c`, which is still there.
  have hsplit : splitAtOffset (front ++ (head ++ ((c :: rest ++ tail') ++ back))) offset =
      (front ++ head, (c :: rest ++ tail') ++ back) := by
    have hsplit := h.splitAtOffset_eq
    rw [h.text_eq, ← List.append_assoc front, List.cons_append, List.cons_append] at hsplit
    rw [← List.append_assoc front, List.cons_append, List.cons_append]
    exact splitAtOffset_exchange hsplit
  have hfloor : floorOffset (front ++ (head ++ ((c :: rest ++ tail') ++ back))) offset =
      bytes front + bytes head := by
    rw [floorOffset, hsplit, bytes_append]
  rw [← hfloor] at hparts
  exact hparts.of_floorOffset

/-- Replacing the end of a line leaves its beginning and the other lines. -/
theorem LineParts.replace_tail {text front head shown tail back : Text} {offset : Nat}
    (h : LineParts text offset front head (shown ++ tail) back) (other : Text) :
    Span.replace ⟨bytes front + (bytes head + bytes shown), (lineBounds text offset).stop⟩ text
      other = front ++ (head ++ ((shown ++ other) ++ back)) := by
  have htext : text = (front ++ (head ++ shown)) ++ (tail ++ back) := by
    rw [h.text_eq]
    simp
  have hrange : (⟨bytes front + (bytes head + bytes shown), (lineBounds text offset).stop⟩ : Span) =
      ⟨bytes (front ++ (head ++ shown)), bytes (front ++ (head ++ shown)) + bytes tail⟩ := by
    simp only [h.lineBounds_eq, bytes_append, Span.mk.injEq, true_and]
    omega
  rw [hrange]
  nth_rewrite 1 [htext]
  rw [Span.replace_eq]
  simp

/-- The bounds of a line hold what is read in them. -/
theorem lineBounds_holds (text : Text) (offset : Nat) :
    (lineBounds text offset).Holds text ((lineBounds text offset).slice text) := by
  obtain ⟨front, head, tail, back, hparts⟩ := exists_lineParts text offset
  rw [hparts.holds.slice_eq]
  exact hparts.holds

end Text

namespace Span

/-- A range inside the line around an offset is where `part` stands. -/
def HoldsOnLine (span : Span) (text : Text) (offset : Nat) (part : Text) : Prop :=
  ∃ inner : Span, inner.Holds ((Text.lineBounds text offset).slice text) part ∧
    span = inner.shift (Text.lineBounds text offset).start

namespace HoldsOnLine

variable {span : Span} {text part : Text} {offset : Nat}

/-- A range on a line is a range of the text. -/
theorem holds (h : span.HoldsOnLine text offset part) : span.Holds text part := by
  obtain ⟨inner, hinner, rfl⟩ := h
  exact (Text.lineBounds_holds text offset).shift hinner

/-- A range on a line starts behind the start of the line. -/
theorem line_start_le (h : span.HoldsOnLine text offset part) :
    (Text.lineBounds text offset).start ≤ span.start := by
  obtain ⟨inner, -, rfl⟩ := h
  exact Nat.le_add_left _ _

/-- A range on a line ends before the end of the line. -/
theorem stop_le_line_stop (h : span.HoldsOnLine text offset part) :
    span.stop ≤ (Text.lineBounds text offset).stop := by
  obtain ⟨inner, hinner, rfl⟩ := h
  have hinside := hinner.stop_le
  have hline := (Text.lineBounds_holds text offset).stop_eq
  simp only [Span.shift]
  omega

/-- What stands in a part of the line stands on the line. -/
theorem inside {inner : Span} {whole : Text} (h : span.HoldsOnLine text offset whole)
    (hinner : inner.Holds whole part) :
    (inner.shift span.start).HoldsOnLine text offset part := by
  obtain ⟨outer, houter, rfl⟩ := h
  refine ⟨_, houter.shift hinner, ?_⟩
  simp only [Span.shift, Span.mk.injEq]
  omega

/-- The end of what a range holds on a line is held by the end of the range. -/
theorem suffix {front : Text} (h : span.HoldsOnLine text offset (front ++ part)) :
    HoldsOnLine ⟨span.start + Text.bytes front, span.stop⟩ text offset part := by
  obtain ⟨inner, hinner, rfl⟩ := h
  refine ⟨_, hinner.suffix, ?_⟩
  simp only [Span.shift, Span.mk.injEq, and_true]
  omega

end HoldsOnLine

end Span

end FluentAssist
