import FluentAssist.Proofs.Text.Positions
import Mathlib.Order.Bounds.Basic

/-!
# Where a position leads

A position sent by an editor need not exist: its line may be missing, its character may lie behind
the end of the line or inside a character of two units. `NumberedLine` cuts a text at both ends of
the line with a number. On that line a position leads to the first boundary whose column is not
before the asked one, else to the end of the line; without the line it leads to the end of the text.

`positions_resolved` is the main statement: it says this for every position, and that positions keep
their order.
-/

set_option autoImplicit false

namespace FluentAssist.Text

/-- A text cut at both ends of a line, where `number` line breaks stand before the line. -/
structure NumberedLine (text : Text) (number : Nat) (front line back : Text) : Prop where
  text_eq : text = front ++ (line ++ back)
  countP_eq : front.countP isNewline = number
  front_edge : front = [] ∨ ∃ init c, front = init ++ [c] ∧ isNewline c = true
  unbroken : ∀ c ∈ line, isNewline c = false
  back_edge : back = [] ∨ ∃ c rest, back = c :: rest ∧ isNewline c = true

/-- The byte range of the line with a number, without its line break. -/
def IsLine (text : Text) (number : Nat) (span : Span) : Prop :=
  ∃ front line back, NumberedLine text number front line back ∧
    span = ⟨bytes front, bytes front + bytes line⟩

/-- The UTF-16 column of an offset on a line. -/
def column (text : Text) (line : Span) (offset : Nat) : Nat :=
  units (Span.slice ⟨line.start, offset⟩ text)

/-- The character boundaries of a line, both ends included, that are not before a column. -/
def boundariesFrom (text : Text) (line : Span) (character : Nat) : Set Nat :=
  {offset | IsBoundary text offset ∧ line.Contains offset ∧ character ≤ column text line offset}

/-! ## Lines by number -/

/-- A line that is found starts after the line breaks before it. -/
theorem exists_of_lineStart?_eq_some {text rest : Text} {number start : Nat}
    (h : lineStart? text number = some (start, rest)) :
    ∃ front, text = front ++ rest ∧ bytes front = start ∧ front.countP isNewline = number ∧
      (front = [] ∨ ∃ init c, front = init ++ [c] ∧ isNewline c = true) := by
  induction text, number using lineStart?.induct generalizing start with
  | case1 text =>
    simp only [lineStart?, Option.some.injEq, Prod.mk.injEq] at h
    exact ⟨[], h.2, h.1, rfl, Or.inl rfl⟩
  | case2 number => simp [lineStart?] at h
  | case3 c tail number ih =>
    simp only [lineStart?, Option.map_eq_some_iff, Prod.exists, Prod.mk.injEq] at h
    obtain ⟨inner, rest', hinner, rfl, rfl⟩ := h
    obtain ⟨front, rfl, rfl, hcount, hedge⟩ := ih hinner
    refine ⟨c :: front, rfl, rfl, ?_, Or.inr ?_⟩
    · rw [List.countP_cons, hcount]
      split <;> simp_all
    · rcases hedge with rfl | ⟨init, d, rfl, hd⟩
      · -- Nothing stands between `c` and the line, so `c` is the line break before it.
        refine ⟨[], c, rfl, ?_⟩
        by_contra hc
        simp [hc] at hcount
      · exact ⟨c :: init, d, rfl, hd⟩

/-- The search for a line finds its start and what follows. -/
theorem NumberedLine.lineStart?_eq {text front line back : Text} {number : Nat}
    (h : NumberedLine text number front line back) :
    lineStart? text number = some (bytes front, line ++ back) := by
  rw [h.text_eq, ← h.countP_eq]
  exact lineStart?_countP h.front_edge (line ++ back)

/-- What the search for a line finds is a line of the text. -/
theorem exists_numberedLine {text rest : Text} {number start : Nat}
    (h : lineStart? text number = some (start, rest)) :
    ∃ front line back, NumberedLine text number front line back := by
  obtain ⟨front, rfl, -, hcount, hedge⟩ := exists_of_lineStart?_eq_some h
  have hrest : beforeFirst isNewline rest ++ rest.dropWhile (fun c => !isNewline c) = rest :=
    List.takeWhile_append_dropWhile
  refine ⟨front, beforeFirst isNewline rest, rest.dropWhile (fun c => !isNewline c), by rw [hrest],
    hcount, hedge, ?_, ?_⟩
  · intro c hc
    simpa using List.mem_takeWhile_imp hc
  · cases hdrop : rest.dropWhile (fun c => !isNewline c) with
    | nil => exact Or.inl rfl
    | cons c back =>
      have hc := List.head_dropWhile_not (fun c => !isNewline c) (l := rest) (by simp [hdrop])
      simp only [hdrop, List.head_cons, Bool.not_eq_false'] at hc
      exact Or.inr ⟨c, back, rfl, hc⟩

/-! ## Columns in bytes -/

/-- No beginning with enough units is passed. -/
theorem columnBytes_le (before after : Text) {character : Nat} (h : character ≤ units before) :
    columnBytes (before ++ after) character ≤ bytes before := by
  induction before generalizing character with
  | nil =>
    have hzero : character = 0 := by simpa [units] using h
    cases after <;> simp [columnBytes, hzero]
  | cons c before ih =>
    rw [units] at h
    have hrest := ih (by omega : character - unitsOf c ≤ units before)
    rw [List.cons_append, columnBytes, bytes_cons]
    split <;> omega

/-- What is passed is a beginning of the line: the first with enough units, or all of it. -/
theorem exists_columnBytes {line back : Text} (hline : ∀ c ∈ line, isNewline c = false)
    (hback : back = [] ∨ ∃ c rest, back = c :: rest ∧ isNewline c = true) (character : Nat) :
    ∃ before after, line = before ++ after ∧
      columnBytes (line ++ back) character = bytes before ∧
      (after = [] ∨ character ≤ units before) := by
  induction line generalizing character with
  | nil =>
    refine ⟨[], [], rfl, ?_, Or.inl rfl⟩
    rcases hback with rfl | ⟨c, rest, rfl, hc⟩
    · rfl
    · simp [columnBytes, hc]
  | cons c line ih =>
    by_cases hzero : character = 0
    · exact ⟨[], c :: line, rfl, by simp [columnBytes, hzero], Or.inr (by omega)⟩
    · have hc := hline c (List.mem_cons_self ..)
      obtain ⟨before, after, hcut, hbytes, hreached⟩ :=
        ih (fun d hd => hline d (List.mem_cons_of_mem c hd)) (character - unitsOf c)
      refine ⟨c :: before, after, by rw [hcut, List.cons_append], ?_, ?_⟩
      · simp [columnBytes, hzero, hc, hbytes]
      · refine hreached.imp_right fun hreached => ?_
        rw [units]
        omega

/-- Columns further right are no fewer bytes away from the start of the line. -/
theorem columnBytes_mono (line : Text) {first second : Nat} (h : first ≤ second) :
    columnBytes line first ≤ columnBytes line second := by
  induction line generalizing first second with
  | nil => rfl
  | cons c line ih =>
    have hrest := ih (by omega : first - unitsOf c ≤ second - unitsOf c)
    by_cases hstop : (first = 0 || isNewline c) = true
    · simp [columnBytes, hstop]
    · have hgo : ¬ (second = 0 || isNewline c) = true := by
        simp only [Bool.or_eq_true, decide_eq_true_eq, not_or] at hstop ⊢
        exact ⟨by omega, hstop.2⟩
      rw [columnBytes, columnBytes, if_neg hstop, if_neg hgo]
      omega

/-! ## One line -/

namespace NumberedLine

variable {text front line back : Text} {number : Nat}

/-- A position on a line is as many bytes behind the start of the line as its column is. -/
theorem offsetAt_eq (h : NumberedLine text number front line back) (character : Nat) :
    offsetAt text ⟨number, character⟩ = bytes front + columnBytes (line ++ back) character := by
  simp only [offsetAt, h.lineStart?_eq]

/-- A cut of a line is a cut of the text. -/
theorem append_eq (h : NumberedLine text number front line back) {before after : Text}
    (hcut : line = before ++ after) : (front ++ before) ++ (after ++ back) = text := by
  rw [h.text_eq, hcut]
  simp

/-- The column of a cut of a line is the number of code units before it. -/
theorem column_eq (h : NumberedLine text number front line back) {before after : Text}
    (hcut : line = before ++ after) :
    column text ⟨bytes front, bytes front + bytes line⟩ (bytes front + bytes before) =
      units before := by
  have hholds : Span.Holds ⟨bytes front, bytes front + bytes before⟩ text before :=
    ⟨front, after ++ back, by rw [h.text_eq, hcut, List.append_assoc], rfl⟩
  rw [column, hholds.slice_eq]

/-- The boundaries inside the line are the ends of its beginnings. -/
theorem isBoundary_and_contains_iff (h : NumberedLine text number front line back) {offset : Nat} :
    IsBoundary text offset ∧ Span.Contains ⟨bytes front, bytes front + bytes line⟩ offset ↔
      ∃ before after, line = before ++ after ∧ offset = bytes front + bytes before := by
  constructor
  · rintro ⟨hboundary, hcontains⟩
    have hholds : Span.Holds ⟨bytes front, bytes front + bytes line⟩ text line :=
      ⟨front, back, h.text_eq, rfl⟩
    obtain ⟨before, after, hcut, hbytes⟩ := hcontains.isBoundary hholds hboundary
    have hstart : bytes front ≤ offset := hcontains.1
    simp only at hbytes
    exact ⟨before, after, hcut.symm, by omega⟩
  · rintro ⟨before, after, hcut, rfl⟩
    refine ⟨⟨_, _, h.append_eq hcut, bytes_append _ _⟩, Nat.le_add_right _ _, ?_⟩
    simp only [hcut, bytes_append]
    omega

/-- The boundaries from a column on are the cuts of the line that are not before it. -/
theorem mem_boundariesFrom_iff (h : NumberedLine text number front line back)
    {character offset : Nat} :
    offset ∈ boundariesFrom text ⟨bytes front, bytes front + bytes line⟩ character ↔
      ∃ before after, line = before ++ after ∧ offset = bytes front + bytes before ∧
        character ≤ units before := by
  constructor
  · rintro ⟨hboundary, hcontains, hcharacter⟩
    obtain ⟨before, after, hcut, rfl⟩ := h.isBoundary_and_contains_iff.1 ⟨hboundary, hcontains⟩
    rw [h.column_eq hcut] at hcharacter
    exact ⟨before, after, hcut, rfl, hcharacter⟩
  · rintro ⟨before, after, hcut, rfl, hcharacter⟩
    obtain ⟨hboundary, hcontains⟩ := h.isBoundary_and_contains_iff.2 ⟨before, after, hcut, rfl⟩
    refine ⟨hboundary, hcontains, ?_⟩
    rwa [h.column_eq hcut]

/-- A position on the line leads to the end of a beginning of the line. -/
theorem exists_offsetAt (h : NumberedLine text number front line back) (character : Nat) :
    ∃ before after, line = before ++ after ∧
      offsetAt text ⟨number, character⟩ = bytes front + bytes before ∧
      (after = [] ∨ character ≤ units before) := by
  obtain ⟨before, after, hcut, hbytes, hreached⟩ :=
    exists_columnBytes h.unbroken h.back_edge character
  exact ⟨before, after, hcut, by rw [h.offsetAt_eq, hbytes], hreached⟩

/-- A position on a line is its least boundary from the column on, if there is one. -/
theorem isLeast_offsetAt (h : NumberedLine text number front line back) {character : Nat}
    (hsome : (boundariesFrom text ⟨bytes front, bytes front + bytes line⟩ character).Nonempty) :
    IsLeast (boundariesFrom text ⟨bytes front, bytes front + bytes line⟩ character)
      (offsetAt text ⟨number, character⟩) := by
  have hlower : ∀ offset ∈ boundariesFrom text ⟨bytes front, bytes front + bytes line⟩ character,
      offsetAt text ⟨number, character⟩ ≤ offset := by
    intro offset hoffset
    obtain ⟨before, after, hcut, rfl, hcharacter⟩ := h.mem_boundariesFrom_iff.1 hoffset
    have hpassed := columnBytes_le before (after ++ back) hcharacter
    rw [h.offsetAt_eq, hcut, List.append_assoc]
    omega
  refine ⟨?_, hlower⟩
  obtain ⟨before, after, hcut, hoffset, hreached⟩ := h.exists_offsetAt character
  rw [h.mem_boundariesFrom_iff]
  refine ⟨before, after, hcut, hoffset, ?_⟩
  rcases hreached with rfl | hreached
  · -- The whole line was passed, and it has at least the units of the beginning in the set.
    obtain ⟨other, hother⟩ := hsome
    obtain ⟨before', after', hcut', -, hcharacter⟩ := h.mem_boundariesFrom_iff.1 hother
    rw [List.append_nil] at hcut
    have hunits := congrArg units (hcut.symm.trans hcut')
    rw [units_append] at hunits
    omega
  · exact hreached

/-- A position beyond the last boundary of its line is the end of the line. -/
theorem offsetAt_eq_stop (h : NumberedLine text number front line back) {character : Nat}
    (hnone : boundariesFrom text ⟨bytes front, bytes front + bytes line⟩ character = ∅) :
    offsetAt text ⟨number, character⟩ = bytes front + bytes line := by
  obtain ⟨before, after, hcut, hoffset, rfl | hreached⟩ := h.exists_offsetAt character
  · rw [hoffset, hcut, List.append_nil]
  · have hmem : offsetAt text ⟨number, character⟩ ∈
        boundariesFrom text ⟨bytes front, bytes front + bytes line⟩ character :=
      h.mem_boundariesFrom_iff.2 ⟨before, after, hcut, hoffset, hreached⟩
    rw [hnone] at hmem
    exact absurd hmem (Set.notMem_empty _)

/-- There is no line feed in front of a cut of a line. -/
theorem unbroken_before (h : NumberedLine text number front line back) {before after : Text}
    (hcut : line = before ++ after) : ∀ c ∈ before, isNewline c = false := by
  intro c hc
  apply h.unbroken c
  rw [hcut]
  exact List.mem_append_left after hc

/-- Behind the last line feed before a cut of a line stands what the line has before it. -/
theorem afterLast_eq (h : NumberedLine text number front line back) {before after : Text}
    (hcut : line = before ++ after) : afterLast isNewline (front ++ before) = before :=
  afterLast_append_of_edge h.front_edge (h.unbroken_before hcut)

/-- A beginning of the line has the line's number and its own units as its position. -/
theorem positionAt_eq (h : NumberedLine text number front line back)
    (hsize : bytes text < wordSize32) {before after : Text} (hcut : line = before ++ after) :
    positionAt text (bytes front + bytes before) = ⟨number, units before⟩ := by
  have hcount : before.countP isNewline = 0 := by
    rw [List.countP_eq_zero]
    simpa using h.unbroken_before hcut
  rw [positionAt_of_append hsize (h.append_eq hcut) (bytes_append _ _), h.afterLast_eq hcut,
    List.countP_append, hcount, h.countP_eq, Nat.add_zero]

/-- The column of a boundary on the line leads to that boundary. -/
theorem offsetAt_units (h : NumberedLine text number front line back) {before after : Text}
    (hcut : line = before ++ after) :
    offsetAt text ⟨number, units before⟩ = bytes front + bytes before := by
  rw [h.offsetAt_eq, hcut, List.append_assoc, columnBytes_units (h.unbroken_before hcut)]

end NumberedLine

/-! ## All positions -/

/-- A position leads to its line, or to the end of the text if there is no such line. -/
theorem offsetAt_cases (text : Text) (position : Position) :
    (∃ front line back, NumberedLine text position.line front line back) ∨
      offsetAt text position = bytes text := by
  cases hstart : lineStart? text position.line with
  | none => exact Or.inr (by simp only [offsetAt, hstart])
  | some found => exact Or.inl (exists_numberedLine hstart)

/-- Every position is a boundary between characters. -/
theorem isBoundary_offsetAt (text : Text) (position : Position) :
    IsBoundary text (offsetAt text position) := by
  rcases offsetAt_cases text position with ⟨front, line, back, h⟩ | hend
  · obtain ⟨before, after, hcut, hoffset, -⟩ := h.exists_offsetAt position.character
    refine ⟨front ++ before, after ++ back, h.append_eq hcut, ?_⟩
    rw [bytes_append]
    exact hoffset.symm
  · exact ⟨text, [], List.append_nil text, hend.symm⟩

/-- In the empty text every position is the start. -/
@[simp] theorem offsetAt_nil (position : Position) : offsetAt [] position = 0 := by
  obtain ⟨number, character⟩ := position
  cases number <;> simp [offsetAt, lineStart?, columnBytes]

/-- A position on the first line is a column of the text. -/
@[simp] theorem offsetAt_zero (text : Text) (character : Nat) :
    offsetAt text ⟨0, character⟩ = columnBytes text character := by
  cases text <;> simp [offsetAt, lineStart?]

/-- A position on a later line is one behind the first character, a line further up if this is a
line feed. -/
theorem offsetAt_cons_succ (c : Char) (rest : Text) (number character : Nat) :
    offsetAt (c :: rest) ⟨number + 1, character⟩ =
      c.utf8Size + offsetAt rest ⟨if isNewline c then number else number + 1, character⟩ := by
  simp only [offsetAt, lineStart?]
  cases lineStart? rest (if isNewline c then number else number + 1) with
  | none => rfl
  | some found => simp [Nat.add_assoc]

/-- Offsets follow the order of positions. -/
theorem offsetAt_mono (text : Text) {p q : Position} (h : p.key ≤ q.key) :
    offsetAt text p ≤ offsetAt text q := by
  obtain ⟨number, character⟩ := p
  obtain ⟨number', character'⟩ := q
  rw [Position.key, Position.key, Prod.Lex.toLex_le_toLex] at h
  induction text generalizing number number' character with
  | nil => simp
  | cons c rest ih =>
    cases number' with
    | zero =>
      obtain ⟨rfl, hcharacter⟩ : number = 0 ∧ character ≤ character' := by
        simpa using h
      simpa using columnBytes_mono (c :: rest) hcharacter
    | succ number' =>
      rw [offsetAt_cons_succ]
      cases number with
      | zero =>
        rw [offsetAt_zero, columnBytes]
        split
        · exact Nat.zero_le _
        · next hgo =>
          -- Still on the first line: one character on, the position is again before `q`.
          have hc : isNewline c = false := by simp_all
          have hrest := ih 0 (character - unitsOf c) (number' + 1) (Or.inl (Nat.succ_pos _))
          rw [offsetAt_zero] at hrest
          simp only [hc, Bool.false_eq_true, if_false]
          omega
      | succ number =>
        rw [offsetAt_cons_succ]
        refine Nat.add_le_add_left (ih _ _ _ ?_) _
        simp only at h ⊢
        split <;> omega

/-- **Positions are resolved exactly and keep their order.** In every text of less than `2 ^ 32`
bytes, a position on a line leads to the least boundary of the line that is not before the asked
column, or to the end of the line if there is none, and a position on no line to the end of the
text. The result is always a boundary, it is at the position itself if that is the place of a
boundary, and a later position never leads to an earlier offset. -/
theorem positions_resolved (text : Text) (hsize : bytes text < wordSize32) :
    (∀ (p : Position) (line : Span), IsLine text p.line line →
      ((boundariesFrom text line p.character).Nonempty →
        IsLeast (boundariesFrom text line p.character) (offsetAt text p)) ∧
      (boundariesFrom text line p.character = ∅ → offsetAt text p = line.stop)) ∧
    (∀ p : Position, (∀ line, ¬ IsLine text p.line line) → offsetAt text p = bytes text) ∧
    (∀ p : Position, IsBoundary text (offsetAt text p)) ∧
    (∀ (p : Position) (line : Span) (offset : Nat), IsLine text p.line line →
      IsBoundary text offset → line.Contains offset → column text line offset = p.character →
      positionAt text (offsetAt text p) = p) ∧
    (∀ p q : Position, p.key ≤ q.key → offsetAt text p ≤ offsetAt text q) := by
  refine ⟨?_, ?_, isBoundary_offsetAt text, ?_, fun p q => offsetAt_mono text⟩
  · rintro p line ⟨front, content, back, h, rfl⟩
    exact ⟨h.isLeast_offsetAt, h.offsetAt_eq_stop⟩
  · intro p hnone
    rcases offsetAt_cases text p with ⟨front, content, back, h⟩ | hend
    · exact absurd ⟨front, content, back, h, rfl⟩ (hnone _)
    · exact hend
  · rintro ⟨number, character⟩ line offset ⟨front, content, back, h, rfl⟩ hboundary hcontains hcolumn
    obtain ⟨before, after, hcut, rfl⟩ := h.isBoundary_and_contains_iff.1 ⟨hboundary, hcontains⟩
    rw [h.column_eq hcut] at hcolumn
    subst hcolumn
    rw [h.offsetAt_units hcut]
    exact h.positionAt_eq hsize hcut

/-- A second line with a character of two units: the position inside that character leads behind it,
positions behind the end of a line or of the text are moved to that end. -/
theorem positions_resolved_two_units :
    bytes "é\n😀x".toList < wordSize32 ∧
    IsLeast (boundariesFrom "é\n😀x".toList ⟨3, 8⟩ 1) (offsetAt "é\n😀x".toList ⟨1, 1⟩) ∧
    offsetAt "é\n😀x".toList ⟨1, 1⟩ = 7 ∧
    offsetAt "é\n😀x".toList ⟨0, 9⟩ = 2 ∧
    offsetAt "é\n😀x".toList ⟨2, 0⟩ = 8 ∧
    IsBoundary "é\n😀x".toList (offsetAt "é\n😀x".toList ⟨1, 1⟩) ∧
    positionAt "é\n😀x".toList (offsetAt "é\n😀x".toList ⟨1, 2⟩) = ⟨1, 2⟩ ∧
    offsetAt "é\n😀x".toList ⟨0, 9⟩ ≤ offsetAt "é\n😀x".toList ⟨1, 1⟩ := by
  have hsize : bytes "é\n😀x".toList < wordSize32 := by decide
  have hfirst : NumberedLine "é\n😀x".toList 0 [] ['é'] ['\n', '😀', 'x'] :=
    ⟨by decide, by decide, Or.inl rfl, by simp [isNewline],
      Or.inr ⟨'\n', ['😀', 'x'], rfl, rfl⟩⟩
  have hsecond : NumberedLine "é\n😀x".toList 1 ['é', '\n'] ['😀', 'x'] [] :=
    ⟨by decide, by decide, Or.inr ⟨['é'], '\n', rfl, rfl⟩, by simp [isNewline], Or.inl rfl⟩
  have hemoji : 7 ∈ boundariesFrom "é\n😀x".toList ⟨3, 8⟩ 1 :=
    hsecond.mem_boundariesFrom_iff.2 ⟨['😀'], ['x'], rfl, by decide, by decide⟩
  have hbehind : boundariesFrom "é\n😀x".toList ⟨0, 2⟩ 9 = ∅ := by
    rw [Set.eq_empty_iff_forall_notMem]
    intro offset hoffset
    obtain ⟨before, after, hcut, -, hunits⟩ := hfirst.mem_boundariesFrom_iff.1 hoffset
    have htotal := congrArg units hcut
    rw [units_append, show units ['é'] = 1 by decide] at htotal
    omega
  have hmissing : ∀ line, ¬ IsLine "é\n😀x".toList 2 line := by
    rintro line ⟨front, content, back, h, -⟩
    have hcount := congrArg (List.countP isNewline) h.text_eq
    rw [List.countP_append, h.countP_eq, show "é\n😀x".toList.countP isNewline = 1 by decide]
      at hcount
    omega
  obtain ⟨honLine, hoffLine, hboundary, hback, hmono⟩ := positions_resolved "é\n😀x".toList hsize
  have hline : IsLine "é\n😀x".toList 1 ⟨3, 8⟩ := ⟨_, _, _, hsecond, by decide⟩
  refine ⟨hsize, (honLine ⟨1, 1⟩ ⟨3, 8⟩ hline).1 ⟨7, hemoji⟩, by decide,
    (honLine ⟨0, 9⟩ ⟨0, 2⟩ ⟨_, _, _, hfirst, by decide⟩).2 hbehind,
    (hoffLine ⟨2, 0⟩ hmissing).trans (by decide), hboundary ⟨1, 1⟩,
    hback ⟨1, 2⟩ ⟨3, 8⟩ 7 hline hemoji.1 hemoji.2.1 (by decide), ?_⟩
  exact hmono ⟨0, 9⟩ ⟨1, 1⟩ (by decide)

end FluentAssist.Text
