import FluentAssist.Proofs.Text.Boundary
import FluentAssist.Text.Blank
import FluentAssist.Text.Search
import FluentAssist.Text.WordChar
import Mathlib.Data.List.TakeWhile

/-!
# What searches find

Each way to search a text is described by how the text is put together: a literal stands at its
start, blanks stand before the rest, a separator stands between two parts, a place divides it.
-/

set_option autoImplicit false

namespace FluentAssist.Text

/-- Whether exactly one of the neighbours of a place is a word character. -/
def isWordBoundary (before rest : Text) : Bool :=
  before.getLast?.any isWordChar != rest.head?.any isWordChar

/-- Before a word character there is a word boundary exactly if a word may start there. -/
theorem isWordBoundary_cons {before rest : Text} {c : Char} (hc : isWordChar c = true) :
    isWordBoundary before (c :: rest) = wordMayStartAfter before.getLast? := by
  unfold isWordBoundary
  cases before.getLast? with
  | none => simp [wordMayStartAfter, hc]
  | some d => simp [wordMayStartAfter, hc]

/-- A piece is dropped exactly from texts that begin with it. -/
theorem dropLiteral?_eq_some_iff {piece text after : Text} :
    dropLiteral? piece text = some after ↔ text = piece ++ after := by
  induction piece generalizing text with
  | nil => simp [dropLiteral?, eq_comm]
  | cons p piece ih =>
    cases text with
    | nil => simp [dropLiteral?]
    | cons c rest =>
      by_cases hc : p = c
      · simp [dropLiteral?, hc, ih]
      · simp [dropLiteral?, hc, Ne.symm hc]

/-- A piece occurs in a text if it stands between two parts of it. -/
theorem contains_iff_infix {text piece : Text} : contains text piece = true ↔ piece <:+: text := by
  induction text with
  | nil => simp [contains]
  | cons c rest ih =>
    have hprefix : startsWith (c :: rest) piece = true ↔ piece <+: c :: rest := by
      rw [startsWith, Option.isSome_iff_exists]
      exact exists_congr fun after => dropLiteral?_eq_some_iff.trans eq_comm
    rw [contains, Bool.or_eq_true, hprefix, ih, List.infix_cons_iff]

/-- A run of characters that satisfy `p` is cut off a text where it ends. -/
theorem takeWhile_append_of_stops {p : Char → Bool} {run after : Text}
    (hrun : ∀ c ∈ run, p c = true) (hafter : ∀ c ∈ after.head?, p c = false) :
    (run ++ after).takeWhile p = run ∧ (run ++ after).dropWhile p = after := by
  rw [List.takeWhile_append_of_pos hrun, List.dropWhile_append_of_pos hrun]
  cases after with
  | nil => simp
  | cons c after =>
    have hc : p c = false := hafter c rfl
    simp [hc]

/-- Blanks in front of something that is not blank are trimmed off. -/
theorem trimStart_append {gap : Text} (hgap : ∀ c ∈ gap, isBlank c = true) {c : Char}
    (hc : isBlank c = false) (rest : Text) : trimStart (gap ++ c :: rest) = c :: rest := by
  rw [trimStart, List.dropWhile_append_of_pos hgap]
  simp [hc]

/-- What is trimmed at the start is white space. -/
theorem exists_append_trimStart (text : Text) :
    ∃ gap, text = gap ++ trimStart text ∧ ∀ c ∈ gap, isBlank c = true :=
  ⟨text.takeWhile isBlank, List.takeWhile_append_dropWhile.symm,
    fun _ hc => List.mem_takeWhile_imp hc⟩

/-- `core` is a text without the white space that it starts with. -/
def StartTrimmed (text core : Text) : Prop :=
  ∃ gap, text = gap ++ core ∧ (∀ c ∈ gap, isBlank c = true) ∧ ∀ c ∈ core.head?, isBlank c = false

/-- `core` is a text without white space at either end. -/
def Trimmed (text core : Text) : Prop :=
  ∃ gap gap', text = gap ++ (core ++ gap') ∧ (∀ c ∈ gap, isBlank c = true) ∧
    (∀ c ∈ gap', isBlank c = true) ∧ (∀ c ∈ core.head?, isBlank c = false) ∧
    ∀ c ∈ core.getLast?, isBlank c = false

/-- A text that is trimmed at the start begins with no white space. -/
theorem head?_dropWhile_isBlank (text : Text) :
    ∀ c ∈ (text.dropWhile isBlank).head?, isBlank c = false := by
  intro c hc
  have hhead := List.head?_dropWhile_not isBlank text
  rw [hc] at hhead
  simpa using hhead

/-- Trimming at the start is what `StartTrimmed` says. -/
theorem startTrimmed_trimStart (text : Text) : StartTrimmed text (trimStart text) := by
  obtain ⟨gap, hgap, hblank⟩ := exists_append_trimStart text
  exact ⟨gap, hgap, hblank, head?_dropWhile_isBlank text⟩

/-- What is trimmed at the end is white space. -/
theorem exists_trimEnd_append (text : Text) :
    ∃ gap, text = trimEnd text ++ gap ∧ ∀ c ∈ gap, isBlank c = true := by
  obtain ⟨gap, hgap, hblank⟩ := exists_append_trimStart text.reverse
  refine ⟨gap.reverse, ?_, fun c hc => hblank c (List.mem_reverse.1 hc)⟩
  rw [trimEnd, ← List.reverse_append, ← trimStart, ← hgap, List.reverse_reverse]

/-- Trimming is what `Trimmed` says. -/
theorem trimmed_trim (text : Text) : Trimmed text (trim text) := by
  obtain ⟨gap, hgap, hblank, hhead⟩ := startTrimmed_trimStart text
  obtain ⟨gap', hgap', hblank'⟩ := exists_trimEnd_append (trimStart text)
  refine ⟨gap, gap', ?_, hblank, hblank', ?_, ?_⟩
  · rw [trim, ← hgap']
    exact hgap
  · -- What is left starts as before.
    intro c hc
    apply hhead c
    rw [trim, Option.mem_def] at hc
    rw [hgap', Option.mem_def, List.head?_append, hc]
    rfl
  · intro c hc
    rw [trim, trimEnd, List.getLast?_reverse] at hc
    exact head?_dropWhile_isBlank _ c hc

/-- A text is split at the first separator. -/
theorem splitOnce?_eq_some_iff {separator : Char} {text before after : Text} :
    splitOnce? separator text = some (before, after) ↔
      text = before ++ separator :: after ∧ separator ∉ before := by
  induction text generalizing before with
  | nil => simp [splitOnce?]
  | cons c rest ih =>
    by_cases hc : c = separator
    · cases before with
      | nil => simp [splitOnce?, hc]
      | cons d before =>
        simp only [splitOnce?, hc, if_true]
        constructor
        · intro h
          cases h
        · rintro ⟨htext, hnot⟩
          rw [List.cons_append, List.cons.injEq] at htext
          exact absurd (htext.1 ▸ List.mem_cons_self ..) hnot
    · cases before with
      | nil => simp [splitOnce?, hc]
      | cons d before =>
        simp only [splitOnce?, hc, if_false, Option.map_eq_some_iff, Prod.exists, Prod.mk.injEq,
          List.cons.injEq]
        constructor
        · rintro ⟨before', after', hrest, ⟨rfl, rfl⟩, rfl⟩
          obtain ⟨rfl, hnot⟩ := ih.1 hrest
          simp [hnot, Ne.symm hc]
        · rintro ⟨htext, hnot⟩
          rw [List.cons_append, List.cons.injEq] at htext
          exact ⟨before, after, ih.2 ⟨htext.2, fun h => hnot (List.mem_cons_of_mem _ h)⟩,
            ⟨htext.1, rfl⟩, rfl⟩

/-- A text is not split exactly if it has no separator. -/
theorem splitOnce?_eq_none_iff {separator : Char} {text : Text} :
    splitOnce? separator text = none ↔ separator ∉ text := by
  induction text with
  | nil => simp [splitOnce?]
  | cons c rest ih =>
    by_cases hc : c = separator
    · simp [splitOnce?, hc]
    · simp [splitOnce?, hc, ih, Ne.symm hc]

section Pieces

variable {α : Type} [DecidableEq α] {separator : α}

/-- There is at least one piece. -/
theorem exists_pieces_eq_cons (separator : α) (list : List α) :
    ∃ part parts, pieces separator list = part :: parts := by
  cases list with
  | nil => exact ⟨[], [], rfl⟩
  | cons d rest =>
    rw [pieces]
    split
    · exact ⟨_, _, rfl⟩
    · split <;> exact ⟨_, _, rfl⟩

/-- A character that is no separator belongs to the first piece. -/
theorem pieces_cons_of_ne {c : α} (hc : c ≠ separator) (list : List α) :
    ∃ part parts, pieces separator list = part :: parts ∧
      pieces separator (c :: list) = (c :: part) :: parts := by
  obtain ⟨part, parts, hparts⟩ := exists_pieces_eq_cons separator list
  exact ⟨part, parts, hparts, by rw [pieces, if_neg hc, hparts]⟩

/-- A list without a separator is one part. -/
theorem pieces_of_not_mem {list : List α} (h : separator ∉ list) :
    pieces separator list = [list] := by
  induction list with
  | nil => rfl
  | cons c rest ih =>
    rw [List.mem_cons, not_or] at h
    rw [pieces, if_neg (Ne.symm h.1), ih h.2]

/-- A separator divides the parts before it from the parts behind it. -/
theorem pieces_append_cons (before after : List α) :
    pieces separator (before ++ separator :: after) =
      pieces separator before ++ pieces separator after := by
  induction before with
  | nil => simp [pieces]
  | cons c before ih =>
    by_cases hc : c = separator
    · rw [List.cons_append, pieces, pieces, if_pos hc, if_pos hc, ih, List.cons_append]
    · obtain ⟨part, parts, hbefore, hcons⟩ := pieces_cons_of_ne hc before
      rw [hcons, List.cons_append, List.cons_append, pieces, if_neg hc, ih, hbefore]
      rfl

end Pieces

section FindPlace

/-- The character before a place, when one more character stands in front. -/
theorem getLast?_or_some (front : Text) (c : Char) (previous : Option Char) :
    front.getLast?.or (some c) = (c :: front).getLast?.or previous := by
  rw [List.getLast?_cons]
  cases front.getLast? <;> rfl

variable {α : Type} {f : Option Char → Text → Option α} {previous : Option Char} {text : Text}

/-- A search that finds something finds it at a place of the text. -/
theorem exists_append_of_findPlace? {offset : Nat} {a : α}
    (h : findPlace? f previous text = some (offset, a)) :
    ∃ front rest, text = front ++ rest ∧ offset = bytes front ∧
      f (front.getLast?.or previous) rest = some a := by
  induction text generalizing previous offset with
  | nil =>
    obtain ⟨a', ha', hpair⟩ := Option.map_eq_some_iff.1 h
    cases hpair
    exact ⟨[], [], rfl, rfl, ha'⟩
  | cons c rest ih =>
    rw [findPlace?] at h
    cases hhere : f previous (c :: rest) with
    | some a' =>
      rw [hhere] at h
      cases h
      exact ⟨[], c :: rest, rfl, rfl, hhere⟩
    | none =>
      rw [hhere] at h
      obtain ⟨⟨offset', a'⟩, hlater, hpair⟩ := Option.map_eq_some_iff.1 h
      cases hpair
      obtain ⟨front, rest', rfl, rfl, hf⟩ := ih hlater
      rw [getLast?_or_some front c previous] at hf
      exact ⟨c :: front, rest', rfl, rfl, hf⟩

/-- A search finds nothing if there is nothing at any place. -/
theorem findPlace?_eq_none_iff :
    findPlace? f previous text = none ↔
      ∀ front rest, text = front ++ rest → f (front.getLast?.or previous) rest = none := by
  constructor
  · intro h front rest htext
    induction text generalizing previous front with
    | nil =>
      obtain ⟨rfl, rfl⟩ := List.append_eq_nil_iff.1 htext.symm
      simpa [findPlace?] using h
    | cons c text ih =>
      rw [findPlace?] at h
      cases hhere : f previous (c :: text) with
      | some a =>
        rw [hhere] at h
        cases h
      | none =>
        rw [hhere] at h
        cases front with
        | nil =>
          rw [List.nil_append] at htext
          rw [← htext]
          exact hhere
        | cons d front =>
          rw [List.cons_append, List.cons.injEq] at htext
          obtain ⟨rfl, htext⟩ := htext
          rw [← getLast?_or_some]
          exact ih (Option.map_eq_none_iff.1 h) front htext
  · intro h
    by_contra hsome
    obtain ⟨⟨offset, a⟩, hfound⟩ := Option.ne_none_iff_exists'.1 hsome
    obtain ⟨front, rest, htext, -, hf⟩ := exists_append_of_findPlace? hfound
    rw [h front rest htext] at hf
    cases hf

end FindPlace

end FluentAssist.Text
