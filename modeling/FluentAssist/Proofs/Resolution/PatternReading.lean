import FluentAssist.Proofs.Text.Search
import FluentAssist.Resolution.Pattern

/-!
# What patterns read

A pattern takes a text apart from its start. For every kind of part there is one lemma that says how
the text is put together when the part reads it, and for the parts that leave no choice one that
reads them in front of any rest.

`firstOf?_eq_some_of_agree` is how a list of patterns is used: where all places at which one of them
reads give the same name, it does not matter which of them is found.
-/

set_option autoImplicit false

namespace FluentAssist.Text

/-- All characters are word characters. -/
def IsWord (text : Text) : Prop := ∀ c ∈ text, isWordChar c = true

/-- The code points of white space. -/
def blankCodes : List Nat :=
  [9, 10, 11, 12, 13, 0x20, 0x85, 0xA0, 0x1680, 0x2000, 0x2001, 0x2002, 0x2003, 0x2004, 0x2005,
    0x2006, 0x2007, 0x2008, 0x2009, 0x200A, 0x2028, 0x2029, 0x202F, 0x205F, 0x3000]

/-- White space has one of these code points. -/
theorem toNat_mem_blankCodes {c : Char} (h : isBlank c = true) : c.toNat ∈ blankCodes := by
  simp only [isBlank, Bool.or_eq_true, Bool.and_eq_true, decide_eq_true_eq, beq_iff_eq] at h
  simp only [blankCodes, List.mem_cons, List.not_mem_nil, or_false]
  omega

/-- No word character is white space. -/
theorem isBlank_of_isWordChar {c : Char} (h : isWordChar c = true) : isBlank c = false := by
  have hcodes : ∀ code ∈ blankCodes, isWordChar (Char.ofNat code) = false := by
    decide +kernel
  rw [← Bool.not_eq_true]
  intro hblank
  have hno := hcodes c.toNat (toNat_mem_blankCodes hblank)
  rw [Char.ofNat_toNat, h] at hno
  cases hno

end FluentAssist.Text

namespace FluentAssist.Pattern

open Text (IsWord isWordChar)

/-! ## One part -/

section Equations

-- One equation per kind of part; what follows never unfolds `matchAt?`.
variable (rest : Pattern) (captured text : Text)

/-- A pattern that is at its end gives what was captured. -/
theorem matchAt?_nil : matchAt? [] captured text = some captured := rfl

/-- A piece has to be next. -/
theorem matchAt?_literal (piece : String) :
    matchAt? (.literal piece :: rest) captured text =
      (Text.dropLiteral? piece.toList text).bind (matchAt? rest captured) := by
  rw [matchAt?]
  cases Text.dropLiteral? piece.toList text <;> rfl

/-- The first of several pieces that leads to a match counts. -/
theorem matchAt?_oneOf (pieces : List String) :
    matchAt? (.oneOf pieces :: rest) captured text =
      pieces.findSome? fun piece => matchAt? (.literal piece :: rest) captured text := rfl

/-- With the optional text is tried before without it. -/
theorem matchAt?_maybe (piece : String) :
    matchAt? (.maybe piece :: rest) captured text =
      (matchAt? (.literal piece :: rest) captured text).or (matchAt? rest captured text) := by
  rw [matchAt?_literal, matchAt?]
  cases Text.dropLiteral? piece.toList text with
  | none => rfl
  | some after => cases hafter : matchAt? rest captured after <;> simp [hafter]

/-- A run takes all characters of its set, and has to be long enough. -/
theorem matchAt?_run (set : CharSet) (least : Nat) :
    matchAt? (.run set least :: rest) captured text =
      if least ≤ (text.takeWhile set.holds).length then
        matchAt? rest captured (text.dropWhile set.holds)
      else none := rfl

/-- A name takes all word characters, at least one, and captures them. -/
theorem matchAt?_name :
    matchAt? (.name :: rest) captured text =
      if (text.takeWhile isWordChar).isEmpty then none
      else matchAt? rest (text.takeWhile isWordChar) (text.dropWhile isWordChar) := rfl

/-- The end has to be reached. -/
theorem matchAt?_atEnd :
    matchAt? (.atEnd :: rest) captured text =
      if text.isEmpty then matchAt? rest captured text else none := rfl

/-- A pattern is tried at the first character before the others. -/
theorem search?_cons (pattern : Pattern) (c : Char) :
    search? pattern (c :: text) =
      (matchAt? pattern [] (c :: text)).or (search? pattern text) := by
  rw [search?]
  cases matchAt? pattern [] (c :: text) <;> rfl

end Equations

section Parts

variable {rest : Pattern} {captured text after found : Text} {piece : String}

/-- A piece matches where it stands. -/
theorem matchAt?_literal_append (piece : String) (rest : Pattern) (captured after : Text) :
    matchAt? (.literal piece :: rest) captured (piece.toList ++ after) =
      matchAt? rest captured after := by
  rw [matchAt?_literal, Text.dropLiteral?_eq_some_iff.2 rfl]
  rfl

/-- A piece matches exactly where it stands and the rest matches behind it. -/
theorem matchAt?_literal_eq_some_iff :
    matchAt? (.literal piece :: rest) captured text = some found ↔
      ∃ after, text = piece.toList ++ after ∧ matchAt? rest captured after = some found := by
  rw [matchAt?_literal, Option.bind_eq_some_iff]
  simp only [Text.dropLiteral?_eq_some_iff]

/-- Where one of several pieces matches, one of them stands. -/
theorem exists_of_matchAt?_oneOf {pieces : List String}
    (h : matchAt? (.oneOf pieces :: rest) captured text = some found) :
    ∃ piece ∈ pieces, ∃ after, text = piece.toList ++ after ∧
      matchAt? rest captured after = some found := by
  rw [matchAt?_oneOf] at h
  obtain ⟨piece, hpiece, hread⟩ := List.exists_of_findSome?_eq_some h
  exact ⟨piece, hpiece, matchAt?_literal_eq_some_iff.1 hread⟩

/-- Where an optional piece matches, it stands or is left out. -/
theorem exists_of_matchAt?_maybe (h : matchAt? (.maybe piece :: rest) captured text = some found) :
    ∃ skipped after, (skipped = [] ∨ skipped = piece.toList) ∧ text = skipped ++ after ∧
      matchAt? rest captured after = some found := by
  rw [matchAt?_maybe, Option.or_eq_some_iff] at h
  rcases h with hwith | ⟨-, hwithout⟩
  · obtain ⟨after, htext, hafter⟩ := matchAt?_literal_eq_some_iff.1 hwith
    exact ⟨_, after, .inr rfl, htext, hafter⟩
  · exact ⟨[], text, .inl rfl, rfl, hwithout⟩

/-- Where one of several pieces stands and the rest matches, there is a match. -/
theorem isSome_matchAt?_oneOf {pieces : List String} (hpiece : piece ∈ pieces)
    (h : (matchAt? rest captured after).isSome) :
    (matchAt? (.oneOf pieces :: rest) captured (piece.toList ++ after)).isSome := by
  rw [matchAt?_oneOf, List.findSome?_isSome_iff]
  exact ⟨piece, hpiece, by rwa [matchAt?_literal_append]⟩

/-- Where an optional piece stands or is left out and the rest matches, there is a match. -/
theorem isSome_matchAt?_maybe {skipped : Text} (hskipped : skipped = [] ∨ skipped = piece.toList)
    (h : (matchAt? rest captured after).isSome) :
    (matchAt? (.maybe piece :: rest) captured (skipped ++ after)).isSome := by
  rw [matchAt?_maybe, Option.isSome_or, Bool.or_eq_true]
  rcases hskipped with rfl | rfl
  · exact .inr h
  · rw [matchAt?_literal_append]
    exact .inl h

/-- A run matches the characters of its set up to the first that is none. -/
theorem matchAt?_run_append {set : CharSet} {least : Nat} {run : Text} (hleast : least ≤ run.length)
    (hrun : ∀ c ∈ run, set.holds c = true) (hafter : ∀ c ∈ after.head?, set.holds c = false) :
    matchAt? (.run set least :: rest) captured (run ++ after) = matchAt? rest captured after := by
  obtain ⟨htake, hdrop⟩ := Text.takeWhile_append_of_stops hrun hafter
  rw [matchAt?_run, htake, hdrop, if_pos hleast]

/-- Where a run matches, there are enough characters of its set. -/
theorem exists_of_matchAt?_run {set : CharSet} {least : Nat}
    (h : matchAt? (.run set least :: rest) captured text = some found) :
    ∃ run after, text = run ++ after ∧ least ≤ run.length ∧ (∀ c ∈ run, set.holds c = true) ∧
      matchAt? rest captured after = some found := by
  rw [matchAt?_run] at h
  split at h
  · next hleast =>
    exact ⟨_, _, List.takeWhile_append_dropWhile.symm, hleast,
      fun c hc => List.mem_takeWhile_imp hc, h⟩
  · cases h

/-- A name matches the word characters up to the first that is none. -/
theorem matchAt?_name_append {name : Text} (hne : name ≠ []) (hname : IsWord name)
    (hafter : ∀ c ∈ after.head?, isWordChar c = false) :
    matchAt? (.name :: rest) captured (name ++ after) = matchAt? rest name after := by
  obtain ⟨htake, hdrop⟩ := Text.takeWhile_append_of_stops hname hafter
  rw [matchAt?_name, htake, hdrop]
  exact if_neg (by simpa using hne)

/-- Where a name matches, there is a word, and it is captured. -/
theorem exists_of_matchAt?_name (h : matchAt? (.name :: rest) captured text = some found) :
    ∃ name after, text = name ++ after ∧ name ≠ [] ∧ IsWord name ∧
      matchAt? rest name after = some found := by
  rw [matchAt?_name] at h
  split at h
  · cases h
  · next hne =>
    exact ⟨_, _, List.takeWhile_append_dropWhile.symm, by simpa using hne,
      fun c hc => List.mem_takeWhile_imp hc, h⟩

/-- What a pattern starts with does not decide between two ends of which one reads wherever the
other one does. -/
theorem isSome_matchAt?_append_mono {shorter longer : Pattern}
    (h : ∀ captured text, (matchAt? longer captured text).isSome →
      (matchAt? shorter captured text).isSome) (head : Pattern) (captured text : Text) :
    (matchAt? (head ++ longer) captured text).isSome →
      (matchAt? (head ++ shorter) captured text).isSome := by
  induction head generalizing captured text with
  | nil => exact h captured text
  | cons part head ih =>
    have hliteral : ∀ piece : String,
        (matchAt? (.literal piece :: (head ++ longer)) captured text).isSome →
          (matchAt? (.literal piece :: (head ++ shorter)) captured text).isSome := by
      intro piece
      simp only [matchAt?_literal]
      cases Text.dropLiteral? piece.toList text with
      | none => exact id
      | some after => exact ih captured after
    rw [List.cons_append, List.cons_append]
    cases part with
    | literal piece => exact hliteral piece
    | oneOf pieces =>
      simp only [matchAt?_oneOf, List.findSome?_isSome_iff]
      rintro ⟨piece, hpiece, hreads⟩
      exact ⟨piece, hpiece, hliteral piece hreads⟩
    | maybe piece =>
      simp only [matchAt?_maybe, Option.isSome_or, Bool.or_eq_true]
      exact Or.imp (hliteral piece) (ih captured text)
    | run set least =>
      simp only [matchAt?_run]
      split
      · exact ih captured _
      · exact id
    | name =>
      simp only [matchAt?_name]
      split
      · exact id
      · exact ih _ _
    | atEnd =>
      simp only [matchAt?_atEnd]
      split
      · exact ih captured text
      · exact id

end Parts

/-! ## Searching -/

section Searching

variable {pattern : Pattern} {text found : Text}

/-- What a search finds is a match at some place. -/
theorem exists_of_search? (h : search? pattern text = some found) :
    ∃ before rest, text = before ++ rest ∧ matchAt? pattern [] rest = some found := by
  induction text with
  | nil => exact ⟨[], [], rfl, h⟩
  | cons c rest ih =>
    rw [search?_cons, Option.or_eq_some_iff] at h
    rcases h with hhere | ⟨-, hlater⟩
    · exact ⟨[], c :: rest, rfl, hhere⟩
    · obtain ⟨before, rest', rfl, hread⟩ := ih hlater
      exact ⟨c :: before, rest', rfl, hread⟩

/-- A match at the first place is found. -/
theorem search?_of_matchAt? (h : matchAt? pattern [] text = some found) :
    search? pattern text = some found := by
  cases text with
  | nil => exact h
  | cons c rest => rw [search?_cons, h, Option.some_or]

/-- A match at any place is found, or an earlier one is. -/
theorem isSome_search? {before rest : Text} (h : (matchAt? pattern [] rest).isSome) :
    (search? pattern (before ++ rest)).isSome := by
  induction before with
  | nil =>
    obtain ⟨found, hfound⟩ := Option.isSome_iff_exists.1 h
    exact Option.isSome_of_eq_some (search?_of_matchAt? hfound)
  | cons c before ih => rw [List.cons_append, search?_cons, Option.isSome_or, ih, Bool.or_true]

/-- Where all that a list of patterns reads anywhere is one name, and something is read, that name
is found. -/
theorem firstOf?_eq_some_of_agree {patterns : List Pattern}
    (hall : ∀ pattern ∈ patterns, ∀ before rest name, text = before ++ rest →
      matchAt? pattern [] rest = some name → name = found)
    (hsome : ∃ pattern ∈ patterns, ∃ before rest, text = before ++ rest ∧
      (matchAt? pattern [] rest).isSome) :
    firstOf? patterns text = some found := by
  have hreads : (firstOf? patterns text).isSome := by
    rw [firstOf?, List.findSome?_isSome_iff]
    obtain ⟨pattern, hpattern, before, rest, rfl, hread⟩ := hsome
    exact ⟨pattern, hpattern, isSome_search? hread⟩
  obtain ⟨name, hname⟩ := Option.isSome_iff_exists.1 hreads
  obtain ⟨pattern, hpattern, hsearch⟩ := List.exists_of_findSome?_eq_some hname
  obtain ⟨before, rest, htext, hread⟩ := exists_of_search? hsearch
  rw [hname, hall pattern hpattern before rest name htext hread]

end Searching

end FluentAssist.Pattern
