import FluentAssist.Proofs.Resolution.PatternReading
import FluentAssist.Proofs.Text.Expression

/-!
# Patterns as regular expressions

A pattern stands for a regular expression. A reader of expressions goes back where it cannot go on:
it takes one character less of a repetition and tries the rest once more. `matchAt?` does so for
texts that may be chosen or left out, but never for runs.

Nothing is lost by that. A run that is cut short is followed by a character of its own set, and in a
`definite` pattern what follows a run does not start with one. So only the longest run counts
(`findSome?_runs`), and every list of patterns captures what the expressions capture:
`firstOf?_eq_findSome?_capture?`.
-/

set_option autoImplicit false

namespace FluentAssist.Expression

variable {α : Type} {p : Char → Bool} {before rest : Text}

/-- Characters of a class, no fewer than given and as many as possible. -/
def repeated (p : Char → Bool) : Nat → Expression
  | 0 => many p
  | least + 1 => (one p).seq (repeated p least)

/-- A set that is repeated reads the runs that are long enough. -/
theorem readings_repeated (p : Char → Bool) (least : Nat) (before rest : Text) :
    (repeated p least).readings before rest =
      ((runs p rest).filter (least ≤ ·.length)).map fun run => { text := run } := by
  induction least generalizing before rest with
  | zero => simp [repeated, readings_many]
  | succ least ih =>
    rw [repeated, readings_seq, readings_one]
    cases rest with
    | nil => simp [runs]
    | cons c rest =>
      by_cases hc : p c = true
      · simp [runs, hc, ih, List.filter_map, Function.comp_def, Reading.append]
      · simp [runs, hc]

/-- Where no shorter run leads on if the longest one does not, the longest one decides. -/
theorem findSome?_runs {f : Text → Option α}
    (h : f (rest.takeWhile p) = none → ∀ run c after, rest = run ++ c :: after →
      (∀ d ∈ run, p d = true) → p c = true → f run = none) :
    (runs p rest).findSome? f = f (rest.takeWhile p) := by
  induction rest generalizing f with
  | nil => simp [runs]
  | cons c rest ih =>
    by_cases hc : p c = true
    · rw [List.takeWhile_cons_of_pos hc] at h ⊢
      have hlonger : (runs p rest).findSome? (f ∘ (c :: ·)) = f (c :: rest.takeWhile p) := by
        refine ih fun hnone run d after hrest hrun hd => ?_
        exact h hnone (c :: run) d after (by rw [hrest, List.cons_append])
          (List.forall_mem_cons.2 ⟨hc, hrun⟩) hd
      rw [runs, if_pos hc, List.findSome?_append, List.findSome?_map, hlonger]
      cases hfirst : f (c :: rest.takeWhile p) with
      | some found => rfl
      | none => simp [h hfirst [] c rest rfl (by simp) hc]
    · rw [runs, if_neg hc, List.takeWhile_cons_of_neg hc]
      simp

/-- Of the runs with a least length only the longest one counts, if what follows a run can be read
everywhere, or nowhere in front of a character of the class. -/
theorem findSome?_filter_runs (p : Char → Bool) (least : Nat) (rest : Text)
    (next : Text → Text → Option α)
    (h : (∀ run after, (next run after).isSome) ∨
      ∀ run c after, p c = true → next run (c :: after) = none) :
    ((runs p rest).filter (least ≤ ·.length)).findSome?
        (fun run => next run (rest.drop run.length)) =
      if least ≤ (rest.takeWhile p).length then next (rest.takeWhile p) (rest.dropWhile p)
      else none := by
  have hguard : ((runs p rest).filter (least ≤ ·.length)).findSome?
      (fun run => next run (rest.drop run.length)) =
      (runs p rest).findSome? fun run =>
        if least ≤ run.length then next run (rest.drop run.length) else none := by
    induction runs p rest with
    | nil => rfl
    | cons run shorter ih =>
      by_cases hleast : least ≤ run.length <;> simp [hleast, ih, List.findSome?_cons]
  have hdrop : rest.drop (rest.takeWhile p).length = rest.dropWhile p :=
    calc
      _ = (rest.takeWhile p ++ rest.dropWhile p).drop (rest.takeWhile p).length := by
        rw [List.takeWhile_append_dropWhile]
      _ = _ := List.drop_left
  rw [hguard, findSome?_runs, hdrop]
  rintro hnone run c after rfl hrun hc
  rcases h with hall | hnever
  · have hlength : run.length ≤ ((run ++ c :: after).takeWhile p).length := by
      rw [List.takeWhile_append_of_pos hrun, List.length_append]
      omega
    split at hnone
    · exact absurd hnone (Option.isSome_iff_ne_none.1 (hall _ _))
    · exact if_neg (by omega)
  · rw [List.drop_left, hnever run c after hc, ite_self]

/-- What the first group of the preferred reading holds, at the first place that has a reading. -/
def capture? (expression : Expression) (text : Text) : Option Text := do
  let (_, reading) ← expression.search? text
  let (_, captured) ← reading.group? 1
  return captured

/-- What a search finds is a reading at the place that it gives. -/
theorem exists_mem_readings_of_searchFrom? {expression : Expression} {found : Text × Reading}
    (h : expression.searchFrom? before rest = some found) :
    ∃ after, found.2 ∈ expression.readings found.1 after := by
  induction rest generalizing before with
  | nil =>
    obtain ⟨reading, hhead, rfl⟩ := Option.map_eq_some_iff.1 h
    exact ⟨[], List.mem_of_head? hhead⟩
  | cons c rest ih =>
    rw [searchFrom?] at h
    split at h
    · next reading hhead =>
      obtain rfl := Option.some_inj.1 h
      exact ⟨c :: rest, List.mem_of_head? hhead⟩
    · exact ih h

end FluentAssist.Expression

namespace FluentAssist.Pattern

open Expression (Reading)
open Text (isWordChar)

variable {pattern rest : Pattern} {captured before text : Text}

/-! ## What follows a run -/

/-- No character is in both sets. -/
def CharSet.apart : CharSet → CharSet → Bool
  | .blank, .word => true
  | .word, .blank => true
  | _, _ => false

/-- A character of a set is in none that is apart from it. -/
theorem CharSet.holds_of_apart {set other : CharSet} (h : set.apart other = true) {c : Char}
    (hc : set.holds c = true) : other.holds c = false := by
  have hdisjoint := Text.isBlank_of_isWordChar (c := c)
  cases set <;> cases other <;> simp_all [CharSet.apart, CharSet.holds]

/-- A fixed text does not start with a character of the set. -/
def startsOutside (set : CharSet) (piece : String) : Bool := piece.toList.head?.any (!set.holds ·)

/-- A pattern cannot be read in front of a character of the set. -/
def refuses (set : CharSet) : Pattern → Bool
  | [] => false
  | .literal piece :: _ => startsOutside set piece
  | .oneOf pieces :: _ => pieces.all (startsOutside set)
  | .maybe piece :: rest => startsOutside set piece && refuses set rest
  | .run other least :: rest => set.apart other && (0 < least || refuses set rest)
  | .name :: _ => set.apart .word
  | .atEnd :: _ => true

/-- After every run of a pattern comes what does not start with a character of the run, or after a
name nothing. -/
def definite : Pattern → Bool
  | [] => true
  | .run set _ :: rest => refuses set rest && definite rest
  | .name :: rest => (rest.isEmpty || refuses .word rest) && definite rest
  | _ :: rest => definite rest

/-- A piece that starts outside of a set does not match at a character of the set. -/
theorem matchAt?_literal_of_startsOutside {set : CharSet} {piece : String} {c : Char}
    (h : startsOutside set piece = true) (hc : set.holds c = true) :
    matchAt? (.literal piece :: rest) captured (c :: text) = none := by
  rw [startsOutside, Option.any_eq_true] at h
  obtain ⟨d, hd, hout⟩ := h
  obtain ⟨tail, hpiece⟩ := List.head?_eq_some_iff.1 hd
  rw [Option.eq_none_iff_forall_ne_some]
  intro found hfound
  obtain ⟨after, htext, -⟩ := matchAt?_literal_eq_some_iff.1 hfound
  rw [hpiece, List.cons_append] at htext
  rw [(List.cons.inj htext).1] at hc
  simp [hc] at hout

/-- A pattern that refuses a set does not match at a character of the set. -/
theorem matchAt?_of_refuses {set : CharSet} {c : Char} (h : refuses set pattern = true)
    (hc : set.holds c = true) (captured text : Text) :
    matchAt? pattern captured (c :: text) = none := by
  induction pattern with
  | nil => cases h
  | cons piece rest ih =>
    cases piece with
    | literal piece => exact matchAt?_literal_of_startsOutside h hc
    | oneOf pieces =>
      rw [matchAt?_oneOf, List.findSome?_eq_none_iff]
      intro piece hpiece
      exact matchAt?_literal_of_startsOutside (List.all_eq_true.1 h piece hpiece) hc
    | maybe piece =>
      rw [refuses, Bool.and_eq_true] at h
      rw [matchAt?_maybe, matchAt?_literal_of_startsOutside h.1 hc, Option.none_or, ih h.2]
    | run other least =>
      rw [refuses, Bool.and_eq_true, Bool.or_eq_true, decide_eq_true_eq] at h
      have hstop := CharSet.holds_of_apart h.1 hc
      rw [matchAt?_run, List.takeWhile_cons_of_neg (by simp [hstop]),
        List.dropWhile_cons_of_neg (by simp [hstop])]
      rcases h.2 with hleast | hrest
      · exact if_neg (Nat.not_le.2 hleast)
      · rw [ih hrest, ite_self]
    | name =>
      have hstop : isWordChar c = false := CharSet.holds_of_apart h hc
      rw [matchAt?_name, List.takeWhile_cons_of_neg (by simp [hstop])]
      rfl
    | atEnd => rfl

/-! ## The expression of a pattern -/

/-- The regular expression for a part of a pattern. A name is the group of the expression. -/
def Piece.expression : Piece → Expression
  | .literal text => .literal text.toList
  | .oneOf texts => .oneOf (texts.map String.toList)
  | .maybe text => .oneOf [text.toList, []]
  | .run set least => .repeated set.holds least
  | .name => .group 1 (.repeated isWordChar 1)
  | .atEnd => .atEnd

/-- The regular expression for a pattern. -/
def expression : Pattern → Expression
  | [] => .literal []
  | piece :: rest => piece.expression.seq (expression rest)

/-- The text of the last group of a reading; `captured` is the one before it. -/
def lastCaptured (captured : Text) (reading : Reading) : Text :=
  reading.groups.foldl (fun _ part => part.2.2) captured

/-- The last capture of two readings in a row is that of the second, or else of the first. -/
theorem lastCaptured_append (captured : Text) (first second : Reading) :
    lastCaptured captured (first.append second) = lastCaptured (lastCaptured captured first) second :=
  List.foldl_append

/-- The preferred reading of a sequence is the first reading of its first part that leads on. -/
theorem head?_readings_seq (first second : Expression) (captured before text : Text) :
    ((first.seq second).readings before text).head?.map (lastCaptured captured) =
      (first.readings before text).findSome? fun reading =>
        ((second.readings (before ++ reading.text) (text.drop reading.text.length)).head?.map
          (lastCaptured (lastCaptured captured reading))) := by
  rw [Expression.readings_seq, List.head?_flatMap, List.map_findSome?]
  congr 1
  funext reading
  rw [Function.comp_apply, List.head?_map, Option.map_map]
  congr 1
  funext later
  exact lastCaptured_append captured reading later

/-- Fixed texts are tried in order. -/
theorem findSome?_readings_oneOf (pieces : List Text) (rest : Pattern) (captured before text : Text) :
    ((Expression.oneOf pieces).readings before text).findSome? (fun reading =>
        matchAt? rest (lastCaptured captured reading) (text.drop reading.text.length)) =
      pieces.findSome? fun piece =>
        (Text.dropLiteral? piece text).bind (matchAt? rest captured) := by
  rw [Expression.readings_oneOf, List.findSome?_map]
  induction pieces with
  | nil => rfl
  | cons piece pieces ih =>
    cases hpiece : Text.dropLiteral? piece text with
    | none =>
      rw [List.filter_cons_of_neg (by simp [Text.startsWith, hpiece]), ih]
      simp [hpiece]
    | some after =>
      have hafter : text.drop piece.length = after := by
        rw [Text.dropLiteral?_eq_some_iff.1 hpiece, List.drop_left]
      rw [List.filter_cons_of_pos (by simp [Text.startsWith, hpiece]), List.findSome?_cons,
        List.findSome?_cons, ih, hpiece]
      simp [hafter, lastCaptured]

/-- A pattern reads as its first part is read and then the rest of it. -/
theorem matchAt?_cons {piece : Piece} (h : definite (piece :: rest) = true)
    (captured before text : Text) :
    matchAt? (piece :: rest) captured text =
      (piece.expression.readings before text).findSome? fun reading =>
        matchAt? rest (lastCaptured captured reading) (text.drop reading.text.length) := by
  cases piece with
  | literal piece =>
    rw [Piece.expression, Expression.literal, findSome?_readings_oneOf, matchAt?_literal]
    simp
  | oneOf pieces =>
    rw [Piece.expression, findSome?_readings_oneOf, List.findSome?_map, matchAt?_oneOf]
    congr 1
    funext piece
    exact matchAt?_literal rest captured text piece
  | maybe piece =>
    have hpieces : [piece.toList, []] = [piece.toList] ++ [[]] := rfl
    rw [Piece.expression, findSome?_readings_oneOf, hpieces, List.findSome?_append,
      List.findSome?_singleton, List.findSome?_singleton, matchAt?_maybe, matchAt?_literal]
    rfl
  | run set least =>
    rw [definite, Bool.and_eq_true] at h
    have hnext := Expression.findSome?_filter_runs set.holds least text
      (fun _ after => matchAt? rest captured after)
      (.inr fun _ c after hc => matchAt?_of_refuses h.1 hc captured after)
    rw [Piece.expression, Expression.readings_repeated, List.findSome?_map, matchAt?_run]
    exact hnext.symm
  | name =>
    rw [definite, Bool.and_eq_true, Bool.or_eq_true] at h
    have hnext := Expression.findSome?_filter_runs isWordChar 1 text
      (fun name after => matchAt? rest name after) <| by
        rcases h.1 with hend | hrefuses
        · rw [List.isEmpty_iff] at hend
          subst hend
          exact .inl fun _ _ => rfl
        · exact .inr fun name c after hc => matchAt?_of_refuses hrefuses hc name after
    rw [Piece.expression, Expression.readings_group, Expression.readings_repeated, List.map_map,
      List.findSome?_map, matchAt?_name]
    refine Eq.trans ?_ hnext.symm
    cases text.takeWhile isWordChar <;> simp
  | atEnd =>
    rw [Piece.expression, Expression.readings_atEnd, matchAt?_atEnd]
    cases text <;> simp [lastCaptured]

/-- Never giving back the characters of a run is no loss. -/
theorem matchAt?_eq_head? (h : definite pattern = true) (captured before text : Text) :
    matchAt? pattern captured text =
      ((expression pattern).readings before text).head?.map (lastCaptured captured) := by
  induction pattern generalizing captured before text with
  | nil => rfl
  | cons piece rest ih =>
    have hrest : definite rest = true := by
      cases piece with
      | run | name => exact (Bool.and_eq_true_iff.1 h).2
      | literal | oneOf | maybe | atEnd => exact h
    rw [expression, head?_readings_seq, matchAt?_cons h captured before text]
    congr 1
    funext reading
    exact ih hrest _ _ _

/-- The place at which a pattern is found is the place at which its expression is found. -/
theorem search?_eq_searchFrom? (h : definite pattern = true) (before text : Text) :
    search? pattern text =
      ((expression pattern).searchFrom? before text).map fun found => lastCaptured [] found.2 := by
  induction text generalizing before with
  | nil =>
    rw [search?, matchAt?_eq_head? h [] before, Expression.searchFrom?, Option.map_map]
    rfl
  | cons c rest ih =>
    rw [search?_cons, matchAt?_eq_head? h [] before, ih (before ++ [c]), Expression.searchFrom?]
    cases ((expression pattern).readings before (c :: rest)).head? <;> rfl

/-! ## Captures -/

/-- Of the parts of a pattern only names have a group. -/
theorem groups_of_mem_readings_piece {piece : Piece} {reading : Reading}
    (h : reading ∈ piece.expression.readings before text) :
    reading.groups.map Prod.fst = if piece = .name then [1] else [] := by
  cases piece with
  | literal | oneOf | maybe =>
    obtain ⟨_, -, _, -, rfl⟩ := Expression.mem_readings_oneOf.1 h
    rfl
  | run set least =>
    rw [Piece.expression, Expression.readings_repeated] at h
    obtain ⟨_, -, rfl⟩ := List.mem_map.1 h
    rfl
  | name =>
    obtain ⟨name, hname, rfl⟩ := Expression.mem_readings_group.1 h
    rw [Expression.readings_repeated] at hname
    obtain ⟨_, -, rfl⟩ := List.mem_map.1 hname
    rfl
  | atEnd =>
    obtain ⟨-, rfl⟩ := Expression.mem_readings_atEnd.1 h
    rfl

/-- A reading has one group for every name of the pattern. -/
theorem groups_of_mem_readings {reading : Reading}
    (h : reading ∈ (expression pattern).readings before text) :
    reading.groups.map Prod.fst = List.replicate (pattern.count .name) 1 := by
  induction pattern generalizing before text reading with
  | nil =>
    obtain ⟨_, -, _, -, rfl⟩ := Expression.mem_readings_oneOf.1 h
    rfl
  | cons piece rest ih =>
    obtain ⟨left, hleft, right, hright, rfl⟩ := Expression.mem_readings_seq.1 h
    rw [Reading.append, List.map_append, groups_of_mem_readings_piece hleft, ih hright]
    by_cases hname : piece = .name
    · rw [if_pos hname, hname, List.count_cons_self]
      rfl
    · rw [if_neg hname, List.count_cons_of_ne hname]
      rfl

/-- In a pattern with one name the last group is the only one. -/
theorem search?_eq_capture? (h : definite pattern = true) (hname : pattern.count .name = 1)
    (text : Text) : search? pattern text = (expression pattern).capture? text := by
  rw [search?_eq_searchFrom? h [], Expression.capture?, Expression.search?]
  cases hfound : (expression pattern).searchFrom? [] text with
  | none => rfl
  | some found =>
    obtain ⟨rest, hmem⟩ := Expression.exists_mem_readings_of_searchFrom? hfound
    have hnumbers := groups_of_mem_readings hmem
    rw [hname] at hnumbers
    obtain ⟨⟨number, part⟩, hgroups, rfl⟩ := List.map_eq_singleton_iff.1 hnumbers
    simp [lastCaptured, Reading.group?, hgroups]

/-- Every pattern is definite and has one name. -/
theorem definite_of_mem :
    ∀ patterns ∈ [accessorPatterns, eventPatterns, variablePatterns, declarationPatterns],
      ∀ pattern ∈ patterns, definite pattern = true ∧ pattern.count .name = 1 := by
  decide

/-- A list of definite patterns with one capture each gives what their regular expressions capture.
-/
theorem firstOf?_eq_of_definite {patterns : List Pattern}
    (h : ∀ pattern ∈ patterns, definite pattern = true ∧ pattern.count .name = 1) (text : Text) :
    firstOf? patterns text = (patterns.map expression).findSome? (Expression.capture? · text) := by
  rw [firstOf?]
  induction patterns with
  | nil => rfl
  | cons pattern patterns ih =>
    obtain ⟨⟨hdefinite, hname⟩, hlater⟩ := List.forall_mem_cons.1 h
    rw [List.map_cons, List.findSome?_cons, List.findSome?_cons, ih hlater,
      search?_eq_capture? hdefinite hname]

/-- **Patterns are regular expressions.** For every list of patterns and every text, the name that
is found is what the group of the first expression with a reading holds, in the preferred reading at
the first place that has one. -/
theorem firstOf?_eq_findSome?_capture? :
    ∀ patterns ∈ [accessorPatterns, eventPatterns, variablePatterns, declarationPatterns],
      ∀ text, firstOf? patterns text =
        (patterns.map expression).findSome? (Expression.capture? · text) := by
  intro patterns hpatterns
  exact firstOf?_eq_of_definite (definite_of_mem patterns hpatterns)

end FluentAssist.Pattern
