import FluentAssist.Proofs.Text.Search

/-!
# Regular expressions

An expression is read as a backtracking reader tries it: alternatives from left to right, and of a
repetition first as many characters as there are, then one less, and so on. `Expression.readings`
lists every way to read an expression at a place, the preferred one first, and `Expression.search?`
takes the preferred reading at the first place that has one.

All repetitions here are of single characters. The membership lemmas say which texts can be read;
only the order of the list says which of several readings counts.
-/

set_option autoImplicit false

namespace FluentAssist

/-- Regular expressions in which single characters are repeated. -/
inductive Expression
  /-- One character of a class. -/
  | one (p : Char → Bool)
  /-- Any number of characters of a class, as many as possible. -/
  | many (p : Char → Bool)
  /-- One of several fixed texts, tried in order. -/
  | oneOf (pieces : List Text)
  | seq (first second : Expression)
  /-- A numbered part that is remembered. -/
  | group (number : Nat) (inner : Expression)
  | atStart
  | atEnd
  | atWordBoundary

namespace Expression

/-- A fixed text. -/
def literal (piece : Text) : Expression := oneOf [piece]

/-- What was read, with the numbered parts: number, what stands before the part, and its text. -/
structure Reading where
  text : Text
  groups : List (Nat × Text × Text) := []

/-- One reading followed by another. -/
def Reading.append (first second : Reading) : Reading :=
  ⟨first.text ++ second.text, first.groups ++ second.groups⟩

/-- The numbered part that was remembered. -/
def Reading.group? (reading : Reading) (number : Nat) : Option (Text × Text) :=
  reading.groups.lookup number

/-- The beginnings of a text that are made of characters of a class, the longest one first. -/
def runs (p : Char → Bool) : Text → List Text
  | [] => [[]]
  | c :: rest => if p c then (runs p rest).map (c :: ·) ++ [[]] else [[]]

/-- The ways to read an expression between `before` and `rest`, the preferred one first. -/
def readings : Expression → Text → Text → List Reading
  | one p, _, rest => ((rest.take 1).filter p).map fun c => { text := [c] }
  | many p, _, rest => (runs p rest).map fun run => { text := run }
  | oneOf pieces, _, rest =>
    (pieces.filter (Text.startsWith rest ·)).map fun piece => { text := piece }
  | seq first second, before, rest =>
    (first.readings before rest).flatMap fun reading =>
      (second.readings (before ++ reading.text) (rest.drop reading.text.length)).map reading.append
  | group number inner, before, rest =>
    (inner.readings before rest).map fun reading =>
      { reading with groups := (number, before, reading.text) :: reading.groups }
  | atStart, before, _ => if before.isEmpty then [{ text := [] }] else []
  | atEnd, _, rest => if rest.isEmpty then [{ text := [] }] else []
  | atWordBoundary, before, rest => if Text.isWordBoundary before rest then [{ text := [] }] else []

/-- The preferred reading at the first place that has one, with what stands before it. -/
def searchFrom? (expression : Expression) : Text → Text → Option (Text × Reading)
  | before, [] => (expression.readings before []).head?.map (before, ·)
  | before, c :: rest =>
    match (expression.readings before (c :: rest)).head? with
    | some reading => some (before, reading)
    | none => expression.searchFrom? (before ++ [c]) rest

/-- The preferred reading at the first place of a text that has one. -/
def search? (expression : Expression) (text : Text) : Option (Text × Reading) :=
  expression.searchFrom? [] text

section Equations

-- One equation per constructor; what follows never unfolds `readings`.
variable (before rest : Text)

/-- One character of a set reads the next character if it is one. -/
theorem readings_one (p : Char → Bool) :
    (one p).readings before rest = ((rest.take 1).filter p).map fun c => { text := [c] } := rfl

/-- Many characters of a set read any run of them, longest first. -/
theorem readings_many (p : Char → Bool) :
    (many p).readings before rest = (runs p rest).map fun run => { text := run } := rfl

/-- One of several pieces reads each piece that stands next, in their order. -/
theorem readings_oneOf (pieces : List Text) :
    (oneOf pieces).readings before rest =
      (pieces.filter (Text.startsWith rest ·)).map fun piece => { text := piece } := rfl

/-- Two expressions in a row read what the second reads behind each reading of the first. -/
theorem readings_seq (first second : Expression) :
    (first.seq second).readings before rest =
      (first.readings before rest).flatMap fun reading =>
        (second.readings (before ++ reading.text) (rest.drop reading.text.length)).map
          reading.append := rfl

/-- A group reads what is in it and notes where and what it was. -/
theorem readings_group (number : Nat) (inner : Expression) :
    (group number inner).readings before rest =
      (inner.readings before rest).map fun reading =>
        { reading with groups := (number, before, reading.text) :: reading.groups } := rfl

/-- The start reads nothing, at the start. -/
theorem readings_atStart :
    atStart.readings before rest = if before.isEmpty then [{ text := [] }] else [] := rfl

/-- The end reads nothing, at the end. -/
theorem readings_atEnd :
    atEnd.readings before rest = if rest.isEmpty then [{ text := [] }] else [] := rfl

/-- A word boundary reads nothing, at the start or end of a word. -/
theorem readings_atWordBoundary :
    atWordBoundary.readings before rest =
      if Text.isWordBoundary before rest then [{ text := [] }] else [] := rfl

end Equations

/-! ## Which texts can be read

`mem_readings_seq` and its like take a reading apart, `ReadsAll.seq` puts one together. -/

variable {before rest : Text} {reading : Reading}

/-- The runs of a set are what the text begins with and is in the set. -/
theorem mem_runs_iff {p : Char → Bool} {run : Text} :
    run ∈ runs p rest ↔ ∃ after, rest = run ++ after ∧ ∀ c ∈ run, p c = true := by
  induction rest generalizing run with
  | nil =>
    simp only [runs, List.mem_singleton]
    constructor
    · rintro rfl
      exact ⟨[], rfl, by simp⟩
    · rintro ⟨after, hafter, -⟩
      exact (List.append_eq_nil_iff.1 hafter.symm).1
  | cons c rest ih =>
    cases run with
    | nil =>
      have hempty : [] ∈ runs p (c :: rest) := by
        rw [runs]
        split <;> simp
      simp [hempty]
    | cons d run =>
      by_cases hc : p c = true
      · simp only [runs, hc, if_true, List.mem_append, List.mem_map, List.cons.injEq,
          List.mem_singleton, reduceCtorEq, or_false, List.cons_append, List.forall_mem_cons]
        constructor
        · rintro ⟨run', hrun, rfl, rfl⟩
          obtain ⟨after, hafter, hclass⟩ := ih.1 hrun
          exact ⟨after, ⟨rfl, hafter⟩, hc, hclass⟩
        · rintro ⟨after, ⟨rfl, hafter⟩, -, hclass⟩
          exact ⟨run, ih.2 ⟨after, hafter, hclass⟩, rfl, rfl⟩
      · simp only [runs, hc, Bool.false_eq_true, if_false, List.mem_singleton, reduceCtorEq,
          false_iff]
        rintro ⟨after, hafter, hclass⟩
        rw [List.cons_append, List.cons.injEq] at hafter
        exact hc (hafter.1 ▸ hclass d (List.mem_cons_self ..))

/-- One character of a set is read exactly where it stands. -/
theorem mem_readings_one {p : Char → Bool} :
    reading ∈ (one p).readings before rest ↔
      ∃ c after, rest = c :: after ∧ p c = true ∧ reading = { text := [c] } := by
  cases rest with
  | nil => simp [readings_one]
  | cons c rest =>
    simp only [readings_one, List.take_succ_cons, List.take_zero, List.mem_map, List.mem_filter,
      List.mem_singleton, List.cons.injEq]
    constructor
    · rintro ⟨_, ⟨rfl, hc⟩, rfl⟩
      exact ⟨_, rest, ⟨rfl, rfl⟩, hc, rfl⟩
    · rintro ⟨_, _, ⟨rfl, -⟩, hc, rfl⟩
      exact ⟨c, ⟨rfl, hc⟩, rfl⟩

/-- Many characters of a set are read exactly where they stand. -/
theorem mem_readings_many {p : Char → Bool} :
    reading ∈ (many p).readings before rest ↔
      ∃ run after, rest = run ++ after ∧ (∀ c ∈ run, p c = true) ∧ reading = { text := run } := by
  simp only [readings_many, List.mem_map, mem_runs_iff]
  constructor
  · rintro ⟨run, ⟨after, hafter, hclass⟩, rfl⟩
    exact ⟨run, after, hafter, hclass, rfl⟩
  · rintro ⟨run, after, hafter, hclass, rfl⟩
    exact ⟨run, ⟨after, hafter, hclass⟩, rfl⟩

/-- One of several pieces is read exactly where it stands. -/
theorem mem_readings_oneOf {pieces : List Text} :
    reading ∈ (oneOf pieces).readings before rest ↔
      ∃ piece ∈ pieces, ∃ after, rest = piece ++ after ∧ reading = { text := piece } := by
  simp only [readings_oneOf, List.mem_map, List.mem_filter, Text.startsWith, Option.isSome_iff_exists,
    Text.dropLiteral?_eq_some_iff]
  constructor
  · rintro ⟨piece, ⟨hpiece, after, hafter⟩, rfl⟩
    exact ⟨piece, hpiece, after, hafter, rfl⟩
  · rintro ⟨piece, hpiece, after, hafter, rfl⟩
    exact ⟨piece, ⟨hpiece, after, hafter⟩, rfl⟩

/-- Two expressions in a row are read by a reading of the first and one of the second behind it. -/
theorem mem_readings_seq {first second : Expression} :
    reading ∈ (first.seq second).readings before rest ↔
      ∃ left ∈ first.readings before rest,
        ∃ right ∈ second.readings (before ++ left.text) (rest.drop left.text.length),
          reading = left.append right := by
  simp only [readings_seq, List.mem_flatMap, List.mem_map, @eq_comm _ reading]

/-- A group is read exactly as what is in it. -/
theorem mem_readings_group {number : Nat} {inner : Expression} :
    reading ∈ (group number inner).readings before rest ↔
      ∃ found ∈ inner.readings before rest,
        reading = { found with groups := (number, before, found.text) :: found.groups } := by
  simp only [readings_group, List.mem_map, @eq_comm _ reading]

/-- The end is read only at the end. -/
theorem mem_readings_atEnd :
    reading ∈ atEnd.readings before rest ↔ rest = [] ∧ reading = { text := [] } := by
  cases rest <;> simp [readings_atEnd]

/-- The start is read only at the start. -/
theorem mem_readings_atStart :
    reading ∈ atStart.readings before rest ↔ before = [] ∧ reading = { text := [] } := by
  cases before <;> simp [readings_atStart]

/-- A word boundary is read only at one. -/
theorem mem_readings_atWordBoundary :
    reading ∈ atWordBoundary.readings before rest ↔
      Text.isWordBoundary before rest = true ∧ reading = { text := [] } := by
  simp [readings_atWordBoundary]

/-- Whatever is read stands at the start of the rest. -/
theorem exists_append_of_mem_readings {expression : Expression}
    (h : reading ∈ expression.readings before rest) : ∃ after, rest = reading.text ++ after := by
  induction expression generalizing before rest reading with
  | one p =>
    obtain ⟨c, after, rfl, -, rfl⟩ := mem_readings_one.1 h
    exact ⟨after, rfl⟩
  | many p =>
    obtain ⟨run, after, rfl, -, rfl⟩ := mem_readings_many.1 h
    exact ⟨after, rfl⟩
  | oneOf pieces =>
    obtain ⟨piece, -, after, rfl, rfl⟩ := mem_readings_oneOf.1 h
    exact ⟨after, rfl⟩
  | seq first second ihFirst ihSecond =>
    obtain ⟨left, hleft, right, hright, rfl⟩ := mem_readings_seq.1 h
    obtain ⟨after, rfl⟩ := ihFirst hleft
    rw [List.drop_left] at hright
    obtain ⟨after', rfl⟩ := ihSecond hright
    exact ⟨after', by simp [Reading.append]⟩
  | group number inner ih =>
    obtain ⟨found, hfound, rfl⟩ := mem_readings_group.1 h
    obtain ⟨after, hafter⟩ := ih hfound
    exact ⟨after, hafter⟩
  | atStart =>
    obtain ⟨-, rfl⟩ := mem_readings_atStart.1 h
    exact ⟨rest, rfl⟩
  | atEnd =>
    obtain ⟨rfl, rfl⟩ := mem_readings_atEnd.1 h
    exact ⟨[], rfl⟩
  | atWordBoundary =>
    obtain ⟨-, rfl⟩ := mem_readings_atWordBoundary.1 h
    exact ⟨rest, rfl⟩

/-- An expression can be read up to the end of the text. -/
def ReadsAll (expression : Expression) (before rest : Text) : Prop :=
  ∃ reading ∈ expression.readings before rest, reading.text = rest

/-- If the first expression reads something and the second all behind it, then both read all. -/
theorem ReadsAll.seq {first second : Expression} {left : Reading} {after : Text}
    (hleft : left ∈ first.readings before rest) (hrest : rest = left.text ++ after)
    (hafter : second.ReadsAll (before ++ left.text) after) :
    (first.seq second).ReadsAll before rest := by
  obtain ⟨right, hright, htext⟩ := hafter
  refine ⟨left.append right, mem_readings_seq.2 ⟨left, hleft, right, ?_, rfl⟩, ?_⟩
  · rw [hrest, List.drop_left]
    exact hright
  · rw [hrest, ← htext]
    rfl

/-- At the end nothing is left to read. -/
theorem readsAll_atEnd : atEnd.ReadsAll before [] :=
  ⟨{ text := [] }, mem_readings_atEnd.2 ⟨rfl, rfl⟩, rfl⟩

/-- Many characters of a set read a text of such characters as a whole. -/
theorem readsAll_many {p : Char → Bool} (h : ∀ c ∈ rest, p c = true) :
    (many p).ReadsAll before rest :=
  ⟨{ text := rest }, mem_readings_many.2 ⟨rest, [], (List.append_nil _).symm, h, rfl⟩, rfl⟩

/-! ## Which reading is preferred -/

/-- Reading nothing first adds nothing. -/
@[simp] theorem Reading.append_empty : Reading.append { text := [] } = id := rfl

/-- Reading a character and then a run is reading both at once. -/
@[simp] theorem Reading.append_comp (c : Char) (run : Text) :
    Reading.append { text := [c] } ∘ Reading.append { text := run } =
      Reading.append { text := c :: run } := rfl

/-- At the end many characters read nothing, so that what follows is read alone. -/
theorem readings_many_seq_nil {p : Char → Bool} {expression : Expression} :
    ((many p).seq expression).readings before [] = expression.readings before [] := by
  simp [readings_seq, readings_many, runs]

/-- Of a repetition that goes on, reading one more character is preferred to stopping. -/
theorem readings_many_seq_cons {p : Char → Bool} {expression : Expression} {c : Char}
    (hc : p c = true) :
    ((many p).seq expression).readings before (c :: rest) =
      (((many p).seq expression).readings (before ++ [c]) rest).map
          (Reading.append { text := [c] }) ++
        expression.readings before (c :: rest) := by
  simp [readings_seq, readings_many, runs, hc, List.flatMap_map, List.map_flatMap]

/-- An expression for the start of a text is only read there. -/
theorem search?_atStart_seq {expression : Expression} {text : Text} :
    (atStart.seq expression).search? text = (expression.readings [] text).head?.map ([], ·) := by
  have hlater : ∀ (rest before : Text), before ≠ [] →
      (atStart.seq expression).searchFrom? before rest = none := by
    intro rest
    induction rest with
    | nil =>
      intro before hbefore
      simp [searchFrom?, readings_seq, readings_atStart, hbefore]
    | cons c rest ih =>
      intro before hbefore
      simp [searchFrom?, readings_seq, readings_atStart, hbefore, ih]
  cases text with
  | nil => simp [search?, searchFrom?, readings_seq, readings_atStart]
  | cons c rest =>
    have hnone := hlater rest [c] (List.cons_ne_nil _ _)
    cases hhead : (expression.readings [] (c :: rest)).head? with
    | none => simp_all [search?, searchFrom?, readings_seq, readings_atStart]
    | some reading => simp_all [search?, searchFrom?, readings_seq, readings_atStart]

end Expression

end FluentAssist
