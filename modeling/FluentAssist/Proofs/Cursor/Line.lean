import FluentAssist.Proofs.Cursor.Literals
import FluentAssist.Proofs.Text.Search

/-!
# What a cursor reads from its line

The word at a cursor, the string literal around it and the partial name before it are found by scans
of its line that count bytes as they go. Every range that a scan reports holds, on that line, the
text reported with it.
-/

set_option autoImplicit false

namespace FluentAssist.Cursor

open Text (bytes floorOffset lineBounds splitAtOffset)

/-! ## Words -/

/-- A pair of quotation marks begins with one byte, and the other mark follows. -/
theorem startsEmptyQuotes_cons {c : Char} {rest : Text} (h : startsEmptyQuotes (c :: rest) = true) :
    rest = c :: rest.drop 1 ∧ c.utf8Size = 1 := by
  cases rest with
  | nil => cases h
  | cons d rest =>
    simp only [startsEmptyQuotes, Bool.and_eq_true, Bool.or_eq_true, beq_iff_eq] at h
    obtain ⟨rfl, rfl | rfl⟩ := h
    · exact ⟨rfl, rfl⟩
    · exact ⟨rfl, rfl⟩

/-- A token stands in the line where it says. -/
theorem exists_append_of_mem_tokens {start : Nat} {line : Text} {token : Token}
    (h : token ∈ tokens start line) :
    ∃ before after, line = before ++ (token.text ++ after) ∧
      token.start = start + bytes before := by
  fun_induction tokens start line with
  | case1 => cases h
  | case2 start c rest hc run ih =>
    have hline : c :: rest = run ++ rest.dropWhile isTokenChar := by
      simp only [run, List.cons_append, List.takeWhile_append_dropWhile]
    rcases List.mem_cons.1 h with rfl | hlater
    · exact ⟨[], _, hline, rfl⟩
    · obtain ⟨before, after, hrest, hstart⟩ := ih hlater
      refine ⟨run ++ before, after, ?_, ?_⟩
      · rw [hline, hrest, List.append_assoc]
      · rw [hstart, Text.bytes_append, Nat.add_assoc]
  | case3 start c rest hc hquotes ih =>
    obtain ⟨hpair, hsize⟩ := startsEmptyQuotes_cons hquotes
    rcases List.mem_cons.1 h with rfl | hlater
    · refine ⟨[], rest.drop 1, ?_, rfl⟩
      rw [hpair]
      rfl
    · obtain ⟨before, after, hrest, hstart⟩ := ih hlater
      refine ⟨c :: c :: before, after, ?_, ?_⟩
      · rw [hpair, hrest]
        rfl
      · simp only [hstart, Text.bytes_cons, hsize]
        omega
  | case4 start c rest hc hquotes ih =>
    obtain ⟨before, after, rfl, hstart⟩ := ih h
    refine ⟨c :: before, after, rfl, ?_⟩
    rw [hstart, Text.bytes_cons, Nat.add_assoc]

/-- The part of the line that goes with a word holds it. Only an empty word goes with more. -/
theorem wordAt_holds {line : Text} {column : Nat} (h : (wordAt line column).1 ≠ []) :
    (wordAt line column).2.Holds line (wordAt line column).1 := by
  unfold wordAt at h ⊢
  split at h
  · next token htouching =>
    obtain ⟨before, after, hline, hstart⟩ :=
      exists_append_of_mem_tokens (List.mem_of_find?_eq_some htouching)
    have hword : token.word = token.text := by
      unfold Token.word at h ⊢
      split at h
      · exact absurd rfl h
      · next hquotes => exact if_neg hquotes
    refine ⟨before, after, ?_, ?_⟩
    · rw [hword]
      exact hline
    · rw [hword, Token.stop, hstart, Nat.zero_add]
  · exact absurd rfl h

/-- The word at a column stands around it. -/
theorem wordAt_contains (line : Text) (column : Nat) :
    (wordAt line column).2.Contains column := by
  unfold wordAt
  split
  · next token htouching =>
    have hfound := List.find?_some htouching
    simp only [Bool.and_eq_true, decide_eq_true_eq] at hfound
    exact hfound
  · exact ⟨Nat.le_refl column, Nat.le_refl column⟩

/-! ## Literals -/

/-- The literal around a column stands on the line, in its range. -/
theorem literalAt?_holds {line : Text} {column : Nat} {span : Span}
    (h : literalAt? line column = some span) : ∃ literal, span.Holds line literal := by
  obtain ⟨⟨before, quote, contents, after, hline, -, hquote, -, hspan⟩, -⟩ :=
    literalAt?_eq_some_iff.1 h
  refine ⟨contents, before ++ [quote], quote :: after, by simp [hline], ?_⟩
  simp only [hspan, Text.bytes_append, Text.bytes_cons, Text.bytes_nil, utf8Size_of_isQuote hquote]

/-! ## Contexts -/

/-- The word of a context and the literal around its cursor stand on the cursor's line, in their
ranges. -/
structure Placed (text : Text) (offset : Nat) (context : Context) : Prop where
  word_holds : context.word ≠ [] → context.wordSpan.HoldsOnLine text offset context.word
  surround_holds : ∀ literal span, context.surround = some literal →
    context.surroundSpan = some span → span.HoldsOnLine text offset literal

/-- The context of a match has its word and its literal on the cursor's line. -/
theorem contextAt_placed (text : Text) (offset start : Nat)
    (found : ContextKind × Option BuilderMethod × Nat × Text) :
    Placed text offset (contextAt text (floorOffset text offset) start found) := by
  obtain ⟨kind, method, matchOffset, matched⟩ := found
  simp only [contextAt, surroundAt?, Text.lineBounds_floorOffset]
  refine ⟨fun hword => ⟨_, wordAt_holds hword, rfl⟩, ?_⟩
  intro literal span hliteral hspan
  dsimp only at hliteral hspan
  rw [hspan, Option.map_some, Option.some.injEq] at hliteral
  obtain ⟨inner, hinner, rfl⟩ := Option.map_eq_some_iff.1 hspan
  obtain ⟨part, hpart⟩ := literalAt?_holds hinner
  have honLine : (inner.shift (lineBounds text offset).start).HoldsOnLine text offset part :=
    ⟨inner, hpart, rfl⟩
  rw [← hliteral, honLine.holds.slice_eq]
  exact honLine

/-- A context is what the window shows, read at the boundary at or before the offset. -/
theorem exists_window_of_classify {text : Text} {offset lookback : Nat} {context : Context}
    (h : classify text offset lookback = .ok (some context)) :
    ∃ start found recognised,
      window text (floorOffset text offset) lookback = .ok (start, found) ∧
      recognise? found = some recognised ∧
      context = contextAt text (floorOffset text offset) start recognised := by
  simp only [classify] at h
  cases hwindow : window text (floorOffset text offset) lookback with
  | error fault =>
    rw [hwindow] at h
    cases h
  | ok found =>
    rw [hwindow] at h
    obtain ⟨recognised, hfound, hcontext⟩ := Option.map_eq_some_iff.1 (Except.ok.inj h)
    exact ⟨found.1, found.2, recognised, rfl, hfound, hcontext.symm⟩

/-- Every context is that of a match in the window. -/
theorem exists_contextAt_of_classify {text : Text} {offset lookback : Nat} {context : Context}
    (h : classify text offset lookback = .ok (some context)) :
    ∃ start found, context = contextAt text (floorOffset text offset) start found := by
  obtain ⟨start, -, recognised, -, -, hcontext⟩ := exists_window_of_classify h
  exact ⟨start, recognised, hcontext⟩

/-- Every context has its word and its literal on the cursor's line. -/
theorem classify_placed {text : Text} {offset lookback : Nat} {context : Context}
    (h : classify text offset lookback = .ok (some context)) : Placed text offset context := by
  obtain ⟨start, found, rfl⟩ := exists_contextAt_of_classify h
  exact contextAt_placed text offset start found

/-- The word of a context is read from its line. -/
theorem word_of_classify {text front head tail back : Text} {offset lookback : Nat}
    {context : Context} (hparts : Text.LineParts text offset front head tail back)
    (h : classify text offset lookback = .ok (some context)) :
    context.word = (wordAt (head ++ tail) (bytes head)).1 ∧
      context.wordSpan = (wordAt (head ++ tail) (bytes head)).2.shift (bytes front) := by
  obtain ⟨start, ⟨kind, found, matchOffset, matched⟩, rfl⟩ := exists_contextAt_of_classify h
  have hcolumn : floorOffset text offset - (lineBounds text offset).start = bytes head := by
    rw [hparts.floorOffset_eq, hparts.lineBounds_eq]
    exact Nat.add_sub_cancel_left ..
  simp only [contextAt, Text.lineBounds_floorOffset, hparts.holds.slice_eq, hcolumn, true_and]
  rw [hparts.lineBounds_eq]

/-- The cursor of a context is at a boundary, and stands in the range of the word and in that of
the literal. -/
structure Around (text : Text) (offset : Nat) (context : Context) : Prop where
  offset_eq : context.offset = floorOffset text offset
  word_contains : context.wordSpan.Contains context.offset
  surround_contains : ∀ span, context.surroundSpan = some span → span.Contains context.offset

/-- The context of a match has its cursor in the ranges of its word and its literal. -/
theorem contextAt_around (text : Text) (offset start : Nat)
    (found : ContextKind × Option BuilderMethod × Nat × Text) :
    Around text offset (contextAt text (floorOffset text offset) start found) := by
  obtain ⟨front, head, tail, back, hparts⟩ := Text.exists_lineParts text offset
  have hcursor : floorOffset text offset - (lineBounds text offset).start +
      (lineBounds text offset).start = floorOffset text offset := by
    rw [hparts.lineBounds_eq, hparts.floorOffset_eq]
    exact Nat.sub_add_cancel (Nat.le_add_right _ _)
  obtain ⟨kind, method, matchOffset, matched⟩ := found
  simp only [contextAt, surroundAt?, Text.lineBounds_floorOffset]
  refine ⟨rfl, ?_, ?_⟩
  · have hword := (wordAt_contains ((lineBounds text offset).slice text)
      (floorOffset text offset - (lineBounds text offset).start)).shift
      (lineBounds text offset).start
    rwa [hcursor] at hword
  · intro span hspan
    obtain ⟨inner, hinner, rfl⟩ := Option.map_eq_some_iff.1 hspan
    have hliteral := (literalFrom?_contains hinner).shift (lineBounds text offset).start
    rwa [hcursor] at hliteral

/-- Every context has its cursor in the ranges of its word and its literal. -/
theorem classify_around {text : Text} {offset lookback : Nat} {context : Context}
    (h : classify text offset lookback = .ok (some context)) : Around text offset context := by
  obtain ⟨start, found, rfl⟩ := exists_contextAt_of_classify h
  exact contextAt_around text offset start found

/-! ## Names of element functions -/

/-- The name of an element function is what follows the two letters and the dot. -/
theorem eq_cons_of_uiNameAt? {previous : Option Char} {text name : Text}
    (h : uiNameAt? previous text = some name) : text = ['u', 'i', '.'] ++ name := by
  unfold uiNameAt? at h
  split at h
  · split at h
    · next name' _ =>
      split at h
      · cases h
        rfl
      · cases h
    · cases h
  · cases h

/-- A partial name stands right before the cursor, on its line. -/
theorem uiFunction?_holds {text : Text} {offset : Nat} {context : UiContext}
    (h : uiFunction? text offset = some context) :
    context.wordSpan.HoldsOnLine text offset context.word := by
  obtain ⟨front, head, tail, back, hparts⟩ := Text.exists_lineParts text offset
  unfold uiFunction? at h
  simp only [Text.lineBounds_floorOffset, hparts.head_holds.slice_eq] at h
  obtain ⟨⟨place, name⟩, hfound, rfl⟩ := Option.map_eq_some_iff.1 h
  obtain ⟨before, rest, rfl, -, hname⟩ := Text.exists_append_of_findPlace? hfound
  obtain rfl := eq_cons_of_uiNameAt? hname
  refine ⟨⟨bytes (before ++ ['u', 'i', '.']), bytes (before ++ ['u', 'i', '.']) + bytes name⟩,
    ⟨before ++ ['u', 'i', '.'], tail, ?_, rfl⟩, ?_⟩
  · rw [hparts.holds.slice_eq]
    simp
  · have hcursor := hparts.floorOffset_eq
    simp only [Text.bytes_append] at hcursor
    simp only [Span.shift, hparts.lineBounds_eq, Text.bytes_append, Span.mk.injEq]
    omega

end FluentAssist.Cursor
