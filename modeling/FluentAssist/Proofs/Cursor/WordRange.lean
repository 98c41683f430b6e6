import FluentAssist.Proofs.Cursor.OpenCalls
import FluentAssist.Proofs.Cursor.Tokens

/-!
# The range of the word

The word of a context is looked up among the tokens of the cursor's line. Its range touches the
cursor and covers one of three things: a run of token characters that neither neighbour continues,
which is then the word, an empty pair of quotation marks, or nothing; with the last two the word is
empty. A token character right before the cursor belongs to a run, and the cursor touches no token
that ends before this run, so there the word is never empty.

No token contains a parenthesis. The range ends at or after the cursor, hence it starts after the
parenthesis of the call that is open there.
-/

set_option autoImplicit false

namespace FluentAssist.Cursor

open Text (bytes floorOffset lineBounds splitAtOffset)

/-! ## What the range covers -/

/-- A token is a run of token characters or an empty pair of quotation marks. -/
theorem text_of_mem_tokens {start : Nat} {line : Text} {token : Token}
    (h : token ∈ tokens start line) :
    (token.text ≠ [] ∧ ∀ c ∈ token.text, isTokenChar c = true) ∨
      token.text = ['"', '"'] ∨ token.text = ['\'', '\''] := by
  fun_induction tokens start line with
  | case1 => cases h
  | case2 start c rest hc run ih =>
    rcases List.mem_cons.1 h with rfl | hlater
    · exact Or.inl ⟨List.cons_ne_nil _ _, (cons_eq_run_append hc rest).2⟩
    · exact ih hlater
  | case3 start c rest hc hquotes ih =>
    rcases List.mem_cons.1 h with rfl | hlater
    · right
      cases rest with
      | nil => cases hquotes
      | cons d rest =>
        simp only [startsEmptyQuotes, Bool.and_eq_true, Bool.or_eq_true, beq_iff_eq] at hquotes
        obtain ⟨-, rfl | rfl⟩ := hquotes
        · exact Or.inl rfl
        · exact Or.inr rfl
    · exact ih hlater
  | case4 start c rest hc hquotes ih => exact ih h

/-- Only an empty pair of quotation marks is a token with an empty word. -/
theorem text_of_word_eq_nil {start : Nat} {line : Text} {token : Token}
    (h : token ∈ tokens start line) (hword : token.word = []) :
    token.text = ['"', '"'] ∨ token.text = ['\'', '\''] := by
  rcases text_of_mem_tokens h with ⟨hne, hchars⟩ | hquotes
  · obtain ⟨c, rest, htext⟩ := List.exists_cons_of_ne_nil hne
    have hc : isTokenChar c = true := hchars c (by simp [htext])
    have hrun : startsEmptyQuotes token.text = false := by
      rw [htext]
      exact (startsEmptyQuotes_eq_false (c := c) hc).1
    rw [Token.word, hrun] at hword
    exact absurd hword hne
  · exact hquotes

/-- What the range of a word covers on its line: the word, if that is a run, and for an empty word
an empty pair of quotation marks or nothing. -/
theorem wordAt_cases {line : Text} {column : Nat} (hcolumn : Text.IsBoundary line column) :
    ∃ before covered after, line = before ++ (covered ++ after) ∧
      (wordAt line column).2 = ⟨bytes before, bytes before + bytes covered⟩ ∧
      (IsRun before covered after ∧ (wordAt line column).1 = covered ∨
        (wordAt line column).1 = [] ∧
          (covered = [] ∨ covered = ['"', '"'] ∨ covered = ['\'', '\''])) := by
  by_cases hword : (wordAt line column).1 = []
  · unfold wordAt at hword ⊢
    split at hword
    · next token htouching =>
      have hmem := List.mem_of_find?_eq_some htouching
      obtain ⟨before, after, hline, hstart⟩ := exists_append_of_mem_tokens hmem
      rw [Nat.zero_add] at hstart
      refine ⟨before, token.text, after, hline, ?_, Or.inr ⟨hword, Or.inr ?_⟩⟩
      · rw [Token.stop, hstart]
      · exact text_of_word_eq_nil hmem hword
    · obtain ⟨before, after, hline, rfl⟩ := hcolumn
      exact ⟨before, [], after, hline.symm, rfl, Or.inr ⟨rfl, Or.inl rfl⟩⟩
  · obtain ⟨before, after, hline, hspan, hrun⟩ := exists_isRun_of_wordAt hword
    exact ⟨before, _, after, hline, hspan, Or.inl ⟨hrun, rfl⟩⟩

/-- A token character right before the column belongs to the word. -/
theorem wordAt_ne_nil {head tail : Text} {c : Char} (hlast : head.getLast? = some c)
    (hc : isTokenChar c = true) : (wordAt (head ++ tail) (bytes head)).1 ≠ [] := by
  obtain ⟨front, hhead, htyped, hstops⟩ :=
    Text.exists_append_afterLast (fun d => !isTokenChar d) head
  generalize Text.afterLast (fun d => !isTokenChar d) head = typed at hhead htyped
  have hfront : ∀ d ∈ front.getLast?, isTokenChar d = false := by
    rcases hstops with rfl | ⟨init, d, rfl, hd⟩
    · simp
    · simpa using hd
  have hne : typed ≠ [] := by
    rintro rfl
    rw [List.append_nil] at hhead
    have hno := hfront c (hhead ▸ hlast)
    rw [hc] at hno
    cases hno
  -- The run goes on after the column as far as there are token characters.
  have hrun : IsRun front (typed ++ tail.takeWhile isTokenChar) (tail.dropWhile isTokenChar) := by
    refine ⟨by simp [hne], ?_, hfront, dropWhile_stops tail⟩
    intro d hd
    rcases List.mem_append.1 hd with hd | hd
    · simpa using htyped d hd
    · exact List.mem_takeWhile_imp hd
  have hline : head ++ tail =
      front ++ ((typed ++ tail.takeWhile isTokenChar) ++ tail.dropWhile isTokenChar) := by
    rw [List.append_assoc typed, List.takeWhile_append_dropWhile, ← List.append_assoc, ← hhead]
  have hcolumn : bytes head = bytes front + bytes typed := by rw [hhead, Text.bytes_append]
  have hpos := Text.bytes_pos hne
  rw [hline, wordAt_of_isRun hrun (by omega) (by rw [Text.bytes_append]; omega)]
  exact hrun.ne_nil

/-! ## The call -/

variable {text : Text} {offset lookback : Nat} {context : Context} {method : BuilderMethod}

/-- The window is the text from its start to the cursor. -/
theorem eq_textFrom_of_window {start : Nat} {found : Text}
    (h : window text (floorOffset text offset) lookback = .ok (start, found)) :
    found = textFrom text offset start := by
  unfold window at h
  dsimp only at h
  split at h
  · rw [Except.ok.injEq, Prod.mk.injEq] at h
    rw [← h.2, ← h.1, textFrom]
  · cases h

/-- A context with a method starts with a call that is open at the cursor. -/
theorem isOpenCall_of_classify (h : classify text offset lookback = .ok (some context))
    (hmethod : context.method = some method) :
    context.matched = textFrom text offset context.matchStart ∧
      IsOpenCall method context.matched := by
  obtain ⟨start, found, recognised, hwindow, hrecognised, rfl⟩ := exists_window_of_classify h
  have hfound : textFrom text offset start = found := (eq_textFrom_of_window hwindow).symm
  rcases lastOpenCall?_cases found with ⟨hnone, -⟩ | ⟨call, hcall, hlast⟩
  · rw [recognise?, hnone] at hrecognised
    obtain ⟨icon, -, rfl⟩ := Option.map_eq_some_iff.1 hrecognised
    cases hmethod
  · rw [recognise?, hcall] at hrecognised
    cases hrecognised
    cases hmethod
    refine ⟨?_, hlast.isOpen⟩
    obtain ⟨front, hplace, hstart⟩ := hlast.place
    have hne : found ≠ [] := by
      rw [hplace]
      exact List.append_ne_nil_of_right_ne_nil _ hlast.isOpen.ne_nil
    obtain ⟨before, hbefore, hbytes⟩ := (textFrom_eq_iff hne).1 hfound
    have hwhole : (splitAtOffset text offset).1 = (before ++ front) ++ call.matched := by
      rw [hbefore, hplace, List.append_assoc]
    have hplaced : bytes (before ++ front) = start + call.start := by
      rw [Text.bytes_append, hbytes, hstart]
    exact ((textFrom_eq_iff hlast.isOpen.ne_nil).2 ⟨_, hwhole, hplaced⟩).symm

/-- A call is what stands before its parenthesis, the parenthesis and the arguments. -/
theorem Opens.exists_opener {arguments : Text} (h : Opens method arguments text) :
    ∃ opener, text = opener ++ '(' :: arguments := by
  obtain ⟨gap, gap', -, -, rfl⟩ := h
  exact ⟨'.' :: (gap ++ (method.name.toList ++ gap')), by simp⟩

/-- A range without a parenthesis that ends at or after the cursor starts after the parenthesis of
the call that is open there. -/
theorem exists_opener_lt_start {span : Span} {covered : Text}
    (h : classify text offset lookback = .ok (some context))
    (hmethod : context.method = some method) (hholds : span.Holds text covered)
    (hcovered : '(' ∉ covered) (hstop : floorOffset text offset ≤ span.stop) :
    ∃ opener arguments, Opens method arguments context.matched ∧
      context.matched = opener ++ '(' :: arguments ∧
      context.matchStart + bytes opener < span.start := by
  obtain ⟨hmatched, arguments, hopens, -⟩ := isOpenCall_of_classify h hmethod
  obtain ⟨opener, hopener⟩ := hopens.exists_opener
  obtain ⟨front, hfront, hstart⟩ := (textFrom_eq_iff hopens.ne_nil).1 hmatched.symm
  refine ⟨opener, arguments, hopens, hopener, ?_⟩
  have htext : text =
      (front ++ opener) ++ '(' :: (arguments ++ (splitAtOffset text offset).2) := by
    nth_rewrite 1 [← Text.splitAtOffset_append text offset]
    rw [hfront, hopener]
    simp
  have hcursor : floorOffset text offset = bytes front + bytes context.matched := by
    rw [floorOffset, hfront, Text.bytes_append]
  have hparenthesis := Char.utf8Size_pos '('
  have hbehind : bytes (front ++ opener) < span.stop := by
    rw [hopener, Text.bytes_append, Text.bytes_cons] at hcursor
    rw [Text.bytes_append]
    omega
  have hlt := hholds.lt_start_of_not_mem htext hcovered hbehind
  rwa [Text.bytes_append, hstart] at hlt

/-- **The word is exact and maximal.** The range of the word stands on the cursor's line, on
character boundaries and around the cursor. Either it covers the word, which is a run of token
characters that neither neighbour on the line continues; or the word is empty, and the range is the
empty one at the cursor or covers an empty pair of quotation marks. The first holds whenever a token
character stands right before the cursor on its line. In a call, the range starts after the opening
parenthesis. -/
theorem word_exact_and_maximal (text : Text) (offset lookback : Nat) (context : Context)
    (hclassify : classify text offset lookback = .ok (some context)) :
    ∃ before covered after,
      (lineBounds text offset).slice text = before ++ (covered ++ after) ∧
      context.wordSpan = ⟨(lineBounds text offset).start + bytes before,
        (lineBounds text offset).start + bytes before + bytes covered⟩ ∧
      context.wordSpan.slice text = covered ∧
      Text.IsBoundary text context.wordSpan.start ∧ Text.IsBoundary text context.wordSpan.stop ∧
      context.wordSpan.stop ≤ (lineBounds text offset).stop ∧
      context.wordSpan.start ≤ floorOffset text offset ∧
      floorOffset text offset ≤ context.wordSpan.stop ∧
      (IsRun before covered after ∧ context.word = covered ∨
        context.word = [] ∧
          (context.wordSpan = Span.empty (floorOffset text offset) ∨
            covered = ['"', '"'] ∨ covered = ['\'', '\''])) ∧
      (∀ c, (Span.slice ⟨(lineBounds text offset).start, floorOffset text offset⟩ text).getLast? =
          some c → isTokenChar c = true → IsRun before covered after ∧ context.word = covered) ∧
      (∀ method, context.method = some method →
        context.matched = textFrom text offset context.matchStart ∧
        ∃ opener arguments, Opens method arguments context.matched ∧
          context.matched = opener ++ '(' :: arguments ∧
          context.matchStart + bytes opener < context.wordSpan.start) := by
  obtain ⟨front, head, tail, back, hparts⟩ := Text.exists_lineParts text offset
  obtain ⟨hword, hspan⟩ := word_of_classify hparts hclassify
  have hcolumn : Text.IsBoundary (head ++ tail) (bytes head) := ⟨head, tail, rfl, rfl⟩
  obtain ⟨before, covered, after, hline, hplace, hcases⟩ := wordAt_cases hcolumn
  rw [← hword] at hcases
  rw [hplace] at hspan
  have honLine : context.wordSpan.HoldsOnLine text offset covered := by
    refine ⟨_, ?_, by rw [hspan, hparts.lineBounds_eq]⟩
    rw [hparts.holds.slice_eq]
    exact ⟨before, after, hline, rfl⟩
  have haround := classify_around hclassify
  have hcontains : context.wordSpan.Contains (floorOffset text offset) :=
    haround.offset_eq ▸ haround.word_contains
  have hfirst : context.word ≠ [] → IsRun before covered after ∧ context.word = covered :=
    fun hne => hcases.resolve_right fun hempty => hne hempty.1
  refine ⟨before, covered, after, ?_, ?_, honLine.holds.slice_eq, honLine.holds.isBoundary_start,
    honLine.holds.isBoundary_stop, honLine.stop_le_line_stop, hcontains.1, hcontains.2, ?_, ?_, ?_⟩
  · rw [hparts.holds.slice_eq, hline]
  · rw [hspan, hparts.lineBounds_eq]
    simp only [Span.shift, Span.mk.injEq]
    omega
  · rcases hcases with hrun | ⟨hempty, rfl | hquotes⟩
    · exact Or.inl hrun
    · exact Or.inr ⟨hempty, Or.inl (hcontains.eq_empty honLine.holds)⟩
    · exact Or.inr ⟨hempty, Or.inr hquotes⟩
  · intro c hlast hc
    rw [hparts.head_holds.slice_eq] at hlast
    apply hfirst
    rw [hword]
    exact wordAt_ne_nil hlast hc
  · intro method hmethod
    have hcovered : '(' ∉ covered := by
      rcases hcases with ⟨hrun, -⟩ | ⟨-, rfl | rfl | rfl⟩
      · exact fun hmem => (ne_parenthesis_of_isTokenChar (hrun.chars _ hmem)).1 rfl
      · simp
      · simp
      · simp
    exact ⟨(isOpenCall_of_classify hclassify hmethod).1,
      exists_opener_lt_start hclassify hmethod honLine.holds hcovered hcontains.2⟩

/-- A key and a value that are typed on the line after the call. -/
def keyTyped : Text := "b.on(\n 'x=é y')".toList

/-- The context of the cursor at 10, between the key and the value. -/
def keyContext : Context where
  offset := 10
  kind := .events
  method := some .on
  matched := ".on(\n 'x=".toList
  matchStart := 1
  word := "x=é".toList
  wordSpan := ⟨8, 12⟩
  surround := some "x=é y".toList
  surroundSpan := some ⟨8, 14⟩

/-- The character before the cursor is a token character, and the whole token is the word, also what
stands after the cursor; the parenthesis is on the line before. -/
theorem word_exact_and_maximal_key :
    classify keyTyped 10 defaultLookback = .ok (some keyContext) ∧
    (Span.slice ⟨(lineBounds keyTyped 10).start, floorOffset keyTyped 10⟩ keyTyped).getLast? =
      some '=' ∧
    (∃ before after, (lineBounds keyTyped 10).slice keyTyped = before ++ ("x=é".toList ++ after) ∧
      IsRun before "x=é".toList after) ∧
    ∃ opener arguments, Opens .on arguments ".on(\n 'x=".toList ∧
      ".on(\n 'x=".toList = opener ++ '(' :: arguments ∧ 1 + bytes opener < 8 := by
  have hclassify : classify keyTyped 10 defaultLookback = .ok (some keyContext) := by
    rw [classify_eq (by decide)]
    exact congrArg Except.ok (by decide +kernel)
  have hlast : (Span.slice ⟨(lineBounds keyTyped 10).start, floorOffset keyTyped 10⟩
      keyTyped).getLast? = some '=' := by decide
  obtain ⟨before, covered, after, hline, -, -, -, -, -, -, -, -, hfirst, hcall⟩ :=
    word_exact_and_maximal keyTyped 10 defaultLookback keyContext hclassify
  obtain ⟨hrun, rfl⟩ := hfirst '=' hlast (by decide)
  exact ⟨hclassify, hlast, ⟨before, after, hline, hrun⟩, (hcall .on rfl).2⟩

end FluentAssist.Cursor
