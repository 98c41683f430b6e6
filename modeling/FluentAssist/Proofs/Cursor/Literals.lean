import FluentAssist.Cursor.Context
import FluentAssist.Proofs.Text.Lines

/-!
# The literals of a line

A line is cut into string literals and what stands between them. Outside a literal either quotation
mark opens one. Inside, a backslash goes with the character after it, and the quotation mark that
opened the literal closes it. `IsContents` and `IsClosed` are this grammar, and `IsLiteral` says
which ranges of a line hold the contents of a literal that is opened and closed on it.

The scan for the literal around a column stops as soon as it can. `literalAt?_eq_some_iff` compares
it with the grammar, in both directions:

* what the scan has read is always closed, up to the literal in which it stands (`Reached`), so what
  it reports is a literal;
* it reads past everything that is closed before the column, and past the contents of a literal, so
  it reports each literal that contains the column.

`surround_eq_literal` moves this to the document.
-/

set_option autoImplicit false

namespace FluentAssist.Cursor

open Text (bytes floorOffset lineBounds)

/-! ## The grammar -/

/-- What can stand in a literal: a backslash with the character after it, and every other character
but the quotation mark. -/
inductive IsContents (quote : Char) : Text → Prop
  | nil : IsContents quote []
  | plain {c : Char} {rest : Text} : c ≠ '\\' → c ≠ quote → IsContents quote rest →
      IsContents quote (c :: rest)
  | escaped {c : Char} {rest : Text} : IsContents quote rest → IsContents quote ('\\' :: c :: rest)

/-- A text that closes every literal which it opens. -/
inductive IsClosed : Text → Prop
  | nil : IsClosed []
  | plain {c : Char} {rest : Text} : isQuote c = false → IsClosed rest → IsClosed (c :: rest)
  | literal {quote : Char} {contents rest : Text} : isQuote quote = true →
      IsContents quote contents → IsClosed rest →
      IsClosed (quote :: (contents ++ quote :: rest))

/-- A range of a line that is the contents of a literal of the line. -/
def IsLiteral (line : Text) (span : Span) : Prop :=
  ∃ before quote contents after, line = before ++ quote :: (contents ++ quote :: after) ∧
    IsClosed before ∧ isQuote quote = true ∧ IsContents quote contents ∧
    span = ⟨bytes before + 1, bytes before + 1 + bytes contents⟩

variable {quote : Char} {before contents rest : Text}

/-- Quotation marks take one byte. -/
theorem utf8Size_of_isQuote {c : Char} (h : isQuote c = true) : c.utf8Size = 1 := by
  simp only [isQuote, Bool.or_eq_true, beq_iff_eq] at h
  obtain rfl | rfl := h
  · rfl
  · rfl

/-- Contents of a literal may go on with more contents. -/
theorem IsContents.append {more : Text} (h : IsContents quote contents)
    (hmore : IsContents quote more) : IsContents quote (contents ++ more) := by
  induction h with
  | nil => exact hmore
  | plain hbackslash hquote _ ih => exact .plain hbackslash hquote ih
  | escaped _ ih => exact .escaped ih

/-- Two texts whose literals are closed make one. -/
theorem IsClosed.append {more : Text} (h : IsClosed before) (hmore : IsClosed more) :
    IsClosed (before ++ more) := by
  induction h with
  | nil => exact hmore
  | plain hc _ ih => exact .plain hc ih
  | literal hquote hcontents _ ih =>
    rw [List.cons_append, List.append_assoc, List.cons_append]
    exact .literal hquote hcontents ih

/-! ## What the scan reports is a literal -/

/-- Where the scan stands after it has read `done`: outside all literals, or in one that opens after
a closed part of the line. -/
def LiteralScan.Reached (done : Text) : LiteralScan → Prop
  | .outside => IsClosed done
  | .inside quote start => ∃ before contents, done = before ++ quote :: contents ∧
      IsClosed before ∧ isQuote quote = true ∧ IsContents quote contents ∧ start = bytes before + 1
  | .escaped quote start => ∃ before contents, done = before ++ quote :: (contents ++ ['\\']) ∧
      IsClosed before ∧ isQuote quote = true ∧ IsContents quote contents ∧ start = bytes before + 1

namespace LiteralScan.Reached

variable {done : Text} {start : Nat} {c : Char}

/-- A quotation mark outside of literals opens one. -/
theorem opened (h : Reached done .outside) (hc : isQuote c = true) :
    Reached (done ++ [c]) (.inside c (bytes done + 1)) :=
  ⟨done, [], rfl, h, hc, .nil, rfl⟩

/-- Any other character outside of literals is passed over. -/
theorem passed (h : Reached done .outside) (hc : isQuote c = false) :
    Reached (done ++ [c]) .outside :=
  IsClosed.append h (.plain hc .nil)

/-- A backslash in a literal escapes what follows. -/
theorem escapes (h : Reached done (.inside quote start)) :
    Reached (done ++ ['\\']) (.escaped quote start) := by
  obtain ⟨before, contents, rfl, hrest⟩ := h
  exact ⟨before, contents, by simp, hrest⟩

/-- An escaped character belongs to the literal, whatever it is. -/
theorem resumed (h : Reached done (.escaped quote start)) :
    Reached (done ++ [c]) (.inside quote start) := by
  obtain ⟨before, contents, rfl, hbefore, hquote, hcontents, hstart⟩ := h
  exact ⟨before, contents ++ ['\\', c], by simp, hbefore, hquote,
    hcontents.append (.escaped .nil), hstart⟩

/-- A character that is neither a backslash nor the quotation mark belongs to the literal. -/
theorem continued (h : Reached done (.inside quote start)) (hbackslash : c ≠ '\\')
    (hc : c ≠ quote) : Reached (done ++ [c]) (.inside quote start) := by
  obtain ⟨before, contents, rfl, hbefore, hquote, hcontents, hstart⟩ := h
  exact ⟨before, contents ++ [c], by simp, hbefore, hquote,
    hcontents.append (.plain hbackslash hc .nil), hstart⟩

/-- The quotation mark that opened a literal closes it. -/
theorem closed (h : Reached done (.inside quote start)) : Reached (done ++ [quote]) .outside := by
  obtain ⟨before, contents, rfl, hbefore, hquote, hcontents, -⟩ := h
  have hclosed : IsClosed (before ++ quote :: (contents ++ quote :: [])) :=
    hbefore.append (.literal hquote hcontents .nil)
  simpa [Reached] using hclosed

/-- A quotation mark that closes a literal ends its contents. -/
theorem isLiteral (h : Reached done (.inside quote start)) (after : Text) :
    IsLiteral (done ++ quote :: after) ⟨start, bytes done⟩ := by
  obtain ⟨before, contents, rfl, hbefore, hquote, hcontents, rfl⟩ := h
  refine ⟨before, quote, contents, after, by simp, hbefore, hquote, hcontents, ?_⟩
  rw [Text.bytes_append, Text.bytes_cons, utf8Size_of_isQuote hquote, Nat.add_assoc]

end LiteralScan.Reached

/-- Where the scan stands right, the literal that it reports is one. -/
theorem isLiteral_of_literalFrom? {column : Nat} {scan : LiteralScan} {done : Text} {span : Span}
    (hscan : scan.Reached done) (h : literalFrom? column scan (bytes done) rest = some span) :
    IsLiteral (done ++ rest) span := by
  induction rest generalizing scan done with
  | nil => simp [literalFrom?] at h
  | cons c rest ih =>
    -- Every branch but the closing quotation mark reads `c` and goes on.
    have hnext : ∀ scan' : LiteralScan, scan'.Reached (done ++ [c]) →
        literalFrom? column scan' (bytes done + c.utf8Size) rest = some span →
        IsLiteral (done ++ c :: rest) span := by
      intro scan' hscan' hlater
      have hbytes : bytes (done ++ [c]) = bytes done + c.utf8Size := by simp
      rw [← hbytes] at hlater
      simpa using ih hscan' hlater
    cases scan with
    | outside =>
      rw [literalFrom?] at h
      split at h
      · next hquote =>
        split at h
        · cases h
        · exact hnext _ (hscan.opened hquote) h
      · next hquote => exact hnext _ (hscan.passed (by simpa using hquote)) h
    | escaped quote start =>
      rw [literalFrom?] at h
      exact hnext _ hscan.resumed h
    | inside quote start =>
      rw [literalFrom?] at h
      split at h
      · next hbackslash =>
        subst hbackslash
        exact hnext _ hscan.escapes h
      · next hbackslash =>
        split at h
        · next hquote =>
          subst hquote
          split at h
          · cases h
            exact hscan.isLiteral rest
          · exact hnext _ hscan.closed h
        · next hquote => exact hnext _ (hscan.continued hbackslash hquote) h

/-- The scan reports a literal only if the column is in it. -/
theorem literalFrom?_contains {column offset : Nat} {scan : LiteralScan} {rest : Text}
    {span : Span} (h : literalFrom? column scan offset rest = some span) :
    span.Contains column := by
  fun_induction literalFrom? column scan offset rest with
  | case1 => cases h
  | case2 => cases h
  | case3 _ _ _ _ _ ih => exact ih h
  | case4 _ _ _ _ ih => exact ih h
  | case5 _ _ _ _ _ ih => exact ih h
  | case6 _ _ _ _ ih => exact ih h
  | case7 _ _ _ _ _ hcolumn =>
    cases h
    exact hcolumn
  | case8 _ _ _ _ _ _ ih => exact ih h
  | case9 _ _ _ _ _ _ _ ih => exact ih h

/-! ## Every literal around the column is reported -/

/-- A backslash is no quotation mark. -/
theorem ne_backslash_of_isQuote (h : isQuote quote = true) : quote ≠ '\\' := by
  rintro rfl
  exact absurd h (by decide)

/-- The scan reads past the contents of a literal. -/
theorem literalFrom?_contents (h : IsContents quote contents) (column start offset : Nat)
    (rest : Text) :
    literalFrom? column (.inside quote start) offset (contents ++ rest) =
      literalFrom? column (.inside quote start) (offset + bytes contents) rest := by
  induction h generalizing offset with
  | nil => simp
  | plain hbackslash hquote _ ih =>
    rw [List.cons_append, literalFrom?, if_neg hbackslash, if_neg hquote, ih, Text.bytes_cons,
      Nat.add_assoc]
  | escaped _ ih =>
    rw [List.cons_append, List.cons_append, literalFrom?, if_pos rfl, literalFrom?, ih,
      Text.bytes_cons, Text.bytes_cons]
    simp only [Nat.add_assoc]

/-- A literal that opens before the column is reported, or it ends before the column and the scan
reads past it. -/
theorem literalFrom?_literal (hquote : isQuote quote = true) (hcontents : IsContents quote contents)
    {column offset : Nat} (hcolumn : offset < column) (rest : Text) :
    literalFrom? column .outside offset (quote :: (contents ++ quote :: rest)) =
      if column ≤ offset + 1 + bytes contents then
        some ⟨offset + 1, offset + 1 + bytes contents⟩
      else literalFrom? column .outside (offset + 1 + bytes contents + 1) rest := by
  have hsize := utf8Size_of_isQuote hquote
  rw [literalFrom?, if_pos hquote, if_neg (Nat.not_le_of_lt hcolumn),
    literalFrom?_contents hcontents, literalFrom?, if_neg (ne_backslash_of_isQuote hquote),
    if_pos rfl, hsize]
  have hopened : offset + 1 ≤ column := hcolumn
  simp only [hopened, true_and]

/-- The scan reads past all that is closed before the column. -/
theorem literalFrom?_closed (h : IsClosed before) {column offset : Nat}
    (hcolumn : offset + bytes before < column) (rest : Text) :
    literalFrom? column .outside offset (before ++ rest) =
      literalFrom? column .outside (offset + bytes before) rest := by
  induction h generalizing offset with
  | nil => simp
  | plain hc _ ih =>
    rw [Text.bytes_cons] at hcolumn ⊢
    rw [List.cons_append, literalFrom?, if_neg (by simp [hc]), ih (by omega), Nat.add_assoc]
  | @literal quote contents more hquote hcontents _ ih =>
    have hbytes : bytes (quote :: (contents ++ quote :: more)) =
        1 + bytes contents + 1 + bytes more := by
      simp only [Text.bytes_cons, Text.bytes_append, utf8Size_of_isQuote hquote]
      omega
    rw [hbytes] at hcolumn ⊢
    rw [List.cons_append, List.append_assoc, List.cons_append,
      literalFrom?_literal hquote hcontents (by omega), if_neg (by omega), ih (by omega)]
    simp only [Nat.add_assoc]

/-- The literal around a column is the literal of the line that contains it. -/
theorem literalAt?_eq_some_iff {line : Text} {column : Nat} {span : Span} :
    literalAt? line column = some span ↔ IsLiteral line span ∧ span.Contains column := by
  constructor
  · intro h
    have hstart : LiteralScan.Reached [] .outside := IsClosed.nil
    exact ⟨isLiteral_of_literalFrom? hstart h, literalFrom?_contains h⟩
  · rintro ⟨⟨before, quote, contents, after, rfl, hbefore, hquote, hcontents, rfl⟩, hleft, hright⟩
    have hcolumn : 0 + bytes before < column := by
      rw [Nat.zero_add]
      exact hleft
    rw [literalAt?, literalFrom?_closed hbefore hcolumn,
      literalFrom?_literal hquote hcontents hcolumn, Nat.zero_add, if_pos hright]

/-! ## The literal around the cursor -/

/-- A range of the cursor's line is the contents of a literal of the line, and the cursor stands in
it or at one of its ends. -/
def LiteralAround (text : Text) (offset : Nat) (span : Span) : Prop :=
  ∃ inner, IsLiteral ((lineBounds text offset).slice text) inner ∧
    span = inner.shift (lineBounds text offset).start ∧ span.Contains (floorOffset text offset)

variable {text other : Text} {offset : Nat} {span : Span}

/-- The literal of a context is the one around the cursor on its line. -/
theorem surroundAt?_eq_some_iff :
    surroundAt? text (floorOffset text offset) = some span ↔ LiteralAround text offset span := by
  obtain ⟨front, head, tail, back, hparts⟩ := Text.exists_lineParts text offset
  have hcursor : (lineBounds text offset).start ≤ floorOffset text offset :=
    hparts.head_holds.start_le_stop
  simp only [surroundAt?, Text.lineBounds_floorOffset, Option.map_eq_some_iff,
    literalAt?_eq_some_iff]
  constructor
  · rintro ⟨inner, ⟨hliteral, hcontains⟩, rfl⟩
    have hshifted := hcontains.shift (lineBounds text offset).start
    rw [Nat.sub_add_cancel hcursor] at hshifted
    exact ⟨inner, hliteral, rfl, hshifted⟩
  · rintro ⟨inner, hliteral, rfl, hleft, hright⟩
    simp only [Span.shift] at hleft hright
    exact ⟨inner, ⟨hliteral, by omega, by omega⟩, rfl⟩

/-- A literal that contains a column reaches beyond it, at least with the closing quotation mark,
and does not depend on what follows. -/
theorem IsLiteral.exists_shown {head tail : Text} (h : IsLiteral (head ++ tail) span)
    (hcontains : span.Contains (bytes head)) :
    ∃ shown after, tail = shown ++ after ∧ shown ≠ [] ∧
      bytes head + bytes shown = span.stop + 1 ∧
      ∀ other, IsLiteral (head ++ (shown ++ other)) span := by
  obtain ⟨before, quote, contents, after, hline, hbefore, hquote, hcontents, rfl⟩ := h
  have hopened : bytes (before ++ quote :: contents) = bytes before + 1 + bytes contents := by
    rw [Text.bytes_append, Text.bytes_cons, utf8Size_of_isQuote hquote, Nat.add_assoc]
  have hcut : head ++ tail = (before ++ quote :: contents) ++ quote :: after := by
    rw [hline]
    simp
  have hcursor : bytes head ≤ bytes (before ++ quote :: contents) := hopened ▸ hcontains.2
  obtain ⟨inside, hhead, htail⟩ := Text.exists_append_of_bytes_le hcut hcursor
  refine ⟨inside ++ [quote], after, by simp [htail], by simp, ?_, ?_⟩
  · have hbytes := congrArg bytes hhead
    rw [hopened, Text.bytes_append] at hbytes
    simp only [Text.bytes_append, Text.bytes_cons, Text.bytes_nil, utf8Size_of_isQuote hquote]
    omega
  · intro other
    refine ⟨before, quote, contents, other, ?_, hbefore, hquote, hcontents, rfl⟩
    rw [← List.append_assoc, ← List.append_assoc, ← hhead]
    simp

/-- What follows a literal on its line has no part in it. -/
theorem LiteralAround.exchange (h : LiteralAround text offset span) (hother : '\n' ∉ other) :
    LiteralAround (Span.replace ⟨span.stop + 1, (lineBounds text offset).stop⟩ text other) offset
      span := by
  obtain ⟨front, head, tail, back, hparts⟩ := Text.exists_lineParts text offset
  obtain ⟨inner, hliteral, rfl, hcontains⟩ := h
  rw [hparts.holds.slice_eq] at hliteral
  have hstart : (lineBounds text offset).start = bytes front := by rw [hparts.lineBounds_eq]
  rw [hstart] at hcontains ⊢
  have hcolumn : inner.Contains (bytes head) := by
    obtain ⟨hleft, hright⟩ := hcontains
    rw [hparts.floorOffset_eq] at hleft hright
    simp only [Span.shift] at hleft hright
    exact ⟨by omega, by omega⟩
  obtain ⟨shown, after, rfl, hshown, hbytes, hkept⟩ := hliteral.exists_shown hcolumn
  have hstop : (inner.shift (bytes front)).stop + 1 =
      bytes front + (bytes head + bytes shown) := by
    simp only [Span.shift]
    omega
  have hunbroken : ∀ c ∈ other, Text.isNewline c = false := by
    intro c hc
    rw [Text.isNewline, beq_eq_false_iff_ne]
    exact fun hbreak => hother (hbreak ▸ hc)
  have hparts' := hparts.exchange hshown hunbroken
  rw [hstop, hparts.replace_tail]
  refine ⟨inner, ?_, by rw [hparts'.lineBounds_eq], ?_⟩
  · rw [hparts'.holds.slice_eq]
    exact hkept other
  · rwa [hparts'.floorOffset_eq, ← hparts.floorOffset_eq]

/-- **The literal around the cursor is the literal of its line that contains it.** For every text
and cursor, what is reported as the contents of a literal is a literal of the line with the cursor
in it or at one of its ends; if there is one it is reported, and there is no other; nothing is
reported only if there is none. A reported literal stays the same if the rest of the line after its
closing quotation mark is replaced by any other text without a line break. -/
theorem surround_eq_literal (text : Text) (offset : Nat) :
    (∀ span, surroundAt? text (floorOffset text offset) = some span ↔
      LiteralAround text offset span) ∧
    (surroundAt? text (floorOffset text offset) = none ↔ ¬ ∃ span, LiteralAround text offset span) ∧
    (∀ span span', LiteralAround text offset span → LiteralAround text offset span' →
      span = span') ∧
    (∀ span other, surroundAt? text (floorOffset text offset) = some span → '\n' ∉ other →
      surroundAt? (Span.replace ⟨span.stop + 1, (lineBounds text offset).stop⟩ text other)
        (floorOffset (Span.replace ⟨span.stop + 1, (lineBounds text offset).stop⟩ text other)
          offset) = some span) := by
  refine ⟨fun span => surroundAt?_eq_some_iff, ?_, ?_, ?_⟩
  · rw [Option.eq_none_iff_forall_ne_some, not_exists]
    exact forall_congr' fun span => not_congr surroundAt?_eq_some_iff
  · intro span span' h h'
    rw [← surroundAt?_eq_some_iff] at h h'
    exact Option.some.inj (h.symm.trans h')
  · intro span other h hother
    rw [surroundAt?_eq_some_iff] at h ⊢
    exact h.exchange hother

/-- A line with two literals, the second one with an escaped quotation mark. -/
def quotedTwice : Text := "\"a\" 'i\\'s' x".toList

/-- Behind the escaped quotation mark the cursor is in the second literal, also if another literal
is opened right after it. -/
theorem surround_eq_literal_escaped :
    surroundAt? quotedTwice (floorOffset quotedTwice 8) = some ⟨5, 9⟩ ∧
    LiteralAround quotedTwice 8 ⟨5, 9⟩ ∧
    Span.replace ⟨10, 12⟩ quotedTwice ['\''] = "\"a\" 'i\\'s''".toList ∧
    surroundAt? "\"a\" 'i\\'s''".toList (floorOffset "\"a\" 'i\\'s''".toList 8) =
      some ⟨5, 9⟩ := by
  have hsurround : surroundAt? quotedTwice (floorOffset quotedTwice 8) = some ⟨5, 9⟩ := by decide
  have hreplaced : Span.replace ⟨10, 12⟩ quotedTwice ['\''] = "\"a\" 'i\\'s''".toList := by
    decide
  obtain ⟨hliteral, -, -, hkept⟩ := surround_eq_literal quotedTwice 8
  have hstays := hkept ⟨5, 9⟩ ['\''] hsurround (by decide)
  have hline : (lineBounds quotedTwice 8).stop = 12 := by decide
  rw [hline, hreplaced] at hstays
  exact ⟨hsurround, (hliteral ⟨5, 9⟩).1 hsurround, hreplaced, hstays⟩

end FluentAssist.Cursor
