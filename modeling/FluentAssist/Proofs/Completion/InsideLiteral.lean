import FluentAssist.Proofs.Completion.Edits
import FluentAssist.Proofs.Cursor.Tokens

/-!
# Edits inside a literal

The word at the cursor and the literal around it are found by two scans of the cursor's line that
know nothing of each other: one cuts the line into runs of token characters, the other one follows
quotation marks and backslashes. They meet at the cursor, which stands in both ranges. A quotation
mark is no token character, so a run through the cursor passes neither mark of the literal.

`edits_inside_literal` is the main statement: with a literal around the cursor, the word and the
range of every candidate lie between its quotation marks.
-/

set_option autoImplicit false

namespace FluentAssist

open Text (bytes)

/-- A range that lies in another one; they may share ends. -/
def Span.Within (inner outer : Span) : Prop :=
  outer.start ≤ inner.start ∧ inner.stop ≤ outer.stop

/-- A range in a part of a text, moved to the text, is within the range of the part. -/
theorem Span.Holds.shift_within {inner outer : Span} {text whole part : Text}
    (houter : outer.Holds text whole) (hinner : inner.Holds whole part) :
    (inner.shift outer.start).Within outer := by
  have hstop := hinner.stop_le
  have hwhole := houter.stop_eq
  simp only [Span.Within, Span.shift]
  omega

namespace Cursor

/-- A text cut at the quotation marks of a literal, whose contents have the range `span`. -/
structure QuotedParts (text : Text) (span : Span) (front : Text) (quote : Char)
    (contents back : Text) : Prop where
  text_eq : text = front ++ quote :: (contents ++ quote :: back)
  quote_isQuote : isQuote quote = true
  contents_isContents : IsContents quote contents
  span_eq : span = ⟨bytes front + 1, bytes front + 1 + bytes contents⟩

variable {text : Text} {offset lookback : Nat} {context : Context}

namespace QuotedParts

variable {span inner : Span} {front contents back part : Text} {quote : Char}

/-- The contents start behind the opening mark. -/
theorem bytes_opened (h : QuotedParts text span front quote contents back) :
    bytes (front ++ [quote]) = span.start := by
  simp only [h.span_eq, Text.bytes_append, Text.bytes_cons, Text.bytes_nil,
    utf8Size_of_isQuote h.quote_isQuote]

/-- The contents end before the closing mark. -/
theorem bytes_filled (h : QuotedParts text span front quote contents back) :
    bytes (front ++ quote :: contents) = span.stop := by
  simp only [h.span_eq, Text.bytes_append, Text.bytes_cons, utf8Size_of_isQuote h.quote_isQuote,
    Nat.add_assoc]

/-- A range around a place in the literal that has no quotation mark stays in the literal: it would
have to pass one of the two marks to leave it. -/
theorem within_of_not_mem (h : QuotedParts text span front quote contents back)
    (hinner : inner.Holds text part) (hpart : quote ∉ part) {cursor : Nat}
    (hcursor : inner.Contains cursor) (hliteral : span.Contains cursor) : inner.Within span := by
  have hopening : text = front ++ quote :: (contents ++ quote :: back) := h.text_eq
  have hclosing : text = (front ++ quote :: contents) ++ quote :: back := by
    rw [h.text_eq]
    simp
  have hstart : span.start = bytes front + 1 := by rw [h.span_eq]
  obtain ⟨hleft, hright⟩ := hcursor
  obtain ⟨hfrom, hto⟩ := hliteral
  constructor
  · have hbehind := hinner.lt_start_of_not_mem hopening hpart (by omega)
    omega
  · by_contra hover
    have hbehind := hinner.lt_start_of_not_mem hclosing hpart (by rw [h.bytes_filled]; omega)
    rw [h.bytes_filled] at hbehind
    omega

/-- An edit in the literal changes nothing but its contents. -/
theorem exists_replace_eq (h : QuotedParts text span front quote contents back)
    (hinner : inner.Holds text part) (hwithin : inner.Within span) (other : Text) :
    ∃ contents', inner.replace text other = front ++ quote :: (contents' ++ quote :: back) := by
  obtain ⟨before, after, htext, rfl⟩ := hinner
  obtain ⟨hstart, hstop⟩ := hwithin
  rw [← h.bytes_opened] at hstart
  rw [← h.bytes_filled] at hstop
  have hopening : (front ++ [quote]) ++ (contents ++ quote :: back) =
      before ++ (part ++ after) := by
    rw [← htext, h.text_eq]
    simp
  obtain ⟨left, rfl, hrest⟩ := Text.exists_append_of_bytes_le hopening hstart
  have hclosing : (left ++ part) ++ after = contents ++ quote :: back := by
    rw [hrest, List.append_assoc]
  obtain ⟨right, -, rfl⟩ := Text.exists_append_of_bytes_le hclosing (by
    simp only [Text.bytes_append, Text.bytes_cons, Text.bytes_nil] at hstop ⊢
    omega)
  refine ⟨left ++ (other ++ right), ?_⟩
  rw [htext, Span.replace_eq]
  simp

end QuotedParts

/-- A text can be cut at the marks of the literal around an offset. -/
theorem LiteralAround.exists_quotedParts {span : Span} (h : LiteralAround text offset span) :
    ∃ front quote contents back, QuotedParts text span front quote contents back := by
  obtain ⟨front, head, tail, back, hparts⟩ := Text.exists_lineParts text offset
  obtain ⟨inner, ⟨before, quote, contents, after, hline, -, hquote, hcontents, rfl⟩, rfl, -⟩ := h
  rw [hparts.holds.slice_eq] at hline
  refine ⟨front ++ before, quote, contents, after ++ back, ?_, hquote, hcontents, ?_⟩
  · rw [hparts.text_eq, ← List.append_assoc head, hline]
    simp
  · rw [hparts.lineBounds_eq]
    simp only [Span.shift, Text.bytes_append, Span.mk.injEq]
    omega

/-- The literal of a context is the one around the cursor. -/
theorem literalAround_of_classify (h : classify text offset lookback = .ok (some context))
    {span : Span} (hspan : context.surroundSpan = some span) : LiteralAround text offset span := by
  obtain ⟨start, found, rfl⟩ := exists_contextAt_of_classify h
  exact surroundAt?_eq_some_iff.1 hspan

/-- The word of a context consists of token characters. -/
theorem isTokenChar_of_classify (h : classify text offset lookback = .ok (some context))
    {c : Char} (hc : c ∈ context.word) : isTokenChar c = true := by
  obtain ⟨front, head, tail, back, hparts⟩ := Text.exists_lineParts text offset
  rw [(word_of_classify hparts h).1] at hc
  obtain ⟨before, after, -, -, hrun⟩ := exists_isRun_of_wordAt (List.ne_nil_of_mem hc)
  exact hrun.chars c hc

/-- A quotation mark is no part of a token. -/
theorem isTokenChar_eq_false_of_isQuote {c : Char} (h : isQuote c = true) :
    isTokenChar c = false := by
  simp only [isQuote, Bool.or_eq_true, beq_iff_eq] at h
  obtain rfl | rfl := h
  · decide
  · decide

/-- The word of a context lies in the literal around the cursor. -/
theorem QuotedParts.wordSpan_within {span : Span} {front contents back : Text} {quote : Char}
    (hquoted : QuotedParts text span front quote contents back)
    (h : classify text offset lookback = .ok (some context))
    (hspan : context.surroundSpan = some span) (hword : context.word ≠ []) :
    context.wordSpan.Within span := by
  have haround := classify_around h
  have hpart : quote ∉ context.word := by
    intro hmem
    have hchar := isTokenChar_of_classify h hmem
    rw [isTokenChar_eq_false_of_isQuote hquoted.quote_isQuote] at hchar
    cases hchar
  exact hquoted.within_of_not_mem ((classify_placed h).word_holds hword).holds hpart
    haround.word_contains (haround.surround_contains span hspan)

end Cursor

namespace Completion

open Cursor

variable {text : Text} {offset lookback : Nat} {context : Context}

/-- Every range of a context is within the literal around the cursor, if its word is. -/
theorem RangeOf.within {span outer : Span} (h : RangeOf context span)
    (hplaced : Placed text offset context) (hspan : context.surroundSpan = some outer)
    (hword : context.word ≠ [] → context.wordSpan.Within outer) : span.Within outer := by
  cases h with
  | @typed literal found hkind hsurround hfound =>
    obtain rfl : found = outer := Option.some.inj (hfound.symm.trans hspan)
    obtain ⟨inner, hinner, hrange⟩ := Style.exists_locate_eq literal context.offset found.start
    rw [hrange]
    exact (hplaced.surround_holds literal found hsurround hspan).holds.shift_within hinner
  | className hkind hne => exact hword hne
  | name hkind hne hname => exact hword hne
  | value hkind hequals hkey =>
    obtain ⟨hstart, hstop⟩ := hword (by simp [hequals])
    exact ⟨by dsimp only; omega, hstop⟩

/-- **What is replaced lies inside its literal.** Take any text, cursor and lookback whose context
has a literal around the cursor. The literal's range is what stands between two equal quotation
marks. The word, unless it is empty, lies in that range, and so does the range of every candidate
for the context, from any knowledge base and with or without the name of a component. Whatever is
put in the place of such a range, both marks and all text outside them stay as they were. -/
theorem edits_inside_literal (text : Text) (offset lookback : Nat) (context : Context)
    (outer : Span) (hclassify : classify text offset lookback = .ok (some context))
    (houter : context.surroundSpan = some outer) :
    ∃ front quote contents back, QuotedParts text outer front quote contents back ∧
      (context.word ≠ [] → context.wordSpan.Within outer) ∧
      ∀ (kb : KnowledgeBase) (className : Option String),
        ∀ candidate ∈ assemble kb context className, ∀ span, candidate.range = some span →
          span.Within outer ∧ ∀ other, ∃ contents',
            span.replace text other = front ++ quote :: (contents' ++ quote :: back) := by
  obtain ⟨front, quote, contents, back, hquoted⟩ :=
    (literalAround_of_classify hclassify houter).exists_quotedParts
  have hword : context.word ≠ [] → context.wordSpan.Within outer :=
    hquoted.wordSpan_within hclassify houter
  refine ⟨front, quote, contents, back, hquoted, hword, ?_⟩
  intro kb className candidate hmem span hrange
  have hplaced := classify_placed hclassify
  have hwithin := (assemble_rangeOf hmem hrange).within hplaced houter hword
  obtain ⟨part, -, hholds⟩ := assemble_holds hplaced hmem hrange
  exact ⟨hwithin, hquoted.exists_replace_eq hholds.holds hwithin⟩

/-- A prop with its value behind an escaped quotation mark. -/
def escapedTyped : Text := "b.props('it\\'icon=h')".toList

/-- The context of the cursor behind the equals sign. -/
def escapedContext : Context where
  offset := 18
  kind := .props
  method := some .props
  matched := ".props('it\\'icon=".toList
  matchStart := 1
  word := "icon=h".toList
  wordSpan := ⟨13, 19⟩
  surround := some "it\\'icon=h".toList
  surroundSpan := some ⟨9, 19⟩

/-- The word ends at the closing quotation mark and starts behind the escaped one; the value that is
replaced is the end of the word. -/
theorem edits_inside_literal_escaped :
    classify escapedTyped 18 defaultLookback = .ok (some escapedContext) ∧
    escapedContext.wordSpan.Within ⟨9, 19⟩ ∧
    ∃ candidate ∈ assemble { icons := ["home"] } escapedContext none,
      candidate.range = some ⟨18, 19⟩ ∧ Span.Within ⟨18, 19⟩ ⟨9, 19⟩ := by
  have hclassify : classify escapedTyped 18 defaultLookback = .ok (some escapedContext) := by
    rw [classify_eq (by decide)]
    exact congrArg Except.ok (by decide +kernel)
  have hmem : { label := "home", kind := some .value, range := some ⟨18, 19⟩ } ∈
      assemble { icons := ["home"] } escapedContext none := by decide +kernel
  obtain ⟨front, quote, contents, back, -, hword, hcandidates⟩ :=
    edits_inside_literal escapedTyped 18 defaultLookback escapedContext ⟨9, 19⟩ hclassify rfl
  obtain ⟨hwithin, -⟩ := hcandidates { icons := ["home"] } none _ hmem ⟨18, 19⟩ rfl
  exact ⟨hclassify, hword (by decide), _, hmem, rfl, hwithin⟩

end Completion

end FluentAssist
