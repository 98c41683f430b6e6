import FluentAssist.Completion.Assemble
import FluentAssist.Proofs.Cursor.Line
import FluentAssist.Proofs.Cursor.Window
import FluentAssist.Proofs.Style.Declaration
import FluentAssist.Proofs.Text.Positions
import FluentAssist.Protocol.Convert
import FluentAssist.Protocol.Params

/-!
# What accepted candidates replace

A candidate with a range replaces a part of the document. Ranges come from the word at the cursor,
from what follows an equals sign in it, from the declaration that is typed in a style literal, and
from a partial name of an element function; `RangeOf` lists those of a context. Each of them is cut
out of the cursor's line, so the argument is the same for all: a range that holds a part of a line
still does so after its front was cut off or after it was found in a part of that part.

`edits_well_formed` is the main statement. It follows the range to the editor, as the positions in
the completion item, and back.
-/

set_option autoImplicit false

namespace FluentAssist

open Text (bytes lineBounds positionAt positionRange offsetAt IsBoundary)

/-! ## The range of a completion item -/

namespace Protocol

/-- A range of a document. -/
def range? (value : Json) : Option PositionRange := do
  return ⟨← (value.get? "start").bind position?, ← (value.get? "end").bind position?⟩

/-- The range that a completion item replaces, read from the item. -/
def editRange? (item : Json) : Option PositionRange :=
  ((item.get? "textEdit").bind fun edit => edit.get? "range").bind range?

/-- Members with other names are looked through. -/
theorem lookup_member?_append {key key' : String} (h : key ≠ key') (value : Option Json)
    (rest : List (String × Json)) :
    (member? key' value ++ rest).lookup key = rest.lookup key := by
  cases value with
  | none => rfl
  | some value => simp [member?, List.lookup_cons, beq_false_of_ne h]

/-- An optional member is found if it is there. -/
theorem lookup_member?_self (key : String) (value : Option Json) :
    (member? key value).lookup key = value := by
  cases value with
  | none => rfl
  | some value => simp [member?]

/-- A number below the word size is read back. -/
theorem count?_ofNat {n : Nat} (h : n < wordSize32) : count? (.ofNat n) = some n := by
  simp only [count?, Json.ofNat, Json.natBelow?, Int.toNat_natCast]
  exact if_pos ⟨by omega, by omega⟩

/-- The numbers of a position fit into the value that is read. -/
theorem position?_position {at_ : Position} (hline : at_.line < wordSize32)
    (hcharacter : at_.character < wordSize32) : position? (position at_) = some at_ := by
  have hfirst : Shape.position.get? "line" (position at_) = some (.ofNat at_.line) := by
    simp [position, Shape.get?, Json.get?]
  have hsecond : Shape.position.get? "character" (position at_) = some (.ofNat at_.character) := by
    simp [position, Shape.get?, Json.get?, List.lookup_cons]
  -- Step by step: unfolding `count?` here would make the kernel compute with the bound.
  rw [position?, hfirst, hsecond, Option.bind_some, Option.bind_some, count?_ofNat hline,
    count?_ofNat hcharacter]
  rfl

/-- A position in a text is read back. -/
theorem position?_positionAt (text : Text) (offset : Nat) :
    position? (position (positionAt text offset)) = some (positionAt text offset) := by
  have hpos : 0 < wordSize32 := by decide
  apply position?_position
  · simp only [positionAt]
    exact Nat.mod_lt _ hpos
  · simp only [positionAt]
    exact Nat.mod_lt _ hpos

/-- A range is read back if its ends are. -/
theorem range?_range {between : PositionRange}
    (hstart : position? (position between.start) = some between.start)
    (hstop : position? (position between.stop) = some between.stop) :
    range? (range between) = some between := by
  have hfirst : (range between).get? "start" = some (position between.start) := by
    simp [range, Json.get?]
  have hsecond : (range between).get? "end" = some (position between.stop) := by
    simp [range, Json.get?, List.lookup_cons]
  rw [range?, hfirst, hsecond, Option.bind_some, Option.bind_some, hstart, hstop]
  rfl

/-- A completion item replaces the positions of its candidate's range. -/
theorem editRange?_completionItem (text : Text) (candidate : Candidate) :
    editRange? (completionItem text candidate) = candidate.range.map (positionRange text) := by
  have hedit : (completionItem text candidate).get? "textEdit" =
      candidate.range.map fun span =>
        .obj [("range", range (positionRange text span)),
          ("newText", .ofText candidate.insertText)] := by
    simp [completionItem, Json.get?, lookup_member?_append, lookup_member?_self, List.lookup_cons]
  rw [editRange?, hedit]
  cases candidate.range with
  | none => rfl
  | some span =>
    have hbetween : (Json.obj [("range", range (positionRange text span)),
        ("newText", .ofText candidate.insertText)]).get? "range" =
        some (range (positionRange text span)) := by simp [Json.get?]
    rw [Option.map_some, Option.bind_some, hbetween, Option.bind_some, Option.map_some]
    exact range?_range (position?_positionAt text span.start) (position?_positionAt text span.stop)

end Protocol

/-! ## Ranges on the cursor's line -/

variable {text : Text} {offset : Nat}

namespace Style

/-- What is typed of a declaration stands in its range on the line of its literal. -/
theorem locate_holds {literal : Text} {outer : Span} (cursor : Nat)
    (h : outer.HoldsOnLine text offset literal) :
    (locate literal cursor outer.start).range.HoldsOnLine text offset
      (locate literal cursor outer.start).typed := by
  obtain ⟨inner, hinner, hrange⟩ := exists_locate_eq literal cursor outer.start
  rw [hrange]
  exact h.inside hinner

end Style

namespace Completion

variable {context : Context} {span : Span}

/-- The parts of the document that candidates for a context replace: what is typed of a style, the
word, or what follows the first equals sign of the word. For an icon there is none. -/
inductive Replaces (context : Context) : Text → Prop
  | typed {literal : Text} {outer : Span} (hkind : context.kind = .style)
      (hsurround : context.surround = some literal) (hspan : context.surroundSpan = some outer) :
      Replaces context (Style.locate literal context.offset outer.start).typed
  | className (hkind : context.kind = .classes) : Replaces context context.word
  | name (hkind : context.kind.attributeKind? ≠ none) (hword : '=' ∉ context.word) :
      Replaces context context.word
  | value {key value : Text} (hkind : context.kind.attributeKind? ≠ none)
      (hword : context.word = key ++ '=' :: value) (hkey : '=' ∉ key) : Replaces context value

/-- Where the range of a candidate for a context comes from. -/
inductive RangeOf (context : Context) : Span → Prop
  | typed {literal : Text} {outer : Span} (hkind : context.kind = .style)
      (hsurround : context.surround = some literal) (hspan : context.surroundSpan = some outer) :
      RangeOf context (Style.locate literal context.offset outer.start).range
  | className (hkind : context.kind = .classes) (hne : context.word ≠ []) :
      RangeOf context context.wordSpan
  | name (hkind : context.kind.attributeKind? ≠ none) (hne : context.word ≠ [])
      (hword : '=' ∉ context.word) : RangeOf context context.wordSpan
  | value {key value : Text} (hkind : context.kind.attributeKind? ≠ none)
      (hword : context.word = key ++ '=' :: value) (hkey : '=' ∉ key) :
      RangeOf context ⟨context.wordSpan.start + bytes key + 1, context.wordSpan.stop⟩

/-- Numbering candidates keeps their ranges. -/
theorem exists_range_eq_of_mem_numbered {candidates : List Candidate} {candidate : Candidate}
    (h : candidate ∈ numbered candidates) : ∃ c ∈ candidates, candidate.range = c.range := by
  obtain ⟨i, hi, rfl⟩ := List.mem_mapIdx.1 h
  exact ⟨_, List.getElem_mem hi, rfl⟩

/-- Plain candidates have the range that they are made with. -/
theorem range_of_mem_plainCandidates {entries : List String} {word : Text} {range : Option Span}
    {kind : Option CandidateKind} {candidate : Candidate}
    (h : candidate ∈ plainCandidates entries word range kind) : candidate.range = range := by
  obtain ⟨c, hc, hrange⟩ := exists_range_eq_of_mem_numbered h
  obtain ⟨entry, -, rfl⟩ := List.mem_map.1 hc
  exact hrange

/-- Candidates for a style have the range of what is typed. -/
theorem range_of_mem_styleCandidates {position : Style.StylePosition} {candidate : Candidate}
    (h : candidate ∈ Style.candidates position) : candidate.range = some position.range := by
  obtain ⟨c, hc, hrange⟩ := exists_range_eq_of_mem_numbered h
  obtain ⟨label, -, rfl⟩ := List.mem_map.1 hc
  rw [hrange, Style.candidateOf]
  split
  · rfl
  · rfl

variable {kb : KnowledgeBase} {className : Option String} {candidate : Candidate}

/-- A name replaces the word, if there is one. -/
theorem wordRange_eq_some (h : wordRange context = some span) :
    context.word ≠ [] ∧ span = context.wordSpan := by
  unfold wordRange at h
  split at h
  · cases h
  · next hword =>
    cases h
    exact ⟨by simpa using hword, rfl⟩

/-- A value replaces what follows the equals sign. -/
theorem valueRange_eq_some {key : Text} (h : valueRange context key = some span) :
    span = ⟨context.wordSpan.start + bytes key + 1, context.wordSpan.stop⟩ := by
  unfold valueRange at h
  dsimp only at h
  split at h
  · exact (Option.some.inj h).symm
  · cases h

/-- Candidates for attributes replace the word or what follows its equals sign. -/
theorem attributeCandidates_rangeOf {kind : AttributeKind}
    (hkind : context.kind.attributeKind? = some kind)
    (hmem : candidate ∈ attributeCandidates kb context kind className)
    (hrange : candidate.range = some span) : RangeOf context span := by
  have hattribute : context.kind.attributeKind? ≠ none := by simp [hkind]
  unfold attributeCandidates at hmem
  dsimp only at hmem
  split at hmem
  · next key value hsplit =>
    obtain ⟨hword, hkey⟩ := Text.splitOnce?_eq_some_iff.1 hsplit
    obtain ⟨c, hc, hsame⟩ := exists_range_eq_of_mem_numbered hmem
    obtain ⟨entry, -, rfl⟩ := List.mem_map.1 hc
    obtain rfl := valueRange_eq_some (hsame.symm.trans hrange)
    exact .value hattribute hword hkey
  · next hsplit =>
    have hname := Text.splitOnce?_eq_none_iff.1 hsplit
    have hwordRange : wordRange context = some span := by
      split at hmem
      · obtain ⟨c, hc, hsame⟩ := exists_range_eq_of_mem_numbered hmem
        obtain ⟨⟨name, attr⟩, -, rfl⟩ := List.mem_map.1 hc
        exact hsame.symm.trans hrange
      · exact (range_of_mem_plainCandidates hmem).symm.trans hrange
    obtain ⟨hne, rfl⟩ := wordRange_eq_some hwordRange
    exact .name hattribute hne hname

/-- Every candidate for a context has one of its ranges. -/
theorem assemble_rangeOf (hmem : candidate ∈ assemble kb context className)
    (hrange : candidate.range = some span) : RangeOf context span := by
  cases hattribute : context.kind.attributeKind? with
  | some kind =>
    rw [assemble_of_attributeKind? hattribute] at hmem
    exact attributeCandidates_rangeOf hattribute hmem hrange
  | none =>
    unfold assemble at hmem
    cases hkind : context.kind with
    | icons =>
      rw [hkind] at hmem
      obtain ⟨icon, -, rfl⟩ := List.mem_map.1 hmem
      cases hrange
    | classes =>
      simp only [hkind] at hmem
      split at hmem
      · cases hmem
      · obtain ⟨hne, rfl⟩ :=
          wordRange_eq_some ((range_of_mem_plainCandidates hmem).symm.trans hrange)
        exact .className hkind hne
    | style =>
      simp only [hkind, styleCandidates] at hmem
      split at hmem
      · next literal outer hsurround hspan =>
        rw [range_of_mem_styleCandidates hmem, Option.some.injEq] at hrange
        subst hrange
        exact .typed hkind hsurround hspan
      · cases hmem
    | _ =>
      rw [hkind] at hattribute
      cases hattribute

/-- Every range of a candidate for a context holds, on the cursor's line, what such candidates
replace. -/
theorem assemble_holds (hplaced : Cursor.Placed text offset context)
    (hmem : candidate ∈ assemble kb context className) (hrange : candidate.range = some span) :
    ∃ part, Replaces context part ∧ span.HoldsOnLine text offset part := by
  cases assemble_rangeOf hmem hrange with
  | typed hkind hsurround hspan =>
    exact ⟨_, .typed hkind hsurround hspan, Style.locate_holds context.offset
      (hplaced.surround_holds _ _ hsurround hspan)⟩
  | className hkind hne => exact ⟨context.word, .className hkind, hplaced.word_holds hne⟩
  | name hkind hne hword => exact ⟨context.word, .name hkind hword, hplaced.word_holds hne⟩
  | @value key value hkind hword hkey =>
    refine ⟨value, .value hkind hword hkey, ?_⟩
    have hholds := hplaced.word_holds (by simp [hword])
    have hequals : context.word = (key ++ ['=']) ++ value := by simp [hword]
    have hone : '='.utf8Size = 1 := rfl
    rw [hequals] at hholds
    simpa [hone, Nat.add_assoc] using hholds.suffix

/-- Candidates for element functions replace the name that is typed. -/
theorem uiFunctions_holds {context : UiContext}
    (hcontext : Cursor.uiFunction? text offset = some context)
    (hmem : candidate ∈ uiFunctions kb context) (hrange : candidate.range = some span) :
    span.HoldsOnLine text offset context.word := by
  have hsame := (range_of_mem_plainCandidates hmem).symm.trans hrange
  split at hsame
  · cases hsame
  · cases hsame
    exact Cursor.uiFunction?_holds hcontext

/-! ## Edits -/

/-- A candidate that edits the line of an offset: its range is a piece of that line, and the range
in its completion item is the same piece. -/
structure EditsLine (text : Text) (offset : Nat) (candidate : Candidate) (span : Span) : Prop where
  start_le_stop : span.start ≤ span.stop
  isBoundary_start : IsBoundary text span.start
  isBoundary_stop : IsBoundary text span.stop
  line_start_le : (lineBounds text offset).start ≤ span.start
  stop_le_line_stop : span.stop ≤ (lineBounds text offset).stop
  sent : ∃ range, Protocol.editRange? (Protocol.completionItem text candidate) = some range ∧
    range.start.line = (positionAt text offset).line ∧
    range.stop.line = (positionAt text offset).line ∧
    offsetAt text range.start = span.start ∧ offsetAt text range.stop = span.stop

/-- A candidate whose range holds a part of the line edits the line. -/
theorem editsLine_of_holdsOnLine (hsize : bytes text < wordSize32)
    (hrange : candidate.range = some span) {part : Text}
    (h : span.HoldsOnLine text offset part) : EditsLine text offset candidate span := by
  have hstart := h.holds.isBoundary_start
  have hstop := h.holds.isBoundary_stop
  obtain ⟨hfirst, hlast⟩ := Text.line_positionRange h
  refine ⟨h.holds.start_le_stop, hstart, hstop, h.line_start_le, h.stop_le_line_stop,
    positionRange text span, ?_, hfirst, hlast, ?_, ?_⟩
  · rw [Protocol.editRange?_completionItem, hrange, Option.map_some]
  · rw [positionRange, Text.offsetAt_positionAt hsize, Text.floorOffset_eq_self hstart]
  · rw [positionRange, Text.offsetAt_positionAt hsize, Text.floorOffset_eq_self hstop]

/-- **Every edit is well formed.** Take any knowledge base, any text of less than `2 ^ 32` bytes,
any cursor, any lookback below `2 ^ 63`, and the name of a component or none. A candidate with a
range, for a partial name of an element function or for the context of the cursor, edits the
cursor's line: the range is between two character boundaries of that line, the completion item
addresses that line, and its positions lead back to the range. What the range covers is the partial
name, or what candidates for the context replace. -/
theorem edits_well_formed (kb : KnowledgeBase) (text : Text) (offset lookback : Nat)
    (className : Option String) (hsize : bytes text < wordSize32)
    (hlookback : lookback < wordSize63) :
    (∀ context, Cursor.uiFunction? text offset = some context →
      ∀ candidate ∈ uiFunctions kb context, ∀ span, candidate.range = some span →
        EditsLine text offset candidate span ∧ span.slice text = context.word) ∧
    ∃ found, Cursor.classify text offset lookback = .ok found ∧
      ∀ context, found = some context →
        ∀ candidate ∈ assemble kb context className, ∀ span, candidate.range = some span →
          EditsLine text offset candidate span ∧ Replaces context (span.slice text) := by
  obtain ⟨found, hfound⟩ : ∃ found, Cursor.classify text offset lookback = .ok found :=
    ⟨_, Cursor.classify_eq hlookback⟩
  refine ⟨?_, found, hfound, ?_⟩
  · intro context hcontext candidate hmem span hrange
    have hholds := uiFunctions_holds hcontext hmem hrange
    exact ⟨editsLine_of_holdsOnLine hsize hrange hholds, hholds.holds.slice_eq⟩
  · rintro context rfl candidate hmem span hrange
    obtain ⟨part, hpart, hholds⟩ :=
      assemble_holds (Cursor.classify_placed hfound) hmem hrange
    refine ⟨editsLine_of_holdsOnLine hsize hrange hholds, ?_⟩
    rw [hholds.holds.slice_eq]
    exact hpart

/-- On a second line, the value of a prop in a string literal; the cursor stands behind it. -/
def valueTyped : Text := "ü\nb.props('icon=é')".toList

/-- The context of the cursor behind the value. -/
def valueContext : Context where
  offset := 19
  kind := .props
  method := some .props
  matched := ".props('icon=é".toList
  matchStart := 4
  word := "icon=é".toList
  wordSpan := ⟨12, 19⟩
  surround := some "icon=é".toList
  surroundSpan := some ⟨12, 19⟩

/-- An icon offered for the value replaces only what follows the equals sign. -/
theorem edits_well_formed_value :
    bytes valueTyped < wordSize32 ∧ Cursor.defaultLookback < wordSize63 ∧
    Cursor.classify valueTyped 19 Cursor.defaultLookback = .ok (some valueContext) ∧
    ∃ candidate ∈ assemble { icons := ["home"] } valueContext none,
      candidate.range = some ⟨17, 19⟩ ∧ EditsLine valueTyped 19 candidate ⟨17, 19⟩ ∧
      Replaces valueContext "é".toList := by
  have hsize : bytes valueTyped < wordSize32 := by decide
  have hlookback : Cursor.defaultLookback < wordSize63 := by decide
  have hclassify : Cursor.classify valueTyped 19 Cursor.defaultLookback =
      .ok (some valueContext) := by
    rw [Cursor.classify_eq hlookback]
    exact congrArg Except.ok (by decide +kernel)
  have hcandidates : assemble { icons := ["home"] } valueContext none =
      [{ label := "home", kind := some .value, range := some ⟨17, 19⟩ }] := by decide +kernel
  have hmem : { label := "home", kind := some .value, range := some ⟨17, 19⟩ } ∈
      assemble { icons := ["home"] } valueContext none := by
    rw [hcandidates]
    exact List.mem_singleton_self _
  have hslice : Span.slice ⟨17, 19⟩ valueTyped = "é".toList := by decide
  obtain ⟨-, found, hfound, hedits⟩ := edits_well_formed { icons := ["home"] } valueTyped 19
    Cursor.defaultLookback none hsize hlookback
  obtain rfl : found = some valueContext := Except.ok.inj (hfound.symm.trans hclassify)
  obtain ⟨hedit, hreplaces⟩ := hedits valueContext rfl _ hmem ⟨17, 19⟩ rfl
  rw [hslice] at hreplaces
  exact ⟨hsize, hlookback, hclassify, _, hmem, rfl, hedit, hreplaces⟩

end Completion

end FluentAssist
