import FluentAssist.Proofs.Cursor.Classification
import FluentAssist.Resolution.Lookup

/-!
# Where the question about the method is asked

A lookup first asks about the method of a call, one character behind the start of the call. The call
starts with its dot, so that is the character after the dot. A program may put white space or line
breaks between the dot and the name of the method, and classification accepts that. Then the
question is asked about the white space and not about the name.

`method_question_on_name_iff` says of every classified call where its name stands, and that the
question meets the name exactly if nothing stands between the two.
-/

set_option autoImplicit false

namespace FluentAssist.Cursor

open Text (bytes splitAtOffset isBlank)

/-- The start of a call as the document has it: a dot, white space, and the name of the method. -/
structure CallHead (text : Text) (start : Nat) (method : BuilderMethod)
    (before gap after : Text) : Prop where
  text_eq : text = before ++ '.' :: (gap ++ (method.name.toList ++ after))
  start_eq : bytes before = start
  gap_blank : ∀ c ∈ gap, isBlank c = true

variable {text : Text} {offset lookback : Nat} {context : Context} {method : BuilderMethod}

/-- In a call the document can be cut around the name of its method. -/
theorem InCall.exists_callHead (h : InCall text offset lookback context method) :
    ∃ before gap after, CallHead text context.matchStart method before gap after := by
  obtain ⟨hopen, -⟩ := h.isOpen
  obtain ⟨before, hbefore, hstart⟩ := (textFrom_eq_iff hopen.ne_nil).1 rfl
  obtain ⟨arguments, ⟨gap, gap', hgap, -, hcall⟩, -⟩ := hopen
  refine ⟨before, gap, gap' ++ '(' :: arguments ++ (splitAtOffset text offset).2, ?_, hstart, hgap⟩
  rw [hcall] at hbefore
  have hsplit := Text.splitAtOffset_append text offset
  rw [hbefore] at hsplit
  exact hsplit.symm.trans (by simp)

namespace CallHead

variable {start : Nat} {before gap after : Text}

/-- White space stands between the dot and the name. -/
theorem gap_holds (h : CallHead text start method before gap after) :
    Span.Holds ⟨start + 1, start + 1 + bytes gap⟩ text gap := by
  refine ⟨before ++ ['.'], method.name.toList ++ after, by simp [h.text_eq], ?_⟩
  simp [h.start_eq, Char.utf8Size]

/-- The name of the method stands behind the dot and the white space. -/
theorem name_holds (h : CallHead text start method before gap after) :
    Span.Holds ⟨start + 1 + bytes gap, start + 1 + bytes gap + bytes method.name.toList⟩ text
      method.name.toList := by
  refine ⟨before ++ '.' :: gap, after, by simp [h.text_eq], ?_⟩
  simp [h.start_eq, Char.utf8Size, Nat.add_assoc]

/-- One character behind the start of a call is one byte behind it. -/
theorem shiftChars_one (h : CallHead text start method before gap after) :
    Text.shiftChars text start 1 = start + 1 := by
  have hsplit := Text.splitAtOffset_of_append h.text_eq.symm h.start_eq
  simp [Text.shiftChars, hsplit, h.start_eq, Char.utf8Size]

/-- One character behind the start of a call comes the white space before the name. -/
theorem splitAtOffset_eq (h : CallHead text start method before gap after) :
    splitAtOffset text (start + 1) = (before ++ ['.'], gap ++ (method.name.toList ++ after)) := by
  apply Text.splitAtOffset_of_append
  · simp [h.text_eq]
  · simp [h.start_eq, Char.utf8Size]

/-- The name of the method follows the dot exactly if no white space does. -/
theorem startsWith_iff (h : CallHead text start method before gap after) :
    Text.startsWith (splitAtOffset text (start + 1)).2 method.name.toList = true ↔ gap = [] := by
  rw [h.splitAtOffset_eq, Text.startsWith, Option.isSome_iff_exists]
  constructor
  · rintro ⟨rest, hrest⟩
    rw [Text.dropLiteral?_eq_some_iff] at hrest
    obtain ⟨c, name, hname, hc⟩ := name_cons method
    cases gap with
    | nil => rfl
    | cons d gap =>
      rw [hname] at hrest
      have hsame : d = c := (List.cons.inj hrest).1
      have hd := h.gap_blank d List.mem_cons_self
      rw [hsame, hc] at hd
      cases hd
  · rintro rfl
    exact ⟨after, Text.dropLiteral?_eq_some_iff.2 rfl⟩

end CallHead

/-- The question about the method is asked one character behind the start of the call. -/
theorem shift_of_methodStage? {kind : ContextKind} {stage : Lookup.Stage}
    (h : Lookup.methodStage? kind = some stage) : stage.shift = 1 := by
  cases kind <;> cases h <;> rfl

/-- **The question about the method meets its name if nothing stands between dot and name.** With
every lookback below `2 ^ 63`, a cursor that is classified in a call has the white space after the
dot and the name of the method where the context says that the call starts. One character behind
that start the document goes on with the name exactly if there is no such white space. And the first
question of a lookup for the context, if it is about the method, is asked there: it falls into the
name without white space, and into the white space with some. -/
theorem method_question_on_name_iff (text : Text) (offset lookback : Nat) (context : Context)
    (method : BuilderMethod) (hlookback : lookback < wordSize63)
    (hclassify : classify text offset lookback = .ok (some context))
    (hmethod : context.method = some method) :
    ∃ (gap : Text) (gapSpan nameSpan : Span),
      (∀ c ∈ gap, isBlank c = true) ∧ gapSpan.Holds text gap ∧
      nameSpan.Holds text method.name.toList ∧
      gapSpan.start = context.matchStart + 1 ∧ nameSpan.start = gapSpan.stop ∧
      (Text.startsWith (splitAtOffset text (Text.shiftChars text context.matchStart 1)).2
        method.name.toList = true ↔ gap = []) ∧
      ∀ stage, Lookup.methodStage? context.kind = some stage →
        ∃ place, Lookup.positionOf text context.matchStart stage = Text.positionAt text place ∧
          (gap = [] → nameSpan.start ≤ place ∧ place < nameSpan.stop) ∧
          (gap ≠ [] → gapSpan.start ≤ place ∧ place < gapSpan.stop) := by
  have hsome : context.method ≠ none := by
    rw [hmethod]
    exact Option.some_ne_none method
  obtain ⟨method', hcall⟩ := inCall_of_classify hlookback hclassify hsome
  obtain rfl : method' = method := Option.some_inj.1 (hcall.method_eq.symm.trans hmethod)
  obtain ⟨before, gap, after, hhead⟩ := hcall.exists_callHead
  refine ⟨gap, _, _, hhead.gap_blank, hhead.gap_holds, hhead.name_holds, rfl, rfl, ?_, ?_⟩
  · rw [hhead.shiftChars_one]
    exact hhead.startsWith_iff
  · intro stage hstage
    refine ⟨context.matchStart + 1, ?_, ?_, ?_⟩
    · rw [Lookup.positionOf, Lookup.positionNear, shift_of_methodStage? hstage,
        hhead.shiftChars_one]
    · rintro rfl
      obtain ⟨c, name, hname, -⟩ := name_cons method'
      have hpos : 0 < bytes method'.name.toList := Text.bytes_pos (by simp [hname])
      dsimp only
      rw [Text.bytes_nil]
      omega
    · intro hgap
      have hpos := Text.bytes_pos hgap
      dsimp only
      omega

/-- A call whose name follows its dot, with a cursor at 9. -/
def plainCall : Text := "b.props('')".toList

/-- Without white space after the dot the question is asked about a place in the name. -/
theorem method_question_on_name_iff_plain :
    defaultLookback < wordSize63 ∧
    ∃ context, classify plainCall 9 defaultLookback = .ok (some context) ∧
      context.method = some .props ∧
      Text.startsWith (splitAtOffset plainCall (Text.shiftChars plainCall context.matchStart 1)).2
        BuilderMethod.props.name.toList = true ∧
      ∃ (nameSpan : Span) (place : Nat), nameSpan.Holds plainCall BuilderMethod.props.name.toList ∧
        Lookup.positionOf plainCall context.matchStart .accessor =
          Text.positionAt plainCall place ∧
        nameSpan.start ≤ place ∧ place < nameSpan.stop := by
  have hlookback : defaultLookback < wordSize63 := by decide
  have hfound : recognise? (lastBefore plainCall 9 defaultLookback) =
      some (.props, some .props, 1, ".props('".toList) := by decide
  have hclassify : classify plainCall 9 defaultLookback = _ := classify_eq hlookback
  rw [hfound] at hclassify
  obtain ⟨gap, gapSpan, nameSpan, -, -, hname, -, -, hstarts, hplace⟩ :=
    method_question_on_name_iff plainCall 9 defaultLookback _ .props hlookback hclassify rfl
  have hstart : Text.startsWith (splitAtOffset plainCall (Text.shiftChars plainCall 1 1)).2
      BuilderMethod.props.name.toList = true := by decide
  obtain ⟨place, hposition, hinside, -⟩ := hplace .accessor rfl
  exact ⟨hlookback, _, hclassify, rfl, hstart, nameSpan, place, hname, hposition,
    hinside (hstarts.1 hstart)⟩

/-- A call with a blank after its dot, with a cursor at 10. -/
def spacedCall : Text := "b. props('')".toList

/-- The call is recognised, its name stands between 3 and 8, and the question about its method is
asked about the blank before it. -/
theorem method_question_misses_name :
    ∃ context, classify spacedCall 10 defaultLookback = .ok (some context) ∧
      context.method = some .props ∧ context.matchStart = 1 ∧
      Text.startsWith (splitAtOffset spacedCall (Text.shiftChars spacedCall context.matchStart 1)).2
        BuilderMethod.props.name.toList = false ∧
      Span.Holds ⟨3, 8⟩ spacedCall BuilderMethod.props.name.toList ∧
      Lookup.methodStage? context.kind = some .accessor ∧
      Lookup.positionOf spacedCall context.matchStart .accessor = ⟨0, 2⟩ := by
  have hfound : recognise? (lastBefore spacedCall 10 defaultLookback) =
      some (.props, some .props, 1, ". props('".toList) := by decide
  have hclassify : classify spacedCall 10 defaultLookback = _ := classify_eq (by decide)
  rw [hfound] at hclassify
  exact ⟨_, hclassify, rfl, rfl, by decide, ⟨"b. ".toList, "('')".toList, by decide, by decide⟩, rfl,
    by decide⟩

end FluentAssist.Cursor
