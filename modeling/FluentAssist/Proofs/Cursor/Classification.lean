import FluentAssist.Proofs.Cursor.Recognition

/-!
# Which context a cursor has

The context of a cursor is decided by the window before it. If a builder call is open there, the
last one counts, and the context reports where it starts, its method and the text from there to the
cursor. Otherwise an icon keyword argument may be open at the cursor.

`classification_exact` states both conditions on the document. `innermost_unless_empty` compares the
reported call with all calls that are not closed before the cursor, those included whose arguments
have not begun: of these calls the reported one is the innermost, except that a call right before
the cursor is passed over.
-/

set_option autoImplicit false

namespace FluentAssist.Cursor

open Text (bytes floorOffset splitAtOffset)

variable {text : Text} {offset lookback : Nat}

/-- What is said of a cursor in the last of the open calls near it. -/
structure InCall (text : Text) (offset lookback : Nat) (context : Context)
    (method : BuilderMethod) : Prop where
  method_eq : context.method = some method
  kind_eq : context.kind = method.kind
  matched_eq : context.matched = textFrom text offset context.matchStart
  isOpen : OpenCallAt text offset lookback method context.matchStart
  last : ∀ method' start, OpenCallAt text offset lookback method' start →
    start ≤ context.matchStart

/-- A call that is the last one of the window is the last one near the cursor. -/
theorem inCall_of_isLast {call : OpenCall} (h : call.IsLast (lastBefore text offset lookback)) :
    InCall text offset lookback
      (contextAt text (floorOffset text offset)
        (bytes ((splitAtOffset text offset).1.rdrop lookback))
        (call.method.kind, some call.method, call.start, call.matched)) call.method := by
  obtain ⟨front, hfront, hstart⟩ := h.place
  have hbefore : (splitAtOffset text offset).1 =
      ((splitAtOffset text offset).1.rdrop lookback ++ front) ++ call.matched := by
    rw [List.append_assoc, ← hfront, rdrop_append_lastBefore]
  have hbytes : bytes ((splitAtOffset text offset).1.rdrop lookback ++ front) =
      bytes ((splitAtOffset text offset).1.rdrop lookback) + call.start := by
    rw [Text.bytes_append, hstart]
  refine ⟨rfl, rfl, ?_, ?_, ?_⟩
  · exact ((textFrom_eq_iff h.isOpen.ne_nil).2 ⟨_, hbefore, hbytes⟩).symm
  · exact openCallAt_iff.2 ⟨_, call.matched, hbefore, hbytes, ⟨front, hfront.symm⟩, h.isOpen⟩
  · intro method' start hopen
    obtain ⟨front', rest, hbefore', rfl, hsuffix, hopen⟩ := openCallAt_iff.1 hopen
    obtain ⟨more, rfl⟩ := h.last method' rest hsuffix hopen
    have htotal := congrArg bytes (hbefore.symm.trans hbefore')
    simp only [Text.bytes_append] at htotal hbytes
    show bytes front' ≤ bytes ((splitAtOffset text offset).1.rdrop lookback) + call.start
    omega

/-- A cursor is in the last open call near it, or in an icon argument, or in nothing. -/
theorem classify_cases (hlookback : lookback < wordSize63) :
    (∃ context method, classify text offset lookback = .ok (some context) ∧
      InCall text offset lookback context method) ∨
    ((∀ method start, ¬ OpenCallAt text offset lookback method start) ∧
      ((∃ context, classify text offset lookback = .ok (some context) ∧ context.kind = .icons ∧
          context.method = none ∧ IsOpenIcon (lastBefore text offset lookback)) ∨
        (classify text offset lookback = .ok none ∧
          ¬ IsOpenIcon (lastBefore text offset lookback)))) := by
  rw [classify_eq hlookback]
  rcases lastOpenCall?_cases (lastBefore text offset lookback) with
    ⟨hnone, hclosed⟩ | ⟨call, hcall, hlast⟩
  · refine Or.inr ⟨?_, ?_⟩
    · intro method start hopen
      obtain ⟨_, rest, -, -, hsuffix, hopen⟩ := openCallAt_iff.1 hopen
      exact hclosed method rest hsuffix hopen
    · rw [recognise?, hnone]
      cases hicon : openIcon? (lastBefore text offset lookback) with
      | none =>
        refine Or.inr ⟨rfl, ?_⟩
        rw [← isSome_openIcon?_iff, hicon]
        exact Bool.false_ne_true
      | some icon =>
        refine Or.inl ⟨_, rfl, rfl, rfl, ?_⟩
        rw [← isSome_openIcon?_iff, hicon]
        rfl
  · rw [recognise?, hcall]
    exact Or.inl ⟨_, call.method, rfl, inCall_of_isLast hlast⟩

/-- A context with a method is that of the last open call near the cursor. -/
theorem inCall_of_classify {context : Context} (hlookback : lookback < wordSize63)
    (hclassify : classify text offset lookback = .ok (some context))
    (hmethod : context.method ≠ none) : ∃ method, InCall text offset lookback context method := by
  rcases classify_cases hlookback with
    ⟨found, method, hfound, hcall⟩ | ⟨-, ⟨found, hfound, -, hnone, -⟩ | ⟨hfound, -⟩⟩
  · rw [hclassify] at hfound
    cases hfound
    exact ⟨method, hcall⟩
  · rw [hclassify] at hfound
    cases hfound
    exact absurd hnone hmethod
  · rw [hclassify] at hfound
    cases hfound

/-- Classification reports what the two expressions find in the window. -/
theorem exists_classify_eq_searched? (text : Text) (offset : Nat) {lookback : Nat}
    (hlookback : lookback < wordSize63) :
    ∃ found, classify text offset lookback = .ok found ∧
      (found.map fun context =>
          (context.kind, context.method, context.matchStart, context.matched)) =
        (searched? (lastBefore text offset lookback)).map fun (kind, method, start, matched) =>
          (kind, method,
            floorOffset text offset - bytes (lastBefore text offset lookback) + start,
            matched) := by
  have hwindow : bytes ((splitAtOffset text offset).1.rdrop lookback) =
      floorOffset text offset - bytes (lastBefore text offset lookback) := by
    rw [← bytes_rdrop_add_bytes_lastBefore, Nat.add_sub_cancel]
  refine ⟨_, classify_eq hlookback, ?_⟩
  rw [hwindow, recognise?_eq_searched?, Option.map_map]
  rfl

/-- **Classification is exact.** With every lookback below `2 ^ 63` a cursor can be classified. It
is in a call exactly if a builder call starts among the last `lookback` characters, has arguments
and is not closed; then the last such call is reported, with its method, the kind of the method, its
start and the text from there to the cursor. Without such a call, the cursor is in an icon argument
exactly if the last quotation mark among these characters stands behind an icon keyword that starts
at a word boundary, with no line break after it; else it has no context. All that is reported is
what two regular expressions find in these characters. -/
theorem classification_exact (text : Text) (offset lookback : Nat)
    (hlookback : lookback < wordSize63) :
    ∃ found, classify text offset lookback = .ok found ∧
      ((∃ context, found = some context ∧ context.method ≠ none) ↔
        ∃ method start, OpenCallAt text offset lookback method start) ∧
      (∀ context method, found = some context → context.method = some method →
        OpenCallAt text offset lookback method context.matchStart ∧
        (∀ method' start, OpenCallAt text offset lookback method' start →
          start ≤ context.matchStart) ∧
        context.kind = method.kind ∧
        context.matched = textFrom text offset context.matchStart) ∧
      ((¬ ∃ method start, OpenCallAt text offset lookback method start) →
        ((∃ context, found = some context ∧ context.kind = .icons ∧ context.method = none) ↔
          IsOpenIcon (lastBefore text offset lookback)) ∧
        (found = none ↔ ¬ IsOpenIcon (lastBefore text offset lookback))) ∧
      (found.map fun context =>
          (context.kind, context.method, context.matchStart, context.matched)) =
        (searched? (lastBefore text offset lookback)).map fun (kind, method, start, matched) =>
          (kind, method,
            floorOffset text offset - bytes (lastBefore text offset lookback) + start,
            matched) := by
  obtain ⟨found, hfound, hsearched⟩ := exists_classify_eq_searched? text offset hlookback
  rcases classify_cases hlookback with ⟨context, method, hclassify, hcall⟩ | ⟨hclosed, hrest⟩
  · obtain rfl : found = some context := Except.ok.inj (hfound.symm.trans hclassify)
    have hopen : ∃ method start, OpenCallAt text offset lookback method start :=
      ⟨method, _, hcall.isOpen⟩
    have hmethod : context.method ≠ none := by
      rw [hcall.method_eq]
      exact Option.some_ne_none method
    refine ⟨_, hfound, ⟨fun _ => hopen, fun _ => ⟨context, rfl, hmethod⟩⟩, ?_,
      fun hnone => absurd hopen hnone, hsearched⟩
    intro context' method' hcontext hmethod'
    cases hcontext
    rw [hcall.method_eq] at hmethod'
    cases hmethod'
    exact ⟨hcall.isOpen, hcall.last, hcall.kind_eq, hcall.matched_eq⟩
  · have hnone : ¬ ∃ method start, OpenCallAt text offset lookback method start :=
      fun ⟨method, start, hopen⟩ => hclosed method start hopen
    rcases hrest with ⟨context, hclassify, hkind, hmethod, hicon⟩ | ⟨hclassify, hicon⟩
    · obtain rfl : found = some context := Except.ok.inj (hfound.symm.trans hclassify)
      refine ⟨_, hfound, iff_of_false ?_ hnone, ?_, fun _ => ⟨⟨fun _ => hicon, fun _ =>
        ⟨context, rfl, hkind, hmethod⟩⟩, by simp [hicon]⟩, hsearched⟩
      · rintro ⟨_, hcontext, hne⟩
        cases hcontext
        exact hne hmethod
      · intro context' method' hcontext hmethod'
        cases hcontext
        rw [hmethod] at hmethod'
        cases hmethod'
    · obtain rfl : found = none := Except.ok.inj (hfound.symm.trans hclassify)
      exact ⟨_, hfound, by simp [hnone], by simp, fun _ => by simp [hicon], hsearched⟩

/-- Two nested calls: a cursor at 33 is in the arguments of the inner one, a cursor at 30 right
behind its parenthesis. -/
def nestedCalls : Text := "b.on('click', lambda: c.props('de".toList

/-- Inside the arguments of the inner call the last call that is open is `props`. -/
theorem openCallAt_nestedCalls : OpenCallAt nestedCalls 33 defaultLookback .props 23 :=
  ⟨⟨['\'', 'd', 'e'], ⟨[], [], by simp, by simp, by decide⟩, by decide, by decide⟩, by decide⟩

/-- In the arguments of the inner call, that call is reported and none starts later. -/
theorem classification_exact_nested :
    defaultLookback < wordSize63 ∧ OpenCallAt nestedCalls 33 defaultLookback .props 23 ∧
    ∃ context, classify nestedCalls 33 defaultLookback = .ok (some context) ∧
      context.method ≠ none ∧ 23 ≤ context.matchStart := by
  have hlookback : defaultLookback < wordSize63 := by decide
  obtain ⟨found, hfound, hcall, hreport, -⟩ :=
    classification_exact nestedCalls 33 defaultLookback hlookback
  obtain ⟨context, rfl, hmethod⟩ := hcall.2 ⟨.props, 23, openCallAt_nestedCalls⟩
  obtain ⟨method, hmethod'⟩ := Option.ne_none_iff_exists'.1 hmethod
  obtain ⟨-, hlast, -⟩ := hreport context method rfl hmethod'
  exact ⟨hlookback, openCallAt_nestedCalls, context, hfound, hmethod,
    hlast .props 23 openCallAt_nestedCalls⟩

/-- A call after the one that is reported, if it is not closed, has no arguments yet. -/
theorem InCall.arguments_eq_nil {context : Context} {method method' : BuilderMethod}
    {arguments : Text} {start : Nat} (hcall : InCall text offset lookback context method)
    (hunclosed : UnclosedAt text offset method' arguments start)
    (hlater : context.matchStart < start) : arguments = [] := by
  obtain ⟨hopens, hclosing⟩ := hunclosed
  obtain ⟨hopen, hlength⟩ := hcall.isOpen
  by_contra hne
  have hsuffix := textFrom_suffix hopen.ne_nil hopens.ne_nil (Nat.le_of_lt hlater)
  have hlength' := hsuffix.length_le
  have hlast := hcall.last method' start ⟨⟨arguments, hopens, hne, hclosing⟩, by omega⟩
  omega

/-- A call whose arguments have not begun at the cursor starts after every open call. -/
theorem OpenCallAt.lt_of_unclosedAt {method method' : BuilderMethod} {start start' : Nat}
    (hopen : OpenCallAt text offset lookback method start)
    (hunclosed : UnclosedAt text offset method' [] start') : start < start' := by
  obtain ⟨⟨arguments, hopens, hne, -⟩, -⟩ := hopen
  obtain ⟨hopens', -⟩ := hunclosed
  by_contra hle
  have hsuffix := textFrom_suffix hopens'.ne_nil hopens.ne_nil (Nat.le_of_not_lt hle)
  have hsame := hopens'.eq_of_suffix hopens hsuffix
  rw [← hsame] at hopens'
  exact hne (hopens.unique hopens').2

/-- **The innermost call counts unless its arguments have not begun.** With every lookback below
`2 ^ 63`, a call that starts after the reported one and is not closed before the cursor ends with
its opening parenthesis right at the cursor. And there it is passed over: whenever a call is open in
the window and the cursor stands right behind the parenthesis of another one, the context is that of
a call which starts before it. -/
theorem innermost_unless_empty (text : Text) (offset lookback : Nat)
    (hlookback : lookback < wordSize63) :
    ∃ found, classify text offset lookback = .ok found ∧
      (∀ context, found = some context → context.method ≠ none →
        ∀ method arguments start, UnclosedAt text offset method arguments start →
          context.matchStart < start → arguments = []) ∧
      (∀ method start, UnclosedAt text offset method [] start →
        (∃ outer start', OpenCallAt text offset lookback outer start') →
        ∃ context, found = some context ∧ context.method ≠ none ∧ context.matchStart < start) := by
  rcases classify_cases hlookback with ⟨context, method, hclassify, hcall⟩ | ⟨hclosed, hrest⟩
  · refine ⟨some context, hclassify, ?_, ?_⟩
    · intro context' hcontext _ method' arguments start hunclosed hlater
      cases hcontext
      exact hcall.arguments_eq_nil hunclosed hlater
    · intro method' start hunclosed _
      refine ⟨context, rfl, ?_, hcall.isOpen.lt_of_unclosedAt hunclosed⟩
      rw [hcall.method_eq]
      exact Option.some_ne_none method
  · rcases hrest with ⟨context, hclassify, -, hmethod, -⟩ | ⟨hclassify, -⟩
    · refine ⟨some context, hclassify, ?_, fun _ _ _ ⟨outer, start', hopen⟩ =>
        absurd hopen (hclosed outer start')⟩
      intro context' hcontext hne
      cases hcontext
      exact absurd hmethod hne
    · refine ⟨none, hclassify, by simp, fun _ _ _ ⟨outer, start', hopen⟩ =>
        absurd hopen (hclosed outer start')⟩

/-- Behind the parenthesis of the inner call nothing of its arguments is typed yet. -/
theorem unclosedAt_nestedCalls : UnclosedAt nestedCalls 30 .props [] 23 :=
  ⟨⟨[], [], by simp, by simp, by decide⟩, by decide⟩

/-- Right behind the parenthesis of the inner call the outer one is open, so an earlier call than
the inner one is reported, and no call between them has arguments. -/
theorem innermost_unless_empty_nested :
    defaultLookback < wordSize63 ∧ UnclosedAt nestedCalls 30 .props [] 23 ∧
    OpenCallAt nestedCalls 30 defaultLookback .on 1 ∧
    ∃ context, classify nestedCalls 30 defaultLookback = .ok (some context) ∧
      context.matchStart < 23 ∧
      ∀ method arguments start, UnclosedAt nestedCalls 30 method arguments start →
        context.matchStart < start → arguments = [] := by
  have hlookback : defaultLookback < wordSize63 := by decide
  have houter : OpenCallAt nestedCalls 30 defaultLookback .on 1 :=
    ⟨⟨"'click', lambda: c.props(".toList, ⟨[], [], by simp, by simp, by decide⟩, by decide,
      by decide⟩, by decide⟩
  obtain ⟨found, hfound, hinner, hpassed⟩ :=
    innermost_unless_empty nestedCalls 30 defaultLookback hlookback
  obtain ⟨context, rfl, hmethod, hstart⟩ :=
    hpassed .props 23 unclosedAt_nestedCalls ⟨.on, 1, houter⟩
  exact ⟨hlookback, unclosedAt_nestedCalls, houter, context, hfound, hstart,
    hinner context rfl hmethod⟩

/-- The cursor stands in the empty argument list of the inner call, and the outer call is
reported. -/
theorem innermost_call_passed_over :
    UnclosedAt nestedCalls 30 .props [] 23 ∧
    ∃ context, classify nestedCalls 30 defaultLookback = .ok (some context) ∧
      context.kind = .events ∧ context.method = some .on ∧ context.matchStart = 1 := by
  have hfound : recognise? (lastBefore nestedCalls 30 defaultLookback) =
      some (.events, some .on, 1, ".on('click', lambda: c.props(".toList) := by decide
  have hclassify : classify nestedCalls 30 defaultLookback = _ := classify_eq (by decide)
  rw [hfound] at hclassify
  exact ⟨unclosedAt_nestedCalls, _, hclassify, rfl, rfl, rfl⟩

end FluentAssist.Cursor
