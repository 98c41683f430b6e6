import FluentAssist.Proofs.Cursor.OpenCalls
import FluentAssist.Proofs.Text.Expression

/-!
# Recognition by regular expressions

What a window says about the cursor can be asked of two regular expressions. The first one reads as
much as it can and then an open call up to the end of the window; it is preferred to stop as late as
possible, so the call that it finds is the last one. The second one looks for an icon keyword with
an open literal.

`recognise?_eq_searched?` says that recognition gives what these two expressions find.
-/

set_option autoImplicit false

namespace FluentAssist.Cursor

open Text (bytes isBlank)
open Expression (Reading)

/-- An open call from its dot on; the second group is the name of the method. -/
def callPart : Expression :=
  (Expression.literal ['.']).seq <| (Expression.many isBlank).seq <|
    (Expression.group 2 (.oneOf (BuilderMethod.all.map (·.name.toList)))).seq <|
    (Expression.many isBlank).seq <| (Expression.literal ['(']).seq <|
    (Expression.many isBlank).seq <| (Expression.one (· != ')')).seq <| .many (· != ')')

/-- An open call up to the end; the first group is the call. -/
def callToEnd : Expression := (Expression.group 1 callPart).seq .atEnd

/-- Anything, and then an open call up to the end. -/
def callExpression : Expression :=
  Expression.atStart.seq <| (Expression.many fun _ => true).seq callToEnd

/-- The characters inside a literal on one line. -/
def isLiteralChar (c : Char) : Bool := !isQuote c && !Text.isNewline c

/-- An icon keyword with an open literal. -/
def iconPart : Expression :=
  Expression.atWordBoundary.seq <|
    (Expression.group 1 (.oneOf (iconKeywords.map String.toList))).seq <|
    (Expression.literal ['=']).seq <| (Expression.one isQuote).seq <| .many isLiteralChar

/-- An icon keyword with an open literal up to the end. -/
def iconExpression : Expression := iconPart.seq .atEnd

/-- What the two expressions say about the cursor: kind, method, start and text of the match. -/
def searched? (window : Text) : Option (ContextKind × Option BuilderMethod × Nat × Text) :=
  match callExpression.search? window with
  | some (_, reading) => do
    let (_, name) ← reading.group? 2
    let method ← BuilderMethod.ofName? (String.ofList name)
    let (before, matched) ← reading.group? 1
    return (method.kind, some method, bytes before, matched)
  | none =>
    (iconExpression.search? window).map fun (before, reading) =>
      (.icons, none, bytes before, reading.text)

/-! ## The call -/

variable {before rest : Text} {reading : Reading} {method : BuilderMethod}

/-- Every reading of the expression for calls opens a call of the method that it captures, with
arguments that are not empty and have no closing parenthesis. -/
theorem opens_of_mem_readings (h : reading ∈ callPart.readings before rest) :
    ∃ method front arguments, Opens method arguments reading.text ∧ arguments ≠ [] ∧
      ')' ∉ arguments ∧ reading.groups = [(2, front, method.name.toList)] := by
  unfold callPart at h
  obtain ⟨_, hdot, _, hafterDot, rfl⟩ := Expression.mem_readings_seq.1 h
  obtain ⟨_, hmem, -, -, rfl⟩ := Expression.mem_readings_oneOf.1 hdot
  obtain rfl := List.mem_singleton.1 hmem
  obtain ⟨_, hblank, _, hafterGap, rfl⟩ := Expression.mem_readings_seq.1 hafterDot
  obtain ⟨gap, -, -, hgap, rfl⟩ := Expression.mem_readings_many.1 hblank
  obtain ⟨_, hgroup, _, hafterName, rfl⟩ := Expression.mem_readings_seq.1 hafterGap
  obtain ⟨_, hname, rfl⟩ := Expression.mem_readings_group.1 hgroup
  obtain ⟨_, hmethod, -, -, rfl⟩ := Expression.mem_readings_oneOf.1 hname
  obtain ⟨method, -, rfl⟩ := List.mem_map.1 hmethod
  obtain ⟨_, hblank', _, hafterGap', rfl⟩ := Expression.mem_readings_seq.1 hafterName
  obtain ⟨gap', -, -, hgap', rfl⟩ := Expression.mem_readings_many.1 hblank'
  obtain ⟨_, hparen, _, harguments, rfl⟩ := Expression.mem_readings_seq.1 hafterGap'
  obtain ⟨_, hmem', -, -, rfl⟩ := Expression.mem_readings_oneOf.1 hparen
  obtain rfl := List.mem_singleton.1 hmem'
  obtain ⟨_, hblank'', _, hbegun, rfl⟩ := Expression.mem_readings_seq.1 harguments
  obtain ⟨blanks, -, -, hblanks, rfl⟩ := Expression.mem_readings_many.1 hblank''
  obtain ⟨_, hfirst, _, hrun, rfl⟩ := Expression.mem_readings_seq.1 hbegun
  obtain ⟨c, -, -, hc, rfl⟩ := Expression.mem_readings_one.1 hfirst
  obtain ⟨more, -, -, hmore, rfl⟩ := Expression.mem_readings_many.1 hrun
  refine ⟨method, _, blanks ++ c :: more, ⟨gap, gap', hgap, hgap', ?_⟩, by simp, ?_, rfl⟩
  · simp [Reading.append]
  · intro hclosing
    rcases List.mem_append.1 hclosing with hblank | hclosing
    · exact absurd (hblanks _ hblank) (by decide)
    · rcases List.mem_cons.1 hclosing with rfl | hclosing
      · exact absurd hc (by decide)
      · exact absurd (hmore _ hclosing) (by decide)

/-- Whatever is read as a call up to the end is an open call, and the groups are the call and its
name. -/
theorem isOpenCall_of_mem_readings (h : reading ∈ callToEnd.readings before rest) :
    ∃ method, IsOpenCall method rest ∧ reading.group? 1 = some (before, rest) ∧
      ∃ front, reading.group? 2 = some (front, method.name.toList) := by
  obtain ⟨_, hgroup, _, hend, rfl⟩ := Expression.mem_readings_seq.1 h
  obtain ⟨call, hcall, rfl⟩ := Expression.mem_readings_group.1 hgroup
  obtain ⟨after, rfl⟩ := Expression.exists_append_of_mem_readings hcall
  rw [List.drop_left] at hend
  obtain ⟨rfl, rfl⟩ := Expression.mem_readings_atEnd.1 hend
  obtain ⟨method, front, arguments, hopens, hne, hopen, hgroups⟩ := opens_of_mem_readings hcall
  rw [List.append_nil]
  refine ⟨method, ⟨arguments, hopens, hne, hopen⟩, ?_, front, ?_⟩
  · simp [Reading.append, Reading.group?]
  · simp only [Reading.append, Reading.group?, hgroups]
    rfl

/-- An open call can be read as one. -/
theorem readsAll_of_isOpenCall (h : IsOpenCall method rest) : callToEnd.ReadsAll before rest := by
  obtain ⟨arguments, ⟨gap, gap', hgap, hgap', rfl⟩, hne, hopen⟩ := h
  obtain ⟨c, more, rfl⟩ := List.exists_cons_of_ne_nil hne
  have hclass : ∀ d ∈ c :: more, (d != ')') = true := by
    intro d hd
    rw [bne_iff_ne]
    rintro rfl
    exact hopen hd
  have hmethod : method.name.toList ∈ BuilderMethod.all.map (·.name.toList) :=
    List.mem_map.2 ⟨method, mem_all method, rfl⟩
  have hcall : callPart.ReadsAll before
      ('.' :: (gap ++ (method.name.toList ++ (gap' ++ '(' :: c :: more)))) := by
    refine .seq (Expression.mem_readings_oneOf.2 ⟨['.'], by simp, _, rfl, rfl⟩) rfl ?_
    refine .seq (Expression.mem_readings_many.2 ⟨gap, _, rfl, hgap, rfl⟩) rfl ?_
    refine .seq (Expression.mem_readings_group.2
      ⟨_, Expression.mem_readings_oneOf.2 ⟨_, hmethod, _, rfl, rfl⟩, rfl⟩) rfl ?_
    refine .seq (Expression.mem_readings_many.2 ⟨gap', _, rfl, hgap', rfl⟩) rfl ?_
    refine .seq (Expression.mem_readings_oneOf.2 ⟨['('], by simp, _, rfl, rfl⟩) rfl ?_
    refine .seq (Expression.mem_readings_many.2 ⟨[], _, rfl, by simp, rfl⟩) rfl ?_
    refine .seq (Expression.mem_readings_one.2
      ⟨c, more, rfl, hclass c (List.mem_cons_self ..), rfl⟩) rfl ?_
    exact Expression.readsAll_many fun d hd => hclass d (List.mem_cons_of_mem c hd)
  obtain ⟨call, hreading, htext⟩ := hcall
  refine .seq (Expression.mem_readings_group.2 ⟨call, hreading, rfl⟩) ?_ Expression.readsAll_atEnd
  rw [List.append_nil]
  exact htext.symm

/-- What is read at a place agrees with the call that is open there. -/
theorem head?_readings_callToEnd (before rest : Text) :
    ((callToEnd.readings before rest).head? = none ∧ openCallAt? rest = none) ∨
      ∃ reading method, (callToEnd.readings before rest).head? = some reading ∧
        openCallAt? rest = some method ∧ reading.group? 1 = some (before, rest) ∧
        ∃ front, reading.group? 2 = some (front, method.name.toList) := by
  cases hhead : (callToEnd.readings before rest).head? with
  | none =>
    refine Or.inl ⟨rfl, ?_⟩
    by_contra hsome
    obtain ⟨method, hmethod⟩ := Option.ne_none_iff_exists'.1 hsome
    have hreads : callToEnd.ReadsAll before rest :=
      readsAll_of_isOpenCall (openCallAt?_eq_some_iff.1 hmethod)
    obtain ⟨reading, hreading, -⟩ := hreads
    rw [List.head?_eq_none_iff.1 hhead] at hreading
    cases hreading
  | some reading =>
    obtain ⟨method, hopen, hcall, hname⟩ :=
      isOpenCall_of_mem_readings (List.mem_of_head? hhead)
    exact Or.inr ⟨reading, method, rfl, openCallAt?_eq_some_iff.2 hopen, hcall, hname⟩

/-- Reading on is preferred to stopping, so the call that is read is the last one. -/
theorem head?_readings_many_callToEnd (before window : Text) :
    ((((Expression.many fun _ => true).seq callToEnd).readings before window).head? = none ∧
      lastOpenCall? window = none) ∨
    ∃ reading call front,
      (((Expression.many fun _ => true).seq callToEnd).readings before window).head? =
        some reading ∧
      lastOpenCall? window = some call ∧ reading.group? 1 = some (front, call.matched) ∧
      bytes front = bytes before + call.start ∧
      ∃ front', reading.group? 2 = some (front', call.method.name.toList) := by
  induction window generalizing before with
  | nil =>
    rw [Expression.readings_many_seq_nil]
    rcases head?_readings_callToEnd before [] with ⟨hnone, -⟩ | ⟨_, method, -, hopen, -⟩
    · exact Or.inl ⟨hnone, rfl⟩
    · exact absurd rfl (openCallAt?_eq_some_iff.1 hopen).ne_nil
  | cons c window ih =>
    rw [Expression.readings_many_seq_cons rfl, List.head?_append, List.head?_map]
    rcases ih (before ++ [c]) with
      ⟨hnone, hlast⟩ | ⟨reading, call, front, hhead, hlast, hcall, hfront, hname⟩
    · rw [hnone, Option.map_none, Option.none_or]
      rcases head?_readings_callToEnd before (c :: window) with
        ⟨hhere, hclosed⟩ | ⟨reading, method, hhere, hopen, hcall, hname⟩
      · exact Or.inl ⟨hhere, by simp [lastOpenCall?, hlast, hclosed]⟩
      · exact Or.inr ⟨reading, ⟨0, method, c :: window⟩, before, hhere,
          by simp [lastOpenCall?, hlast, hopen], hcall, by simp, hname⟩
    · rw [hhead, Option.map_some, Option.some_or]
      refine Or.inr ⟨_, { call with start := c.utf8Size + call.start }, front, rfl,
        by simp [lastOpenCall?, hlast], hcall, ?_, hname⟩
      rw [hfront, Text.bytes_append, Nat.add_assoc]
      rfl

/-! ## The icon argument -/

/-- The keywords that open an icon are these two. -/
theorem keyword_iff {keyword : Text} :
    keyword ∈ iconKeywords.map String.toList ↔
      keyword = "icon".toList ∨ keyword = "icon-right".toList := by
  simp [iconKeywords]

/-- A text can stand in a literal if it has neither a quotation mark nor a line feed. -/
theorem isLiteralChar_iff {tail : Text} :
    (∀ c ∈ tail, isLiteralChar c = true) ↔ (∀ c ∈ tail, isQuote c = false) ∧ '\n' ∉ tail := by
  simp only [isLiteralChar, Bool.and_eq_true, Bool.not_eq_true', Text.isNewline,
    beq_eq_false_iff_ne]
  constructor
  · intro h
    exact ⟨fun c hc => (h c hc).1, fun hmem => (h _ hmem).2 rfl⟩
  · rintro ⟨hquotes, hbreak⟩ c hc
    exact ⟨hquotes c hc, fun heq => hbreak (heq ▸ hc)⟩

/-- Whatever is read as an icon argument up to the end is one. -/
theorem opensIcon_of_mem_readings (h : reading ∈ iconExpression.readings before rest) :
    opensIcon before.getLast? rest = true ∧ reading.text = rest := by
  obtain ⟨icon, hicon, _, hend, rfl⟩ := Expression.mem_readings_seq.1 h
  obtain ⟨after, rfl⟩ := Expression.exists_append_of_mem_readings hicon
  rw [List.drop_left] at hend
  obtain ⟨rfl, rfl⟩ := Expression.mem_readings_atEnd.1 hend
  refine ⟨opensIcon_iff.2 ?_, rfl⟩
  unfold iconPart at hicon
  obtain ⟨_, hplace, _, hword, rfl⟩ := Expression.mem_readings_seq.1 hicon
  obtain ⟨hboundary, rfl⟩ := Expression.mem_readings_atWordBoundary.1 hplace
  obtain ⟨_, hgroup, _, hafterKeyword, rfl⟩ := Expression.mem_readings_seq.1 hword
  obtain ⟨_, hkeyword, rfl⟩ := Expression.mem_readings_group.1 hgroup
  obtain ⟨keyword, hmem, -, -, rfl⟩ := Expression.mem_readings_oneOf.1 hkeyword
  obtain ⟨_, hequals, _, hliteral, rfl⟩ := Expression.mem_readings_seq.1 hafterKeyword
  obtain ⟨_, hmem', -, -, rfl⟩ := Expression.mem_readings_oneOf.1 hequals
  obtain rfl := List.mem_singleton.1 hmem'
  obtain ⟨_, hone, _, hrun, rfl⟩ := Expression.mem_readings_seq.1 hliteral
  obtain ⟨quote, -, -, hquote, rfl⟩ := Expression.mem_readings_one.1 hone
  obtain ⟨tail, -, -, htail, rfl⟩ := Expression.mem_readings_many.1 hrun
  exact ⟨keyword, quote, tail, by simp [Reading.append], keyword_iff.1 hmem, hboundary, hquote,
    isLiteralChar_iff.1 htail⟩

/-- An icon argument that is open at the end can be read as one. -/
theorem readsAll_of_opensIcon (h : opensIcon before.getLast? rest = true) :
    iconExpression.ReadsAll before rest := by
  obtain ⟨keyword, quote, tail, rfl, hkeyword, hboundary, hquote, htail⟩ := opensIcon_iff.1 h
  have hicon : iconPart.ReadsAll before (keyword ++ '=' :: quote :: tail) := by
    refine .seq (Expression.mem_readings_atWordBoundary.2 ⟨hboundary, rfl⟩) rfl ?_
    refine .seq (Expression.mem_readings_group.2 ⟨_, Expression.mem_readings_oneOf.2
      ⟨keyword, keyword_iff.2 hkeyword, _, rfl, rfl⟩, rfl⟩) rfl ?_
    refine .seq (Expression.mem_readings_oneOf.2 ⟨['='], by simp, _, rfl, rfl⟩) rfl ?_
    refine .seq (Expression.mem_readings_one.2 ⟨quote, tail, rfl, hquote, rfl⟩) rfl ?_
    exact Expression.readsAll_many (isLiteralChar_iff.2 htail)
  obtain ⟨icon, hreading, htext⟩ := hicon
  refine .seq hreading ?_ Expression.readsAll_atEnd
  rw [List.append_nil, htext]

/-- What is read at a place agrees with the icon argument that is open there. -/
theorem head?_readings_iconExpression (before rest : Text) :
    (iconExpression.readings before rest).head?.map (·.text) =
      if opensIcon before.getLast? rest then some rest else none := by
  cases hhead : (iconExpression.readings before rest).head? with
  | none =>
    rw [if_neg]
    · rfl
    · intro hopens
      obtain ⟨reading, hreading, -⟩ := readsAll_of_opensIcon hopens
      rw [List.head?_eq_none_iff.1 hhead] at hreading
      cases hreading
  | some reading =>
    obtain ⟨hopens, htext⟩ := opensIcon_of_mem_readings (List.mem_of_head? hhead)
    rw [if_pos hopens, Option.map_some, htext]

/-- The expression for icons finds the first place where an icon is opened. -/
theorem searchFrom?_iconExpression (before rest : Text) :
    ((iconExpression.searchFrom? before rest).map fun (front, reading) =>
        (bytes front, reading.text)) =
      (Text.findPlace? (fun previous text => if opensIcon previous text then some text else none)
        before.getLast? rest).map fun (offset, text) => (bytes before + offset, text) := by
  induction rest generalizing before with
  | nil =>
    rw [Expression.searchFrom?, Text.findPlace?, ← head?_readings_iconExpression]
    simp only [Option.map_map]
    rfl
  | cons c rest ih =>
    have hhere := head?_readings_iconExpression before (c :: rest)
    rw [Expression.searchFrom?, Text.findPlace?, ← hhere]
    cases hhead : (iconExpression.readings before (c :: rest)).head? with
    | some reading => rfl
    | none =>
      have hlater := ih (before ++ [c])
      rw [List.getLast?_concat] at hlater
      simp only [Option.map_none, hlater, Option.map_map]
      congr 1
      funext found
      simp [Nat.add_assoc]

/-- The icon that is open is the one that the expression for icons finds. -/
theorem openIcon?_eq (window : Text) :
    openIcon? window =
      (iconExpression.search? window).map fun (front, reading) => (bytes front, reading.text) := by
  have hicon := searchFrom?_iconExpression [] window
  simp only [Text.bytes_nil, Nat.zero_add, List.getLast?_nil] at hicon
  rw [Expression.search?, hicon]
  exact (congrFun Option.map_id _).symm

/-- Every method is found by its name. -/
theorem ofName?_name (method : BuilderMethod) :
    BuilderMethod.ofName? method.name = some method := by
  cases method <;> decide

/-- **Recognition is what the two expressions find.** -/
theorem recognise?_eq_searched? (window : Text) : recognise? window = searched? window := by
  rw [recognise?, searched?, callExpression, Expression.search?_atStart_seq]
  rcases head?_readings_many_callToEnd [] window with
    ⟨hhead, hlast⟩ | ⟨reading, call, front, hhead, hlast, hcall, hfront, front', hname⟩
  · rw [hhead, hlast, openIcon?_eq]
    simp only [Option.map_none, Option.map_map]
    rfl
  · rw [hhead, hlast]
    simp [hname, hcall, hfront, ofName?_name]

end FluentAssist.Cursor
