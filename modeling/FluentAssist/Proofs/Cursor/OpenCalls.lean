import FluentAssist.Proofs.Cursor.Window
import FluentAssist.Proofs.Text.Search

/-!
# Calls that are open at the cursor

A text `Opens` a builder call if it reads as a dot, the name of a builder method and an opening
parenthesis, with nothing but white space after the dot and after the name; what follows are the
arguments. The call is open at the end of the text if it has arguments and none of them closes it.
-/

set_option autoImplicit false

namespace FluentAssist.Cursor

open Text (bytes floorOffset splitAtOffset isBlank trimStart)

/-- `text` is a dot, the name of `method` and an opening parenthesis, with white space allowed after
the dot and after the name, and then `arguments`. -/
def Opens (method : BuilderMethod) (arguments text : Text) : Prop :=
  ∃ gap gap', (∀ c ∈ gap, isBlank c = true) ∧ (∀ c ∈ gap', isBlank c = true) ∧
    text = '.' :: (gap ++ (method.name.toList ++ (gap' ++ '(' :: arguments)))

/-- A call of `method` whose arguments have begun and are not closed. -/
def IsOpenCall (method : BuilderMethod) (text : Text) : Prop :=
  ∃ arguments, Opens method arguments text ∧ arguments ≠ [] ∧ ')' ∉ arguments

/-! ## One call -/

/-- The characters that can stand in the name of a method. -/
def isNameChar (c : Char) : Bool := !isBlank c && c != '('

/-- The name of a method begins with a character that is no white space. -/
theorem name_cons (method : BuilderMethod) :
    ∃ c rest, method.name.toList = c :: rest ∧ isBlank c = false := by
  cases method <;> exact ⟨_, _, rfl, by decide⟩

/-- Names of methods consist of the characters of names. -/
theorem isNameChar_of_mem_name (method : BuilderMethod) :
    ∀ c ∈ method.name.toList, isNameChar c = true := by
  have hall : method.name.toList.all isNameChar = true := by cases method <;> decide
  exact List.all_eq_true.1 hall

/-- Methods have different names. -/
theorem name_injective {method method' : BuilderMethod}
    (h : method.name.toList = method'.name.toList) : method = method' := by
  revert h
  cases method <;> cases method' <;> decide

/-- The list of methods has all of them. -/
theorem mem_all (method : BuilderMethod) : method ∈ BuilderMethod.all := by
  cases method <;> decide

variable {method : BuilderMethod} {arguments text : Text}

/-- What opens a call of a method is found exactly where it stands. -/
theorem opensWith?_eq_some_iff :
    opensWith? text method = some arguments ↔ Opens method arguments text := by
  constructor
  · intro h
    unfold opensWith? at h
    split at h
    · next rest =>
      split at h
      · next afterName hname =>
        split at h
        · next arguments' hopen =>
          cases h
          obtain ⟨gap, hgap, hblank⟩ := Text.exists_append_trimStart rest
          obtain ⟨gap', hgap', hblank'⟩ := Text.exists_append_trimStart afterName
          rw [Text.dropLiteral?_eq_some_iff] at hname
          refine ⟨gap, gap', hblank, hblank', ?_⟩
          rw [← hopen, ← hgap', ← hname, ← hgap]
        · cases h
      · cases h
    · cases h
  · rintro ⟨gap, gap', hblank, hblank', rfl⟩
    obtain ⟨c, rest, hname, hc⟩ := name_cons method
    have hparen : trimStart (gap' ++ '(' :: arguments) = '(' :: arguments :=
      Text.trimStart_append hblank' (by decide) arguments
    have htrim : trimStart (gap ++ (method.name.toList ++ (gap' ++ '(' :: arguments))) =
        method.name.toList ++ (gap' ++ '(' :: arguments) := by
      rw [hname]
      exact Text.trimStart_append hblank hc _
    simp only [opensWith?, htrim, Text.dropLiteral?_eq_some_iff.2 rfl, hparen]

/-- The name of the method is read up to a blank or the parenthesis, so a text opens one call. -/
theorem Opens.unique {method' : BuilderMethod} {arguments' : Text}
    (h : Opens method arguments text) (h' : Opens method' arguments' text) :
    method = method' ∧ arguments = arguments' := by
  have hread : ∀ {method : BuilderMethod} {arguments rest : Text},
      Opens method arguments ('.' :: rest) →
      (trimStart rest).takeWhile isNameChar = method.name.toList := by
    rintro method arguments rest ⟨gap, gap', hblank, hblank', htext⟩
    rw [List.cons.injEq] at htext
    obtain ⟨c, tail, hname, hc⟩ := name_cons method
    have hstop : (gap' ++ '(' :: arguments).takeWhile isNameChar = [] := by
      cases gap' with
      | nil => simp [isNameChar]
      | cons d gap' => simp [isNameChar, hblank' d (List.mem_cons_self ..)]
    have htrim : trimStart rest = method.name.toList ++ (gap' ++ '(' :: arguments) := by
      rw [htext.2, hname]
      exact Text.trimStart_append hblank hc _
    rw [htrim, List.takeWhile_append_of_pos (isNameChar_of_mem_name method), hstop,
      List.append_nil]
  obtain ⟨rest, rfl⟩ : ∃ rest, text = '.' :: rest := by
    obtain ⟨_, _, _, _, htext⟩ := h
    exact ⟨_, htext⟩
  have hmethod : method = method' := name_injective ((hread h).symm.trans (hread h'))
  subst hmethod
  rw [← opensWith?_eq_some_iff] at h h'
  exact ⟨rfl, Option.some_inj.1 (h.symm.trans h')⟩

/-- Nothing opens no call. -/
theorem Opens.ne_nil (h : Opens method arguments text) : text ≠ [] := by
  obtain ⟨gap, gap', -, -, rfl⟩ := h
  exact List.cons_ne_nil _ _

/-- There is one dot up to the parenthesis, so a call whose arguments have not begun contains no
other call. -/
theorem Opens.eq_of_suffix {method' : BuilderMethod} {arguments' rest : Text}
    (h : Opens method [] text) (h' : Opens method' arguments' rest) (hsuffix : rest <:+ text) :
    rest = text := by
  obtain ⟨gap, gap', hgap, hgap', rfl⟩ := h
  obtain ⟨front, hfront⟩ := hsuffix
  cases front with
  | nil => exact hfront
  | cons c front =>
    rw [List.cons_append, List.cons.injEq] at hfront
    have hdot : '.' ∈ gap ++ (method.name.toList ++ (gap' ++ ['('])) := by
      obtain ⟨_, _, -, -, rfl⟩ := h'
      rw [← hfront.2]
      simp
    simp only [List.mem_append, List.mem_singleton] at hdot
    rcases hdot with hdot | hdot | hdot | hdot
    · exact absurd (hgap _ hdot) (by decide)
    · exact absurd hdot (by cases method <;> decide)
    · exact absurd (hgap' _ hdot) (by decide)
    · exact absurd hdot (by decide)

/-- The method and the arguments of a call are found exactly where it is opened. -/
theorem opener?_eq_some_iff :
    opener? text = some (method, arguments) ↔ Opens method arguments text := by
  have hsound : ∀ {method : BuilderMethod} {arguments : Text},
      opener? text = some (method, arguments) → Opens method arguments text := by
    intro method arguments h
    obtain ⟨method', -, hmethod⟩ := List.exists_of_findSome?_eq_some h
    obtain ⟨arguments', harguments, hpair⟩ := Option.map_eq_some_iff.1 hmethod
    cases hpair
    exact opensWith?_eq_some_iff.1 harguments
  refine ⟨hsound, ?_⟩
  intro h
  cases hopener : opener? text with
  | none =>
    have hnone := List.findSome?_eq_none_iff.1 hopener method (mem_all method)
    rw [Option.map_eq_none_iff, opensWith?_eq_some_iff.2 h] at hnone
    cases hnone
  | some found =>
    obtain ⟨method', arguments'⟩ := found
    obtain ⟨rfl, rfl⟩ := (hsound hopener).unique h
    rfl

/-- Arguments are open if there are some and no parenthesis closes them. -/
theorem isOpenArguments_iff :
    isOpenArguments arguments = true ↔ arguments ≠ [] ∧ ')' ∉ arguments := by
  simp only [isOpenArguments, Bool.and_eq_true, Bool.not_eq_true', List.isEmpty_eq_false_iff,
    List.all_eq_true, bne_iff_ne, and_congr_right_iff]
  intro _
  exact ⟨fun h hmem => h _ hmem rfl, fun h c hc heq => h (heq ▸ hc)⟩

/-- An open call is found at a place exactly if one stands there. -/
theorem openCallAt?_eq_some_iff : openCallAt? text = some method ↔ IsOpenCall method text := by
  unfold openCallAt?
  constructor
  · intro h
    split at h
    · next method' arguments hopener =>
      split at h
      · next hopen =>
        cases h
        exact ⟨arguments, opener?_eq_some_iff.1 hopener, isOpenArguments_iff.1 hopen⟩
      · cases h
    · cases h
  · rintro ⟨arguments, hopens, hopen⟩
    simp only [opener?_eq_some_iff.2 hopens, isOpenArguments_iff.2 hopen, if_true]

/-! ## The last call of a window -/

/-- A call of a window that is open at its end, with no other open one after its start. -/
structure OpenCall.IsLast (call : OpenCall) (window : Text) : Prop where
  place : ∃ front, window = front ++ call.matched ∧ bytes front = call.start
  isOpen : IsOpenCall call.method call.matched
  last : ∀ method rest, rest <:+ window → IsOpenCall method rest → call.matched <:+ rest

/-- The search finds the last place with an open call, or there is none. -/
theorem lastOpenCall?_cases (window : Text) :
    (lastOpenCall? window = none ∧ ∀ method rest, rest <:+ window → ¬ IsOpenCall method rest) ∨
      ∃ call, lastOpenCall? window = some call ∧ call.IsLast window := by
  induction window with
  | nil =>
    refine Or.inl ⟨rfl, ?_⟩
    rintro method rest hrest ⟨arguments, ⟨gap, gap', -, -, rfl⟩, -⟩
    simp at hrest
  | cons c window ih =>
    rcases ih with ⟨hnone, hclosed⟩ | ⟨call, hcall, hlast⟩
    · -- Only the whole window is left.
      cases hhere : openCallAt? (c :: window) with
      | none =>
        refine Or.inl ⟨by simp [lastOpenCall?, hnone, hhere], ?_⟩
        intro method rest hrest hopen
        rcases List.suffix_cons_iff.1 hrest with rfl | hrest
        · rw [openCallAt?_eq_some_iff.2 hopen] at hhere
          cases hhere
        · exact hclosed method rest hrest hopen
      | some method =>
        refine Or.inr ⟨⟨0, method, c :: window⟩, by simp [lastOpenCall?, hnone, hhere], ?_⟩
        refine ⟨⟨[], rfl, rfl⟩, openCallAt?_eq_some_iff.1 hhere, ?_⟩
        intro method' rest hrest hopen
        rcases List.suffix_cons_iff.1 hrest with rfl | hrest
        · exact List.suffix_refl _
        · exact absurd hopen (hclosed method' rest hrest)
    · obtain ⟨front, hfront, hstart⟩ := hlast.place
      refine Or.inr ⟨{ call with start := c.utf8Size + call.start },
        by simp [lastOpenCall?, hcall], ?_⟩
      refine ⟨⟨c :: front, by rw [hfront]; rfl, by rw [← hstart]; rfl⟩, hlast.isOpen, ?_⟩
      intro method rest hrest hopen
      rcases List.suffix_cons_iff.1 hrest with rfl | hrest
      · exact ⟨c :: front, by rw [hfront]; rfl⟩
      · exact hlast.last method rest hrest hopen

/-! ## Calls of the document -/

/-- From `start` to the cursor the document reads as an open call, and that is no more than
`lookback` characters. -/
def OpenCallAt (text : Text) (offset lookback : Nat) (method : BuilderMethod)
    (start : Nat) : Prop :=
  IsOpenCall method (textFrom text offset start) ∧ (textFrom text offset start).length ≤ lookback

/-- An open call is not empty. -/
theorem IsOpenCall.ne_nil (h : IsOpenCall method text) : text ≠ [] := by
  obtain ⟨arguments, hopens, -⟩ := h
  exact hopens.ne_nil

/-- From `start` to the cursor the document reads as a call that is not closed; its arguments may
not have begun. -/
def UnclosedAt (text : Text) (offset : Nat) (method : BuilderMethod) (arguments : Text)
    (start : Nat) : Prop :=
  Opens method arguments (textFrom text offset start) ∧ ')' ∉ arguments

/-- The window ends with what ends the text before the cursor and is no longer than the lookback. -/
theorem suffix_lastBefore_iff {rest : Text} {offset lookback : Nat} :
    rest <:+ lastBefore text offset lookback ↔
      rest <:+ (splitAtOffset text offset).1 ∧ rest.length ≤ lookback := by
  have hwindow : lastBefore text offset lookback <:+ (splitAtOffset text offset).1 :=
    List.drop_suffix _ _
  have hlength : (lastBefore text offset lookback).length =
      min lookback (splitAtOffset text offset).1.length := length_lastBefore
  constructor
  · intro h
    have hle := h.length_le
    exact ⟨h.trans hwindow, by omega⟩
  · rintro ⟨h, hle⟩
    have hle' := h.length_le
    exact List.suffix_of_suffix_length_le h hwindow (by omega)

/-- The open calls of the document near the cursor are those of the window. -/
theorem openCallAt_iff {offset lookback start : Nat} :
    OpenCallAt text offset lookback method start ↔
      ∃ front rest, (splitAtOffset text offset).1 = front ++ rest ∧ bytes front = start ∧
        rest <:+ lastBefore text offset lookback ∧ IsOpenCall method rest := by
  constructor
  · rintro ⟨hopen, hlength⟩
    obtain ⟨front, hfront, hstart⟩ := (textFrom_eq_iff hopen.ne_nil).1 rfl
    exact ⟨front, _, hfront, hstart, suffix_lastBefore_iff.2 ⟨⟨front, hfront.symm⟩, hlength⟩, hopen⟩
  · rintro ⟨front, rest, hfront, hstart, hsuffix, hopen⟩
    rw [OpenCallAt, (textFrom_eq_iff hopen.ne_nil).2 ⟨front, hfront, hstart⟩]
    exact ⟨hopen, (suffix_lastBefore_iff.1 hsuffix).2⟩

/-! ## Icon arguments -/

/-- The last quotation mark of a window stands directly behind an icon keyword and an equals sign,
the keyword starts at a word boundary, and no line break follows the quotation mark. -/
def IsOpenIcon (window : Text) : Prop :=
  ∃ front keyword quote rest, window = front ++ (keyword ++ '=' :: quote :: rest) ∧
    (keyword = "icon".toList ∨ keyword = "icon-right".toList) ∧
    Text.isWordBoundary front (keyword ++ '=' :: quote :: rest) = true ∧
    isQuote quote = true ∧ (∀ c ∈ rest, isQuote c = false) ∧ '\n' ∉ rest

/-- A literal is open if a quotation mark is followed by neither a quotation mark nor a line feed.
-/
theorem isOpenLiteral_iff :
    isOpenLiteral text = true ↔ ∃ quote rest, text = quote :: rest ∧ isQuote quote = true ∧
      (∀ c ∈ rest, isQuote c = false) ∧ '\n' ∉ rest := by
  cases text with
  | nil => simp [isOpenLiteral]
  | cons quote rest =>
    simp only [isOpenLiteral, Bool.and_eq_true, List.all_eq_true, Bool.not_eq_true',
      Text.isNewline, beq_eq_false_iff_ne, List.cons.injEq]
    constructor
    · rintro ⟨hquote, hrest⟩
      exact ⟨quote, rest, ⟨rfl, rfl⟩, hquote, fun c hc => (hrest c hc).1,
        fun hmem => (hrest _ hmem).2 rfl⟩
    · rintro ⟨_, _, ⟨rfl, rfl⟩, hquote, hquotes, hbreak⟩
      exact ⟨hquote, fun c hc => ⟨hquotes c hc, fun heq => hbreak (heq ▸ hc)⟩⟩

/-- The keywords for icons begin with a word character, so only the character before them decides
whether a word begins there. -/
theorem isWordBoundary_keyword {front keyword tail : Text}
    (hkeyword : keyword = "icon".toList ∨ keyword = "icon-right".toList) :
    Text.isWordBoundary front (keyword ++ tail) = Text.wordMayStartAfter front.getLast? := by
  rcases hkeyword with rfl | rfl
  · exact Text.isWordBoundary_cons (by decide)
  · exact Text.isWordBoundary_cons (by decide)

/-- An icon is opened by a keyword at the start of a word, an equals sign and an open literal. -/
theorem opensIcon_iff {front rest : Text} :
    opensIcon front.getLast? rest = true ↔
      ∃ keyword quote tail, rest = keyword ++ '=' :: quote :: tail ∧
        (keyword = "icon".toList ∨ keyword = "icon-right".toList) ∧
        Text.isWordBoundary front rest = true ∧
        isQuote quote = true ∧ (∀ c ∈ tail, isQuote c = false) ∧ '\n' ∉ tail := by
  simp only [opensIcon, Bool.and_eq_true, List.any_eq_true]
  constructor
  · rintro ⟨hword, keyword, hmem, hliteral⟩
    have hkeyword : keyword.toList = "icon".toList ∨ keyword.toList = "icon-right".toList := by
      simp only [iconKeywords, List.mem_cons, List.not_mem_nil, or_false] at hmem
      rcases hmem with rfl | rfl
      · exact Or.inl rfl
      · exact Or.inr rfl
    split at hliteral
    · next tail hdrop =>
      rw [Text.dropLiteral?_eq_some_iff, List.append_assoc] at hdrop
      obtain ⟨quote, tail, rfl, hopen⟩ := isOpenLiteral_iff.1 hliteral
      refine ⟨_, quote, tail, hdrop, hkeyword, ?_, hopen⟩
      rw [hdrop, isWordBoundary_keyword hkeyword]
      exact hword
    · cases hliteral
  · rintro ⟨keyword, quote, tail, rfl, hkeyword, hboundary, hopen⟩
    rw [isWordBoundary_keyword hkeyword] at hboundary
    refine ⟨hboundary, String.ofList keyword, ?_, ?_⟩
    · rcases hkeyword with rfl | rfl <;> decide
    · have hdrop : Text.dropLiteral? ((String.ofList keyword).toList ++ ['='])
          (keyword ++ '=' :: quote :: tail) = some (quote :: tail) := by
        rw [Text.dropLiteral?_eq_some_iff]
        simp
      rw [hdrop]
      exact isOpenLiteral_iff.2 ⟨quote, tail, rfl, hopen⟩

/-- An icon is found in a window exactly if one is open there. -/
theorem isSome_openIcon?_iff {window : Text} :
    (openIcon? window).isSome = true ↔ IsOpenIcon window := by
  constructor
  · intro h
    obtain ⟨⟨start, matched⟩, hfound⟩ := Option.isSome_iff_exists.1 h
    obtain ⟨front, rest, rfl, -, hicon⟩ := Text.exists_append_of_findPlace? hfound
    rw [Option.or_none, Option.ite_none_right_eq_some] at hicon
    obtain ⟨keyword, quote, tail, rfl, hopen⟩ := opensIcon_iff.1 hicon.1
    exact ⟨front, keyword, quote, tail, rfl, hopen⟩
  · rintro ⟨front, keyword, quote, tail, rfl, hopen⟩
    by_contra hnone
    rw [Option.not_isSome_iff_eq_none, openIcon?, Text.findPlace?_eq_none_iff] at hnone
    have hplace := hnone front _ rfl
    rw [Option.or_none, if_pos (opensIcon_iff.2 ⟨keyword, quote, tail, rfl, hopen⟩)] at hplace
    cases hplace

end FluentAssist.Cursor
