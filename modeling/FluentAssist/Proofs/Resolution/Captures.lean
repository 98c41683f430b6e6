import FluentAssist.Proofs.Resolution.PatternReading

/-!
# The names that descriptions give

A description of an accessor names the class that owns it as a type argument, as in
`props: Props[Self@Button]`. `OwnerClause` says how what follows the colon is put together, and a
text has at most one owner in this way (`OwnerClause.unique`). Every pattern for accessors reads an
accessor with such a clause, so in a text with one accessor all of them give the same class:
`accessorOwner?_eq_some`.

The patterns for variables do not agree in this way. The one for a type with an argument starts like
the one for a plain type, which comes first and is content with the type alone, so it never decides:
`variableType?_eq`.
-/

set_option autoImplicit false

namespace FluentAssist.Pattern

open Text (IsWord isWordChar isBlank)

/-! ## Accessors -/

/-- The accessors that lead to an element's classes, props and style. -/
def accessors : List String := ["classes", "props", "style"]

/-- What follows the colon of a described accessor: white space, the class of the accessor, and in
brackets the class that owns it, which may be marked as the class itself. -/
structure OwnerClause (text owner : Text) : Prop where
  exists_parts : ∃ gap wrapper mark after,
    text = gap ++ (wrapper ++ '[' :: (mark ++ (owner ++ ']' :: after))) ∧
    (gap ≠ [] ∧ ∀ c ∈ gap, isBlank c = true) ∧ IsWord wrapper ∧ (mark = [] ∨ mark = "Self@".toList)
  owner_ne_nil : owner ≠ []
  owner_word : IsWord owner

variable {text captured owner : Text}

/-- What stands first is what follows. -/
theorem head?_eq_false {p : Char → Bool} {c : Char} (h : p c = false) (after : Text) :
    ∀ d ∈ (c :: after).head?, p d = false := by
  intro d hd
  obtain rfl := Option.some_inj.1 hd
  exact h

/-- A word ends where it is closed by one of the marks around it. -/
theorem word_stops {c : Char} (hc : c ∈ [':', '[', ']', '@']) (after : Text) :
    ∀ d ∈ (c :: after).head?, isWordChar d = false := by
  have hmarks : [':', '[', ']', '@'].all (!isWordChar ·) = true := by decide
  have hmark := List.all_eq_true.1 hmarks c hc
  rw [Bool.not_eq_true'] at hmark
  exact head?_eq_false hmark after

/-- A word with a mark behind it does not start with white space, also if the word is empty. -/
theorem head?_word_append {word : Text} {c : Char} (h : IsWord word) (hc : isBlank c = false)
    (after : Text) : ∀ d ∈ (word ++ c :: after).head?, isBlank d = false := by
  cases word with
  | nil => exact head?_eq_false hc after
  | cons d word => exact head?_eq_false (Text.isBlank_of_isWordChar (h d List.mem_cons_self)) _

/-- A word and what follows it are told apart by the mark between them. -/
theorem word_append_inj {word word' after after' : Text} {c d : Char} (h : IsWord word)
    (h' : IsWord word') (hc : c ∈ [':', '[', ']', '@']) (hd : d ∈ [':', '[', ']', '@'])
    (heq : word ++ c :: after = word' ++ d :: after') : word = word' ∧ c :: after = d :: after' := by
  have hleft := Text.takeWhile_append_of_stops h (word_stops hc after)
  have hright := Text.takeWhile_append_of_stops h' (word_stops hd after')
  rw [heq] at hleft
  exact ⟨hleft.1.symm.trans hright.1, hleft.2.symm.trans hright.2⟩

/-- With and without a mark the brackets hold different texts. -/
theorem unmarked_ne_marked {unmarked after inside : Text} (h : IsWord unmarked) :
    unmarked ++ ']' :: after ≠ "Self@".toList ++ inside := by
  intro heq
  have hself : IsWord "Self".toList := List.all_eq_true.1 (by decide)
  have hmark : unmarked ++ ']' :: after = "Self".toList ++ '@' :: inside := heq
  cases (word_append_inj h hself (by decide) (by decide) hmark).2

/-- A text has at most one owner. -/
theorem OwnerClause.unique {owner' : Text} (h : OwnerClause text owner)
    (h' : OwnerClause text owner') : owner = owner' := by
  obtain ⟨gap, wrapper, mark, after, rfl, ⟨-, hgap⟩, hwrapper, hmark⟩ := h.exists_parts
  obtain ⟨gap', wrapper', mark', after', htext, ⟨-, hgap'⟩, hwrapper', hmark'⟩ := h'.exists_parts
  have hwrapped : wrapper ++ '[' :: (mark ++ (owner ++ ']' :: after)) =
      wrapper' ++ '[' :: (mark' ++ (owner' ++ ']' :: after')) := by
    rw [← (Text.takeWhile_append_of_stops hgap (head?_word_append hwrapper rfl _)).2, htext,
      (Text.takeWhile_append_of_stops hgap' (head?_word_append hwrapper' rfl _)).2]
  have hinside := (word_append_inj hwrapper hwrapper' (by decide) (by decide) hwrapped).2
  have hmarked := (List.cons.inj hinside).2
  have hclosed : owner ++ ']' :: after = owner' ++ ']' :: after' := by
    rcases hmark with rfl | rfl <;> rcases hmark' with rfl | rfl
    · exact hmarked
    · exact absurd hmarked (unmarked_ne_marked h.owner_word)
    · exact absurd hmarked.symm (unmarked_ne_marked h'.owner_word)
    · exact List.append_cancel_left hmarked
  exact (word_append_inj h.owner_word h'.owner_word (by decide) (by decide) hclosed).1

/-- What a pattern reads in the brackets. -/
theorem exists_of_matchAt?_owner (h : matchAt? Pattern.owner captured text = some owner) :
    ∃ mark after, text = '[' :: (mark ++ (owner ++ ']' :: after)) ∧
      (mark = [] ∨ mark = "Self@".toList) ∧ owner ≠ [] ∧ IsWord owner := by
  obtain ⟨inside, rfl, hinside⟩ := matchAt?_literal_eq_some_iff.1 h
  obtain ⟨mark, unmarked, hmark, rfl, hunmarked⟩ := exists_of_matchAt?_maybe hinside
  obtain ⟨name, closed, rfl, hne, hword, hname⟩ := exists_of_matchAt?_name hunmarked
  obtain ⟨after, rfl, hafter⟩ := matchAt?_literal_eq_some_iff.1 hname
  obtain rfl : name = owner := Option.some_inj.1 hafter
  exact ⟨mark, after, rfl, hmark, hne, hword⟩

/-- The class of the accessor is one of three words, or any word. -/
theorem ownerClause_of_matchAt? {wrapping : Piece}
    (hwrapping : wrapping = accessorClasses ∨ wrapping = .run .word 0)
    (h : matchAt? (blanks :: wrapping :: Pattern.owner) captured text = some owner) :
    OwnerClause text owner := by
  obtain ⟨gap, wrapped, rfl, hleast, hgap, hwrapped⟩ := exists_of_matchAt?_run h
  obtain ⟨wrapper, bracket, rfl, hwrapper, hbracket⟩ : ∃ wrapper bracket,
      wrapped = wrapper ++ bracket ∧ IsWord wrapper ∧
        matchAt? Pattern.owner captured bracket = some owner := by
    rcases hwrapping with rfl | rfl
    · obtain ⟨wrapper, hmem, bracket, rfl, hbracket⟩ := exists_of_matchAt?_oneOf hwrapped
      have hwords : ∀ wrapper ∈ ["Classes", "Props", "Style"],
          wrapper.toList.all isWordChar = true := by decide
      exact ⟨_, bracket, rfl, List.all_eq_true.1 (hwords wrapper hmem), hbracket⟩
    · obtain ⟨wrapper, bracket, rfl, -, hwrapper, hbracket⟩ := exists_of_matchAt?_run hwrapped
      exact ⟨wrapper, bracket, rfl, hwrapper, hbracket⟩
  obtain ⟨mark, after, rfl, hmark, hne, hword⟩ := exists_of_matchAt?_owner hbracket
  have hgapped : gap ≠ [] := List.ne_nil_of_length_pos hleast
  exact ⟨⟨gap, wrapper, mark, after, rfl, ⟨hgapped, hgap⟩, hwrapper, hmark⟩, hne, hword⟩

/-- An accessor with its clause is read from its name on. -/
theorem exists_of_matchAt?_accessor {wrapping : Piece}
    (hwrapping : wrapping = accessorClasses ∨ wrapping = .run .word 0)
    (h : matchAt? ([accessorNames, .literal ":", blanks, wrapping] ++ Pattern.owner) captured text =
      some owner) :
    ∃ accessor ∈ accessors, ∃ clause, text = accessor.toList ++ ':' :: clause ∧
      OwnerClause clause owner := by
  obtain ⟨accessor, haccessor, described, rfl, hdescribed⟩ := exists_of_matchAt?_oneOf h
  obtain ⟨clause, rfl, hclause⟩ := matchAt?_literal_eq_some_iff.1 hdescribed
  exact ⟨accessor, haccessor, clause, rfl, ownerClause_of_matchAt? hwrapping hclause⟩

/-- Whatever a pattern for accessors reads, the name is the owner in the clause of an accessor. -/
theorem exists_accessor_of_matchAt? {pattern : Pattern} (hpattern : pattern ∈ accessorPatterns)
    (h : matchAt? pattern [] text = some owner) :
    ∃ lead, ∃ accessor ∈ accessors, ∃ clause,
      text = lead ++ (accessor.toList ++ ':' :: clause) ∧ OwnerClause clause owner := by
  simp only [accessorPatterns, List.mem_cons, List.not_mem_nil, or_false] at hpattern
  rcases hpattern with rfl | rfl | rfl
  · obtain ⟨annotated, rfl, hannotated⟩ := matchAt?_literal_eq_some_iff.1 h
    obtain ⟨gap, described, rfl, -, -, hdescribed⟩ := exists_of_matchAt?_run hannotated
    obtain ⟨accessor, haccessor, clause, rfl, hclause⟩ :=
      exists_of_matchAt?_accessor (.inl rfl) hdescribed
    exact ⟨"(property)".toList ++ gap, accessor, haccessor, clause, by simp, hclause⟩
  · obtain ⟨accessor, haccessor, clause, rfl, hclause⟩ := exists_of_matchAt?_accessor (.inl rfl) h
    exact ⟨[], accessor, haccessor, clause, rfl, hclause⟩
  · obtain ⟨accessor, haccessor, clause, rfl, hclause⟩ := exists_of_matchAt?_accessor (.inr rfl) h
    exact ⟨[], accessor, haccessor, clause, rfl, hclause⟩

/-- The last pattern for accessors reads every clause. -/
theorem isSome_matchAt?_accessor {accessor : String} (haccessor : accessor ∈ accessors)
    {clause : Text} (h : OwnerClause clause owner) :
    (matchAt? ([accessorNames, .literal ":", blanks, .run .word 0] ++ Pattern.owner) []
      (accessor.toList ++ ':' :: clause)).isSome := by
  obtain ⟨gap, wrapper, mark, after, rfl, ⟨hgapped, hgap⟩, hwrapper, hmark⟩ := h.exists_parts
  have hnamed : (matchAt? [.name, .literal "]"] [] (owner ++ ']' :: after)).isSome := by
    rw [matchAt?_name_append h.owner_ne_nil h.owner_word (word_stops (by decide) after)]
    exact Option.isSome_of_eq_some (matchAt?_literal_append "]" [] owner after)
  have hmarked := isSome_matchAt?_maybe hmark hnamed
  have hbracket := matchAt?_literal_append "[" [.maybe "Self@", .name, .literal "]"] []
    (mark ++ (owner ++ ']' :: after))
  have hstops := word_stops (c := '[') (by decide) (mark ++ (owner ++ ']' :: after))
  have hclass : matchAt? (.run .word 0 :: Pattern.owner) [] (wrapper ++ _) = _ :=
    matchAt?_run_append (Nat.zero_le _) hwrapper hstops
  have hblanks : matchAt? ([blanks, .run .word 0] ++ Pattern.owner) [] (gap ++ _) = _ :=
    matchAt?_run_append (List.length_pos_of_ne_nil hgapped) hgap
      (head?_word_append (c := '[') hwrapper rfl (mark ++ (owner ++ ']' :: after)))
  have hcolon := matchAt?_literal_append ":" ([blanks, .run .word 0] ++ Pattern.owner) []
    (gap ++ (wrapper ++ '[' :: (mark ++ (owner ++ ']' :: after))))
  apply isSome_matchAt?_oneOf haccessor
  rw [← hbracket] at hmarked
  exact (congrArg Option.isSome (hcolon.trans (hblanks.trans hclass))).trans hmarked

/-- Of the accessors with a colon a text has no other than the one behind `before`. -/
def OnlyAccessorBehind (before text : Text) : Prop :=
  ∀ accessor ∈ accessors, ∀ front back,
    text = front ++ (accessor.toList ++ ':' :: back) → front = before

/-- Where a text has one accessor, its owner is found. -/
theorem accessorOwner?_eq_some {before clause : Text} {accessor : String}
    (haccessor : accessor ∈ accessors) (hclause : OwnerClause clause owner)
    (honly : OnlyAccessorBehind before (before ++ (accessor.toList ++ ':' :: clause))) :
    accessorOwner? (before ++ (accessor.toList ++ ':' :: clause)) = some owner := by
  have hwords : ∀ accessor ∈ accessors, accessor.toList.all isWordChar = true := by decide
  apply firstOf?_eq_some_of_agree
  · intro pattern hpattern front described name htext hread
    obtain ⟨lead, accessor', haccessor', clause', rfl, hclause'⟩ :=
      exists_accessor_of_matchAt? hpattern hread
    rw [← List.append_assoc front] at htext
    rw [honly accessor' haccessor' _ _ htext] at htext
    have hsame := word_append_inj (List.all_eq_true.1 (hwords accessor haccessor))
      (List.all_eq_true.1 (hwords accessor' haccessor')) (by decide) (by decide)
      (List.append_cancel_left htext)
    rw [(List.cons.inj hsame.2).2] at hclause
    exact hclause'.unique hclause
  · exact ⟨[accessorNames, .literal ":", blanks, .run .word 0] ++ Pattern.owner, by decide, before,
      _, rfl, isSome_matchAt?_accessor haccessor hclause⟩

/-- A described accessor, as in `props: Props[Self@Button]`. -/
def describedAccessor (accessor : String) (wrapper : Text) (marked : Bool) (owner : Text) : Text :=
  accessor.toList ++ ':' :: ' ' :: (wrapper ++
    '[' :: ((if marked then "Self@".toList else []) ++ (owner ++ [']'])))

/-- **A described accessor gives back its owner.** In a text with one accessor, described with any
word as its class and any name as its owner, marked or not, that owner is found, whatever else
stands before and after the description. -/
theorem accessorOwner?_described (before after wrapper owner : Text) (accessor : String)
    (marked : Bool) (haccessor : accessor ∈ accessors) (hwrapper : IsWord wrapper)
    (hne : owner ≠ []) (howner : IsWord owner)
    (honly : OnlyAccessorBehind before
      (before ++ (describedAccessor accessor wrapper marked owner ++ after))) :
    accessorOwner? (before ++ (describedAccessor accessor wrapper marked owner ++ after)) =
      some owner := by
  have hclause : OwnerClause
      (' ' :: (wrapper ++ '[' :: ((if marked then "Self@".toList else []) ++
        (owner ++ ']' :: after)))) owner := by
    refine ⟨⟨[' '], wrapper, _, after, rfl, ⟨by simp, List.forall_mem_singleton.2 rfl⟩, hwrapper,
      ?_⟩, hne, howner⟩
    cases marked
    · exact .inl rfl
    · exact .inr rfl
  have htext : describedAccessor accessor wrapper marked owner ++ after =
      accessor.toList ++ ':' :: ' ' :: (wrapper ++ '[' ::
        ((if marked then "Self@".toList else []) ++ (owner ++ ']' :: after))) := by
    simp only [describedAccessor, List.append_assoc, List.cons_append, List.nil_append]
  rw [htext] at honly ⊢
  exact accessorOwner?_eq_some haccessor hclause honly

/-- A description with its kind in front, between texts that look like parts of descriptions. -/
def busyDescription : Text := "Self@[A] (property) props: Props[Self@Self][B] style :".toList

/-- A class that has the name of the mark is found behind the mark. -/
theorem accessorOwner?_described_busy :
    "props" ∈ accessors ∧ IsWord "Props".toList ∧ "Self".toList ≠ [] ∧ IsWord "Self".toList ∧
    OnlyAccessorBehind "Self@[A] (property) ".toList busyDescription ∧
    accessorOwner? busyDescription = some "Self".toList := by
  have haccessor : "props" ∈ accessors := by decide
  have hwrapper : IsWord "Props".toList := List.all_eq_true.1 (by decide)
  have howner : IsWord "Self".toList := List.all_eq_true.1 (by decide)
  have honly : OnlyAccessorBehind "Self@[A] (property) ".toList busyDescription := by
    have hplaces : ∀ accessor ∈ accessors, ∀ place ∈ List.range 55,
        Text.startsWith (busyDescription.drop place) (accessor.toList ++ [':']) = true →
          place = 20 := by decide
    intro accessor haccessor front back htext
    have hlength : front.length < 55 := by
      have hbytes : busyDescription.length = 54 := by decide
      have hparts := congrArg List.length htext
      rw [hbytes, List.length_append] at hparts
      omega
    have hstarts : Text.startsWith (busyDescription.drop front.length)
        (accessor.toList ++ [':']) = true := by
      rw [Text.startsWith, Option.isSome_iff_exists]
      exact ⟨back, Text.dropLiteral?_eq_some_iff.2 (by rw [htext, List.drop_left]; simp)⟩
    have hplace := hplaces accessor haccessor _ (List.mem_range.2 hlength) hstarts
    have hfront : front = busyDescription.take front.length := by rw [htext, List.take_left]
    rw [hfront, hplace]
    decide
  exact ⟨haccessor, hwrapper, by decide, howner, honly,
    accessorOwner?_described "Self@[A] (property) ".toList "[B] style :".toList "Props".toList
      "Self".toList "props" true haccessor hwrapper (by decide) howner honly⟩

/-! ## Variables -/

/-- The pattern for a variable with a plain type. -/
def plainVariable : Pattern := variableHead ++ [.name]

/-- The pattern for a variable whose type has an argument. -/
def wrappedVariable : Pattern := variableHead ++ [.run .word 1, .literal "[", .name, .literal "]"]

/-- The pattern for a type at the end of a text. -/
def bareVariable : Pattern := [.literal ":", blanks, .name, .atEnd]

/-- The patterns for variables are these three, in this order. -/
theorem variablePatterns_eq :
    variablePatterns = [plainVariable, wrappedVariable, bareVariable] := rfl

/-- A variable is read up to its type. -/
theorem matchAt?_variableHead_append {rest : Pattern} {name type : Text} (hname : IsWord name)
    (htype : ∀ c ∈ type.head?, isBlank c = false) :
    matchAt? (variableHead ++ rest) captured
        ("(variable)".toList ++ ' ' :: (name ++ ':' :: ' ' :: type)) =
      matchAt? rest captured type := by
  have hblank : ∀ c ∈ [' '], CharSet.blank.holds c = true := List.forall_mem_singleton.2 rfl
  have hone : 1 ≤ [' '].length := Nat.le_refl 1
  have hgap := head?_word_append (c := ':') hname rfl (' ' :: type)
  calc
    _ = matchAt? (blanks :: .run .word 0 :: .literal ":" :: blanks :: rest) captured
        (' ' :: (name ++ ':' :: ' ' :: type)) := matchAt?_literal_append _ _ _ _
    _ = matchAt? (.run .word 0 :: .literal ":" :: blanks :: rest) captured
        (name ++ ':' :: ' ' :: type) := matchAt?_run_append hone hblank hgap
    _ = matchAt? (.literal ":" :: blanks :: rest) captured (':' :: ' ' :: type) :=
      matchAt?_run_append (Nat.zero_le _) hname (word_stops (by decide) _)
    _ = matchAt? (blanks :: rest) captured (' ' :: type) := matchAt?_literal_append ":" _ _ _
    _ = matchAt? rest captured type := matchAt?_run_append hone hblank htype

/-- Where one or more word characters are read, a name is read. -/
theorem isSome_matchAt?_name_of_run {rest : Pattern}
    (h : (matchAt? (.run .word 1 :: rest) captured text).isSome) :
    (matchAt? [.name] captured text).isSome := by
  rw [matchAt?_run] at h
  split at h
  · next hleast =>
    have hne : ¬ (text.takeWhile isWordChar).isEmpty = true := by
      rw [List.isEmpty_iff]
      exact List.ne_nil_of_length_pos hleast
    rw [matchAt?_name, if_neg hne]
    rfl
  · cases h

/-- Where the type of a variable has an argument, a plain type is read. -/
theorem isSome_plainVariable (h : (search? wrappedVariable text).isSome) :
    (search? plainVariable text).isSome := by
  obtain ⟨found, hfound⟩ := Option.isSome_iff_exists.1 h
  obtain ⟨before, described, rfl, hread⟩ := exists_of_search? hfound
  exact isSome_search? (isSome_matchAt?_append_mono (fun _ _ => isSome_matchAt?_name_of_run) variableHead
    [] described (Option.isSome_of_eq_some hread))

/-- The pattern for a type with an argument never decides. -/
theorem variableType?_eq (text : Text) :
    variableType? text = firstOf? [plainVariable, bareVariable] text := by
  simp only [variableType?, variablePatterns_eq, firstOf?, List.findSome?_cons]
  cases hplain : search? plainVariable text with
  | some found => rfl
  | none =>
    cases hwrapped : search? wrappedVariable text with
    | none => rfl
    | some found =>
      have hreads := isSome_plainVariable (Option.isSome_of_eq_some hwrapped)
      rw [hplain] at hreads
      cases hreads

/-- A described variable whose type has an argument, as in `(variable) b: Card[Button]`. -/
def describedVariable (name wrapper argument : Text) : Text :=
  "(variable)".toList ++ ' ' :: (name ++ ':' :: ' ' :: (wrapper ++ '[' :: (argument ++ [']'])))

/-- The description of a variable, put together from its parts. -/
theorem describedVariable_append (name wrapper argument after : Text) :
    describedVariable name wrapper argument ++ after =
      "(variable)".toList ++
        ' ' :: (name ++ ':' :: ' ' :: (wrapper ++ '[' :: (argument ++ ']' :: after))) := by
  unfold describedVariable
  generalize "(variable)".toList = head
  simp only [List.append_assoc, List.cons_append, List.nil_append]

/-- **Of a type with an argument the type is found and not the argument.** The pattern for such
types captures the argument, and still the answer is the type before the bracket, because the
pattern for plain types comes first and reads there too. So the argument is the answer exactly if
both names are the same. No other text is any better: without the pattern for types with an argument
every answer is the same. -/
theorem variableType?_described (name wrapper argument after : Text) (hname : IsWord name)
    (hwrapper : IsWord wrapper) (hwrapped : wrapper ≠ []) (hargument : IsWord argument)
    (hne : argument ≠ []) :
    search? wrappedVariable (describedVariable name wrapper argument ++ after) = some argument ∧
    variableType? (describedVariable name wrapper argument ++ after) = some wrapper ∧
    (variableType? (describedVariable name wrapper argument ++ after) = some argument ↔
      argument = wrapper) ∧
    ∀ text, variableType? text = firstOf? [plainVariable, bareVariable] text := by
  have hbracket := word_stops (c := '[') (by decide) (argument ++ ']' :: after)
  have hclose := word_stops (c := ']') (by decide) after
  have htype := head?_word_append (c := '[') hwrapper rfl (argument ++ ']' :: after)
  have hrun : ∀ c ∈ wrapper, CharSet.word.holds c = true := hwrapper
  have hplain : matchAt? plainVariable [] (describedVariable name wrapper argument ++ after) =
      some wrapper := by
    rw [describedVariable_append, plainVariable, matchAt?_variableHead_append hname htype,
      matchAt?_name_append hwrapped hwrapper hbracket, matchAt?_nil]
  have hargued : matchAt? wrappedVariable [] (describedVariable name wrapper argument ++ after) =
      some argument := by
    rw [describedVariable_append, wrappedVariable, matchAt?_variableHead_append hname htype]
    calc
      _ = matchAt? [.literal "[", .name, .literal "]"] [] ('[' :: (argument ++ ']' :: after)) :=
        matchAt?_run_append (List.length_pos_of_ne_nil hwrapped) hrun hbracket
      _ = matchAt? [.name, .literal "]"] [] (argument ++ ']' :: after) :=
        matchAt?_literal_append "[" _ _ _
      _ = matchAt? [.literal "]"] argument (']' :: after) :=
        matchAt?_name_append hne hargument hclose
      _ = some argument := matchAt?_literal_append "]" [] argument after
  have hanswer : variableType? (describedVariable name wrapper argument ++ after) =
      some wrapper := by
    rw [variableType?_eq, firstOf?, List.findSome?_cons, search?_of_matchAt? hplain]
  refine ⟨search?_of_matchAt? hargued, hanswer, ?_, variableType?_eq⟩
  rw [hanswer, Option.some_inj]
  exact eq_comm

/-- A variable of a collection is described as the collection and not as what it holds. -/
theorem variableType?_described_collection :
    IsWord "b".toList ∧ IsWord "Card".toList ∧ "Card".toList ≠ [] ∧ IsWord "Button".toList ∧
    "Button".toList ≠ [] ∧
    search? wrappedVariable (describedVariable "b".toList "Card".toList "Button".toList ++
      " (variable) c: Label".toList) = some "Button".toList ∧
    variableType? (describedVariable "b".toList "Card".toList "Button".toList ++
      " (variable) c: Label".toList) = some "Card".toList := by
  have hname : IsWord "b".toList := List.all_eq_true.1 (by decide)
  have hwrapper : IsWord "Card".toList := List.all_eq_true.1 (by decide)
  have hargument : IsWord "Button".toList := List.all_eq_true.1 (by decide)
  obtain ⟨hfound, hanswer, -, -⟩ := variableType?_described "b".toList "Card".toList
    "Button".toList " (variable) c: Label".toList hname hwrapper (by decide) hargument (by decide)
  exact ⟨hname, hwrapper, by decide, hargument, by decide, hfound, hanswer⟩

/-- In `(variable) b: Card[Button]`, where nothing follows, the argument is not the answer. -/
theorem argument_not_found :
    IsWord "b".toList ∧ IsWord "Card".toList ∧ "Card".toList ≠ [] ∧ IsWord "Button".toList ∧
    "Button".toList ≠ [] ∧ Text.contains [] "(variable)".toList = false ∧
    variableType? (describedVariable "b".toList "Card".toList "Button".toList ++ []) ≠
      some "Button".toList := by
  exact ⟨List.all_eq_true.1 (by decide), List.all_eq_true.1 (by decide), by decide,
    List.all_eq_true.1 (by decide), by decide, by decide, by decide⟩

end FluentAssist.Pattern
