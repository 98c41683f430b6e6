import FluentAssist.Proofs.Cursor.Line

/-!
# Words as maximal runs

The tokens of a line are found by one scan from its start, so what is a token depends on all that
stands before it. For words it does not: a word is a run of token characters that is not continued
on either side, and every such run is a token. `exists_isRun_of_wordAt` and `wordAt_of_isRun` are
the two directions. A word can therefore be exchanged for another one without a change to the
tokens before it.
-/

set_option autoImplicit false

namespace FluentAssist.Cursor

open Text (bytes)

/-- Between `before` and `after`, `word` is a run of token characters that neither continues. -/
structure IsRun (before word after : Text) : Prop where
  ne_nil : word ≠ []
  chars : ∀ c ∈ word, isTokenChar c = true
  before_stops : ∀ c ∈ before.getLast?, isTokenChar c = false
  after_stops : ∀ c ∈ after.head?, isTokenChar c = false

variable {before word after : Text}

/-- Any other run can stand in the place of a run. -/
theorem IsRun.replace (h : IsRun before word after) {other : Text} (hne : other ≠ [])
    (hchars : ∀ c ∈ other, isTokenChar c = true) : IsRun before other after :=
  ⟨hne, hchars, h.before_stops, h.after_stops⟩

/-- Token characters are no parentheses. -/
theorem ne_parenthesis_of_isTokenChar {c : Char} (h : isTokenChar c = true) :
    c ≠ '(' ∧ c ≠ ')' := by
  constructor
  · rintro rfl
    exact absurd h (by decide)
  · rintro rfl
    exact absurd h (by decide)

/-! ## One step of the scan -/

/-- A run at the start of a line is its first token. -/
theorem tokens_run (start : Nat) (hne : word ≠ []) (hchars : ∀ c ∈ word, isTokenChar c = true)
    (hafter : ∀ c ∈ after.head?, isTokenChar c = false) :
    tokens start (word ++ after) = ⟨start, word⟩ :: tokens (start + bytes word) after := by
  cases word with
  | nil => exact absurd rfl hne
  | cons c word =>
    have hc : isTokenChar c = true := hchars c (List.mem_cons_self ..)
    have hword : ∀ d ∈ word, isTokenChar d = true := fun d hd => hchars d (List.mem_cons_of_mem c hd)
    obtain ⟨htake, hdrop⟩ := Text.takeWhile_append_of_stops hword hafter
    rw [List.cons_append, tokens, if_pos hc, htake, hdrop]

/-- A pair of quotation marks is a token of its own. -/
theorem tokens_quotes (start : Nat) {c : Char} {rest : Text} (hc : isTokenChar c = false)
    (hquotes : startsEmptyQuotes (c :: rest) = true) :
    tokens start (c :: rest) = ⟨start, [c, c]⟩ :: tokens (start + 2) (rest.drop 1) := by
  rw [tokens, if_neg (by simp [hc]), if_pos hquotes]

/-- Any other character between tokens is passed over. -/
theorem tokens_other (start : Nat) {c : Char} {rest : Text} (hc : isTokenChar c = false)
    (hquotes : startsEmptyQuotes (c :: rest) = false) :
    tokens start (c :: rest) = tokens (start + c.utf8Size) rest := by
  rw [tokens, if_neg (by simp [hc]), if_neg (by simp [hquotes])]

/-- No pair of quotation marks starts where a token character stands in either place. -/
theorem startsEmptyQuotes_eq_false {c d : Char} {rest : Text} (hd : isTokenChar d = true) :
    startsEmptyQuotes (d :: rest) = false ∧ startsEmptyQuotes (c :: d :: rest) = false := by
  have hquote : d ≠ '"' ∧ d ≠ '\'' := by
    constructor
    · rintro rfl
      exact absurd hd (by decide)
    · rintro rfl
      exact absurd hd (by decide)
  refine ⟨?_, ?_⟩
  · cases rest with
    | nil => rfl
    | cons e rest => simp [startsEmptyQuotes, hquote]
  · by_cases hsame : c = d
    · simp [startsEmptyQuotes, hsame, hquote]
    · simp [startsEmptyQuotes, hsame]

/-! ## Words are runs -/

/-- A line that starts with a token character starts with a run. -/
theorem cons_eq_run_append {c : Char} (hc : isTokenChar c = true) (rest : Text) :
    c :: rest = (c :: rest.takeWhile isTokenChar) ++ rest.dropWhile isTokenChar ∧
      ∀ d ∈ c :: rest.takeWhile isTokenChar, isTokenChar d = true := by
  refine ⟨by rw [List.cons_append, List.takeWhile_append_dropWhile], ?_⟩
  intro d hd
  rcases List.mem_cons.1 hd with rfl | hd
  · exact hc
  · exact List.mem_takeWhile_imp hd

/-- What is left of a line after a run starts with something else. -/
theorem dropWhile_stops (line : Text) :
    ∀ c ∈ (line.dropWhile isTokenChar).head?, isTokenChar c = false := by
  intro c hc
  have hhead := List.head?_dropWhile_not isTokenChar line
  rw [hc] at hhead
  simpa using hhead

/-- A token that is a word is a run. -/
theorem exists_isRun_of_mem_tokens {start : Nat} {line : Text} {token : Token}
    (h : token ∈ tokens start line) (hword : token.word ≠ []) :
    ∃ before after, line = before ++ (token.text ++ after) ∧ token.start = start + bytes before ∧
      IsRun before token.text after := by
  fun_induction tokens start line with
  | case1 => cases h
  | case2 start c rest hc run ih =>
    obtain ⟨hline, hrun⟩ := cons_eq_run_append hc rest
    rcases List.mem_cons.1 h with rfl | hlater
    · exact ⟨[], _, hline, rfl, List.cons_ne_nil _ _, hrun, by simp, dropWhile_stops rest⟩
    · obtain ⟨before, after, hrest, hstart, hisRun⟩ := ih hlater
      -- The next run cannot follow at once, so something stands between the two.
      have hbefore : before ≠ [] := by
        rintro rfl
        have hstops := dropWhile_stops rest
        obtain ⟨d, word, htext⟩ := List.exists_cons_of_ne_nil hisRun.ne_nil
        rw [hrest, htext] at hstops
        have hd := hisRun.chars d (by simp [htext])
        rw [hstops d rfl] at hd
        cases hd
      refine ⟨run ++ before, after, ?_, ?_, hisRun.ne_nil, hisRun.chars, ?_, hisRun.after_stops⟩
      · rw [hline, hrest, List.append_assoc]
      · rw [hstart, Text.bytes_append, Nat.add_assoc]
      · rw [List.getLast?_append_of_ne_nil _ hbefore]
        exact hisRun.before_stops
  | case3 start c rest hc hquotes ih =>
    obtain ⟨hpair, hsize⟩ := startsEmptyQuotes_cons hquotes
    rcases List.mem_cons.1 h with rfl | hlater
    · have hquote : startsEmptyQuotes [c, c] = true := by
        rw [hpair] at hquotes
        simpa [startsEmptyQuotes] using hquotes
      exact absurd (if_pos hquote) hword
    · obtain ⟨before, after, hrest, hstart, hisRun⟩ := ih hlater
      refine ⟨c :: c :: before, after, ?_, ?_, hisRun.ne_nil, hisRun.chars, ?_,
        hisRun.after_stops⟩
      · rw [hpair, hrest]
        rfl
      · simp only [hstart, Text.bytes_cons, hsize]
        omega
      · cases before with
        | nil => simpa using hc
        | cons d before => simpa using hisRun.before_stops
  | case4 start c rest hc hquotes ih =>
    obtain ⟨before, after, rfl, hstart, hisRun⟩ := ih h
    refine ⟨c :: before, after, rfl, ?_, hisRun.ne_nil, hisRun.chars, ?_, hisRun.after_stops⟩
    · rw [hstart, Text.bytes_cons, Nat.add_assoc]
    · cases before with
      | nil => simpa using hc
      | cons d before => simpa using hisRun.before_stops

/-- The word at a column is a run, and its range says where it stands. -/
theorem exists_isRun_of_wordAt {line : Text} {column : Nat} (h : (wordAt line column).1 ≠ []) :
    ∃ before after, line = before ++ ((wordAt line column).1 ++ after) ∧
      (wordAt line column).2 =
        ⟨bytes before, bytes before + bytes (wordAt line column).1⟩ ∧
      IsRun before (wordAt line column).1 after := by
  unfold wordAt at h ⊢
  split at h
  · next token htouching =>
    dsimp only at h ⊢
    obtain ⟨before, after, hline, hstart, hisRun⟩ :=
      exists_isRun_of_mem_tokens (List.mem_of_find?_eq_some htouching) h
    have hword : token.word = token.text := by
      unfold Token.word at h ⊢
      split at h
      · exact absurd rfl h
      · next hquotes => exact if_neg hquotes
    rw [Nat.zero_add] at hstart
    rw [hword]
    exact ⟨before, after, hline, by rw [Token.stop, hstart], hisRun⟩
  · exact absurd rfl h

/-! ## Runs are words -/

/-- A scan can be cut in front of a token character that continues no run: it goes on there with a
new token, and the tokens before are those of what stands before. -/
theorem tokens_append {c : Char} (hc : isTokenChar c = true)
    (hbefore : ∀ d ∈ before.getLast?, isTokenChar d = false) (start : Nat) (rest : Text) :
    tokens start (before ++ c :: rest) =
      tokens start before ++ tokens (start + bytes before) (c :: rest) := by
  fun_induction tokens start before with
  | case1 start => simp
  | case2 start d line hd run ih =>
    obtain ⟨hline, hrun⟩ := cons_eq_run_append hd line
    -- The last character is no token character, so the first run ends before it.
    have hleft : line.dropWhile isTokenChar ≠ [] := by
      intro hnil
      rw [hnil, List.append_nil] at hline
      rw [hline, List.getLast?_eq_some_getLast (List.cons_ne_nil _ _)] at hbefore
      have hlast := hbefore _ rfl
      rw [hrun _ (List.getLast_mem _)] at hlast
      cases hlast
    have hbefore' : ∀ e ∈ (line.dropWhile isTokenChar).getLast?, isTokenChar e = false := by
      rw [hline, List.getLast?_append_of_ne_nil _ hleft] at hbefore
      exact hbefore
    have hstops : ∀ e ∈ (line.dropWhile isTokenChar ++ c :: rest).head?,
        isTokenChar e = false := by
      rw [List.head?_append_of_ne_nil _ hleft]
      exact dropWhile_stops line
    rw [hline, List.append_assoc, tokens_run start (List.cons_ne_nil _ _) hrun hstops,
      ih hbefore', List.cons_append, Text.bytes_append, Nat.add_assoc]
  | case3 start d line hd hquotes ih =>
    obtain ⟨hpair, hsize⟩ := startsEmptyQuotes_cons hquotes
    have hdrop : (line ++ c :: rest).drop 1 = line.drop 1 ++ c :: rest := by
      rw [hpair]
      rfl
    have hquotes' : startsEmptyQuotes (d :: (line ++ c :: rest)) = true := by
      rw [hpair] at hquotes ⊢
      exact hquotes
    have hbefore' : ∀ e ∈ (line.drop 1).getLast?, isTokenChar e = false := by
      intro e he
      apply hbefore e
      rw [hpair]
      exact List.mem_getLast?_cons (List.mem_getLast?_cons he)
    have hbytes : bytes (d :: line) = 2 + bytes (line.drop 1) := by
      have hbytes := congrArg bytes hpair
      rw [Text.bytes_cons, hsize] at hbytes
      rw [Text.bytes_cons, hsize, hbytes]
      omega
    rw [List.cons_append, tokens_quotes start (by simpa using hd) hquotes', hdrop, ih hbefore',
      hbytes, List.cons_append, Nat.add_assoc]
  | case4 start d line hd hquotes ih =>
    have hquotes' : startsEmptyQuotes (d :: (line ++ c :: rest)) = false := by
      cases line with
      | nil => exact (startsEmptyQuotes_eq_false hc).2
      | cons e line => simpa [startsEmptyQuotes] using hquotes
    have hbefore' : ∀ e ∈ line.getLast?, isTokenChar e = false :=
      fun e he => hbefore e (List.mem_getLast?_cons he)
    rw [List.cons_append, tokens_other start (by simpa using hd) hquotes', ih hbefore',
      Text.bytes_cons, Nat.add_assoc]

/-- A run is the word at every column behind its start. -/
theorem wordAt_of_isRun (h : IsRun before word after) {column : Nat}
    (hstart : bytes before < column) (hstop : column ≤ bytes before + bytes word) :
    wordAt (before ++ (word ++ after)) column =
      (word, ⟨bytes before, bytes before + bytes word⟩) := by
  obtain ⟨c, rest, hword⟩ := List.exists_cons_of_ne_nil h.ne_nil
  have hc : isTokenChar c = true := h.chars c (by simp [hword])
  have htokens : tokens 0 (before ++ (word ++ after)) = tokens 0 before ++
      ⟨bytes before, word⟩ :: tokens (bytes before + bytes word) after := by
    have hcut := tokens_append hc h.before_stops 0 (rest ++ after)
    rw [← List.cons_append, ← hword, Nat.zero_add] at hcut
    rw [hcut, tokens_run (bytes before) h.ne_nil h.chars h.after_stops]
  have hearlier : (tokens 0 before).find?
      (fun token => decide (token.start ≤ column) && decide (column ≤ token.stop)) = none := by
    rw [List.find?_eq_none]
    intro token hmem
    obtain ⟨front, back, hline, hplace⟩ := exists_append_of_mem_tokens hmem
    have hbytes := congrArg bytes hline
    simp only [Text.bytes_append] at hbytes
    have hends : token.stop < column := by
      rw [Token.stop, hplace]
      omega
    simp only [Bool.and_eq_true, decide_eq_true_eq, not_and]
    omega
  have htouches : (decide (bytes before ≤ column) &&
      decide (column ≤ Token.stop ⟨bytes before, word⟩)) = true := by
    simp only [Bool.and_eq_true, decide_eq_true_eq]
    exact ⟨Nat.le_of_lt hstart, hstop⟩
  have hquotes : startsEmptyQuotes word = false := by
    rw [hword]
    exact (startsEmptyQuotes_eq_false (c := c) hc).1
  have hfound : touching? column (tokens 0 (before ++ (word ++ after))) =
      some ⟨bytes before, word⟩ := by
    rw [htokens, touching?, List.find?_append, hearlier, Option.none_or]
    exact List.find?_cons_of_pos htouches
  simp only [wordAt, hfound, Token.word, hquotes, Token.stop]
  rfl

end FluentAssist.Cursor
