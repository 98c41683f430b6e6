import FluentAssist.Completion.Documentation
import Mathlib.Algebra.Ring.Parity
import Mathlib.Data.List.Induction

/-!
# Hash signs in documentation

In markdown a backslash takes the meaning from the character behind it, and a backslash does so with
a backslash too. So a hash sign is literal exactly if the backslashes right before it are odd in
number (`HashesEscaped`).

What is to the left of a text matters for its first hash signs only through the parity of the
backslashes that it ends in. `HashesBehind` is therefore stated for a text that stands behind an odd
or an even number of them; it is read off character by character (`hashesBehind_cons`), and texts
are put together by `hashesBehind_append`.

Prose is safe, because its backslashes are escaped as well. In the items of lists only the hash sign
is escaped, so one that has an odd number of backslashes before it gets an even one:
`hashesEscaped_ofAttribute_iff` is the main statement.
-/

set_option autoImplicit false

namespace FluentAssist.Documentation

/-- The number of backslashes right before the end of a text. -/
def backslashesAtEnd (text : Text) : Nat := (text.reverse.takeWhile (· == '\\')).length

/-- Before every hash sign of a text there is an odd number of backslashes. -/
def HashesEscaped (text : Text) : Prop :=
  ∀ before after, text = before ++ '#' :: after → Odd (backslashesAtEnd before)

/-- Before every hash sign of a text there is an even number of backslashes, or none. -/
def HashesBare (text : Text) : Prop :=
  ∀ before after, text = before ++ '#' :: after → Even (backslashesAtEnd before)

/-! ## Reading from the left -/

/-- Whether the backslashes up to and with a character are odd in number, if those before it are. -/
def oddStep (odd : Bool) (c : Char) : Bool := c == '\\' && !odd

/-- Whether a text ends in an odd number of backslashes, if it stands behind such a number. -/
def oddAfter (odd : Bool) (text : Text) : Bool := text.foldl oddStep odd

/-- Behind an odd or even number of backslashes, every hash sign of a text has a number of
backslashes of the given parity before it. -/
def HashesBehind (parity odd : Bool) (text : Text) : Prop :=
  ∀ before after, text = before ++ '#' :: after → oddAfter odd before = parity

variable {parity odd : Bool} {text : Text}

/-- The parity of two texts one after the other is carried through the first. -/
theorem oddAfter_append (a b : Text) : oddAfter odd (a ++ b) = oddAfter (oddAfter odd a) b :=
  List.foldl_append

/-- Behind any other character the count starts again. -/
theorem oddAfter_concat {c : Char} (hc : c ≠ '\\') (text : Text) :
    oddAfter odd (text ++ [c]) = false := by
  rw [oddAfter_append]
  simp [oddAfter, oddStep, hc]

/-- The parity is that of the backslashes at the end of the text. -/
theorem oddAfter_eq_true_iff (text : Text) :
    oddAfter false text = true ↔ Odd (backslashesAtEnd text) := by
  induction text using List.reverseRecOn with
  | nil => simp [oddAfter, backslashesAtEnd]
  | append_singleton text c ih =>
    by_cases hc : c = '\\'
    · have hcount : backslashesAtEnd (text ++ [c]) = backslashesAtEnd text + 1 := by
        simp [backslashesAtEnd, hc]
      rw [hcount, Nat.odd_add_one, ← ih, oddAfter_append]
      simp [oddAfter, oddStep, hc]
    · have hcount : backslashesAtEnd (text ++ [c]) = 0 := by simp [backslashesAtEnd, hc]
      rw [hcount, oddAfter_concat hc]
      simp

/-- Hash signs are escaped exactly if they have an odd number of backslashes before them, with none
before the text. -/
theorem hashesEscaped_iff : HashesEscaped text ↔ HashesBehind true false text := by
  simp only [HashesEscaped, HashesBehind, oddAfter_eq_true_iff]

/-- Hash signs are bare exactly if they have an even number of backslashes before them, with none
before the text. -/
theorem hashesBare_iff : HashesBare text ↔ HashesBehind false false text := by
  simp only [HashesBare, HashesBehind, ← Nat.not_odd_iff_even, ← oddAfter_eq_true_iff,
    Bool.not_eq_true]

/-- The empty text has no hash sign. -/
theorem hashesBehind_nil : HashesBehind parity odd [] := by
  intro before after h
  simp at h

/-- A character is a hash sign with the parity before it, or passes the parity on. -/
theorem hashesBehind_cons {c : Char} :
    HashesBehind parity odd (c :: text) ↔
      (c = '#' → odd = parity) ∧ HashesBehind parity (oddStep odd c) text := by
  constructor
  · intro h
    refine ⟨fun hc => h [] text (by rw [hc, List.nil_append]), fun before after htext => ?_⟩
    exact h (c :: before) after (by rw [htext, List.cons_append])
  · rintro ⟨hhere, hlater⟩ before after htext
    cases before with
    | nil => exact hhere (List.cons.inj htext).1
    | cons d before =>
      obtain ⟨rfl, hrest⟩ := List.cons.inj htext
      exact hlater before after hrest

/-- Two texts one after the other are read one after the other. -/
theorem hashesBehind_append {a b : Text} :
    HashesBehind parity odd (a ++ b) ↔
      HashesBehind parity odd a ∧ HashesBehind parity (oddAfter odd a) b := by
  induction a generalizing odd with
  | nil => exact ⟨fun h => ⟨hashesBehind_nil, h⟩, And.right⟩
  | cons c a ih => rw [List.cons_append, hashesBehind_cons, hashesBehind_cons, ih, and_assoc]; rfl

/-- A text without a hash sign satisfies any parity. -/
theorem hashesBehind_of_not_mem (h : '#' ∉ text) : HashesBehind parity odd text := by
  rintro before after rfl
  exact absurd (by simp) h

/-! ## Prose -/

/-- Prose is escaped character by character. -/
theorem escapeMarkdown_cons (c : Char) (text : Text) :
    escapeMarkdown (c :: text) = proseChar c ++ escapeMarkdown text := rfl

/-- An escaped character of prose has its hash sign escaped and passes on an even number of
backslashes. -/
theorem proseChar_spec (c : Char) :
    HashesBehind true false (proseChar c) ∧ oddAfter false (proseChar c) = false := by
  unfold proseChar
  split
  · exact ⟨by simp [hashesBehind_cons, hashesBehind_nil, oddStep], by simp [oddAfter, oddStep]⟩
  · next hplain =>
    have hhash : c ≠ '#' := fun hc => hplain (hc ▸ by decide)
    have hbackslash : c ≠ '\\' := fun hc => hplain (hc ▸ by decide)
    split
    · exact ⟨hashesBehind_of_not_mem (by decide), by decide⟩
    · exact ⟨hashesBehind_of_not_mem (by simpa using hhash.symm), oddAfter_concat hbackslash []⟩

/-- In prose every hash sign is escaped, and no backslash is left open. -/
theorem escapeMarkdown_spec (text : Text) :
    HashesBehind true false (escapeMarkdown text) ∧ oddAfter false (escapeMarkdown text) = false := by
  induction text with
  | nil => exact ⟨hashesBehind_nil, rfl⟩
  | cons c text ih =>
    obtain ⟨hhere, hnext⟩ := proseChar_spec c
    rw [escapeMarkdown_cons, hashesBehind_append, oddAfter_append, hnext]
    exact ⟨⟨hhere, ih.1⟩, ih.2⟩

/-! ## Lists -/

/-- Escaping the hash signs of an item gives them an odd number of backslashes exactly if they have
an even one. -/
theorem hashesBehind_escapeHash (item : Text) :
    HashesBehind true odd (escapeHash item) ↔ HashesBehind false odd item := by
  induction item generalizing odd with
  | nil => exact ⟨fun _ => hashesBehind_nil, fun _ => hashesBehind_nil⟩
  | cons c item ih =>
    have hescape : escapeHash (c :: item) =
        (if c = '#' then ['\\', '#'] else [c]) ++ escapeHash item := rfl
    rw [hescape]
    by_cases hc : c = '#'
    · subst hc
      have hnext : oddStep (oddStep odd '\\') '#' = oddStep odd '#' := by simp [oddStep]
      rw [if_pos rfl, List.cons_append, List.singleton_append, hashesBehind_cons, hashesBehind_cons,
        hashesBehind_cons, hnext, ih]
      simp [oddStep]
    · rw [if_neg hc, List.singleton_append, hashesBehind_cons, hashesBehind_cons, ih]
      simp [hc]

/-- Each item of a list has a line of its own. -/
theorem listItems_cons (item : String) (items : List String) :
    listItems (item :: items) =
      " - ".toList ++ escapeHash item.toList ++ ['\n'] ++ listItems items := rfl

/-- The hash signs of an item are escaped exactly if they were bare. -/
theorem hashesBehind_listItem (item : String) (items : List String) :
    HashesBehind true odd (listItems (item :: items)) ↔
      HashesBare item.toList ∧ HashesBehind true false (listItems items) := by
  have hdash : oddAfter odd " - ".toList = false := by
    have hspace : " - ".toList = [' ', '-'] ++ [' '] := rfl
    rw [hspace, oddAfter_concat (by decide)]
  have hmark : HashesBehind true odd " - ".toList := hashesBehind_of_not_mem (by decide)
  have hbreak : HashesBehind true (oddAfter false (escapeHash item.toList)) ['\n'] :=
    hashesBehind_of_not_mem (by decide)
  rw [listItems_cons, hashesBehind_append, oddAfter_concat (by decide), hashesBehind_append,
    hashesBehind_append, oddAfter_append, hdash, hashesBehind_escapeHash, hashesBare_iff]
  simp only [hmark, hbreak, true_and, and_true]

/-- A list ends with a line feed, so it passes on an even number of backslashes. -/
theorem oddAfter_listItems (items : List String) : oddAfter false (listItems items) = false := by
  induction items with
  | nil => rfl
  | cons item items ih =>
    rw [listItems_cons, oddAfter_append, oddAfter_concat (by decide), ih]

/-- The hash signs of a list are escaped exactly if they were bare in its items. -/
theorem hashesBehind_listItems (items : List String) :
    HashesBehind true false (listItems items) ↔ ∀ item ∈ items, HashesBare item.toList := by
  induction items with
  | nil => exact ⟨fun _ => by simp, fun _ => hashesBehind_nil⟩
  | cons item items ih => rw [hashesBehind_listItem, ih, List.forall_mem_cons]

/-! ## The documentation of an attribute -/

/-- A section is put together from a fixed heading and the items of a list. -/
theorem hashesBehind_section (heading ending : Text) (items : List String)
    (hheading : '#' ∉ heading) (hafter : oddAfter false heading = false) (hending : '#' ∉ ending) :
    HashesBehind true false (heading ++ listItems items ++ ending) ↔
      ∀ item ∈ items, HashesBare item.toList := by
  rw [hashesBehind_append, hashesBehind_append, hafter, hashesBehind_listItems]
  simp only [hashesBehind_of_not_mem hheading, hashesBehind_of_not_mem hending, true_and, and_true]

/-- The hash signs of the examples are escaped exactly if they were bare. -/
theorem hashesBehind_exampleSection (examples : Option (List String)) :
    HashesBehind true false (exampleSection examples) ↔
      ∀ items, examples = some items → ∀ item ∈ items, HashesBare item.toList := by
  cases examples with
  | none => exact ⟨fun _ => nofun, fun _ => hashesBehind_nil⟩
  | some items =>
    have hsection := hashesBehind_section (separator ++ "Examples:\n".toList) [] items (by decide)
      (by decide) (by decide)
    rw [List.append_nil] at hsection
    rw [exampleSection, hsection]
    simp only [Option.some.injEq, forall_eq']

/-- The examples pass on an even number of backslashes. -/
theorem oddAfter_exampleSection (examples : Option (List String)) :
    oddAfter false (exampleSection examples) = false := by
  cases examples with
  | none => rfl
  | some items =>
    have hheading : oddAfter false (separator ++ "Examples:\n".toList) = false := by decide
    rw [exampleSection, oddAfter_append, hheading, oddAfter_listItems]

/-- The hash signs of the values are escaped exactly if they were bare. -/
theorem hashesBehind_valueSection (values : Option (List String)) :
    HashesBehind true false (valueSection values) ↔
      ∀ items, values = some items → ∀ item ∈ items, HashesBare item.toList := by
  cases values with
  | none => exact ⟨fun _ => nofun, fun _ => hashesBehind_nil⟩
  | some items =>
    have hsection := hashesBehind_section (separator ++ "Values:\n\n".toList) ['\n'] items
      (by decide) (by decide) (by decide)
    rw [valueSection, hsection]
    simp only [Option.some.injEq, forall_eq']

/-- **Which hash signs reach the renderer escaped.** In the documentation of an attribute every hash
sign has an odd number of backslashes before it exactly if in the examples and accepted values every
hash sign has an even number of them before it. The description, whatever it is, does not matter. -/
theorem hashesEscaped_ofAttribute_iff (attr : Attribute) :
    HashesEscaped (ofAttribute attr) ↔
      ∀ items, attr.examples = some items ∨ attr.acceptedLiterals = some items →
        ∀ item ∈ items, HashesBare item.toList := by
  obtain ⟨hprose, hclosed⟩ := escapeMarkdown_spec attr.description.toList
  rw [hashesEscaped_iff, ofAttribute, hashesBehind_append, hashesBehind_append, oddAfter_append,
    hclosed, oddAfter_exampleSection, hashesBehind_exampleSection, hashesBehind_valueSection]
  simp only [hprose, true_and, or_imp, forall_and]

/-- An attribute with an example that is a backslash and a hash sign. -/
def colorAttribute : Attribute := { examples := some ["\\#"] }

/-- The documentation of this attribute has a hash sign behind two backslashes. -/
theorem escaped_backslash_frees_hash : ¬ HashesEscaped (ofAttribute colorAttribute) := by
  intro hescaped
  have hodd := hescaped "\n\n---\n\nExamples:\n - \\\\".toList ['\n'] (by decide)
  exact absurd hodd (by decide)

end FluentAssist.Documentation
