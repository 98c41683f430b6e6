import FluentAssist.Preview
import FluentAssist.Proofs.Text.Search

/-!
# The address in the page of a preview

The page has the address in two quoted attributes, escaped by four entities. `decode` reads entities
back, and `valuesBehind` finds the quoted values of a page without knowing how it was made: a
quotation mark opens a value, the next one closes it, and what stands outside is markup.

`page_holds_address` is the main statement. No character of an address is left that could end a
value or start a tag, so the markup is the same for every address, and the two values decode to the
address that was put in.
-/

set_option autoImplicit false

namespace FluentAssist.Preview

/-! ## Entities -/

/-- The written forms of the characters that are escaped. -/
def entities : List Text := ["&amp;", "&quot;", "&lt;", "&gt;"].map String.toList

/-- Reads entities from left to right; what starts no entity stands for itself. -/
def decode : Text → Text
  | '&' :: 'a' :: 'm' :: 'p' :: ';' :: rest => '&' :: decode rest
  | '&' :: 'q' :: 'u' :: 'o' :: 't' :: ';' :: rest => '"' :: decode rest
  | '&' :: 'l' :: 't' :: ';' :: rest => '<' :: decode rest
  | '&' :: 'g' :: 't' :: ';' :: rest => '>' :: decode rest
  | c :: rest => c :: decode rest
  | [] => []

/-- A text with one character replaced wherever it stands. -/
def replaceChar (c : Char) (by_ text : Text) : Text :=
  text.flatMap fun d => if d = c then by_ else [d]

/-- A character that is no ampersand stands for itself. -/
theorem decode_cons {c : Char} (hc : c ≠ '&') (rest : Text) :
    decode (c :: rest) = c :: decode rest := by
  rw [decode] <;> exact fun _ h => absurd h hc

/-- A character is an entity, or it is none of those that are escaped and stands for itself. -/
theorem attributeChar_cases (c : Char) :
    attributeChar c ∈ entities ∨ c ≠ '&' ∧ c ≠ '"' ∧ c ≠ '<' ∧ c ≠ '>' ∧ attributeChar c = [c] := by
  unfold attributeChar
  by_cases hamp : c = '&'
  · rw [if_pos hamp]
    exact .inl (by decide)
  by_cases hquote : c = '"'
  · rw [if_neg hamp, if_pos hquote]
    exact .inl (by decide)
  by_cases hless : c = '<'
  · rw [if_neg hamp, if_neg hquote, if_pos hless]
    exact .inl (by decide)
  by_cases hgreater : c = '>'
  · rw [if_neg hamp, if_neg hquote, if_neg hless, if_pos hgreater]
    exact .inl (by decide)
  · rw [if_neg hamp, if_neg hquote, if_neg hless, if_neg hgreater]
    exact .inr ⟨hamp, hquote, hless, hgreater, rfl⟩

/-- A text is escaped character by character. -/
theorem escapeAttribute_cons (c : Char) (text : Text) :
    escapeAttribute (c :: text) = attributeChar c ++ escapeAttribute text := rfl

/-- Every character is decoded from its own form, whatever follows. -/
theorem decode_attributeChar_append (c : Char) (rest : Text) :
    decode (attributeChar c ++ rest) = c :: decode rest := by
  unfold attributeChar
  split
  · next h => subst h; rfl
  split
  · next h => subst h; rfl
  split
  · next h => subst h; rfl
  split
  · next h => subst h; rfl
  · next hamp _ _ _ => exact decode_cons hamp rest

/-- What was escaped is decoded to what it was. -/
theorem decode_escapeAttribute (text : Text) : decode (escapeAttribute text) = text := by
  induction text with
  | nil => rfl
  | cons c text ih => rw [escapeAttribute_cons, decode_attributeChar_append, ih]

/-- What could end a value or start a tag is not left in an escaped text. -/
theorem not_mem_escapeAttribute {c : Char} (hc : c = '"' ∨ c = '<' ∨ c = '>') (text : Text) :
    c ∉ escapeAttribute text := by
  have hentities : ∀ entity ∈ entities, '"' ∉ entity ∧ '<' ∉ entity ∧ '>' ∉ entity := by decide
  rw [escapeAttribute, List.mem_flatMap]
  rintro ⟨d, -, hmem⟩
  rcases attributeChar_cases d with hentity | ⟨-, hquote, hless, hgreater, hself⟩
  · obtain ⟨hquote, hless, hgreater⟩ := hentities _ hentity
    rcases hc with rfl | rfl | rfl
    · exact hquote hmem
    · exact hless hmem
    · exact hgreater hmem
  · rw [hself, List.mem_singleton] at hmem
    rcases hc with rfl | rfl | rfl
    · exact hquote hmem.symm
    · exact hless hmem.symm
    · exact hgreater hmem.symm

/-- Every ampersand of an escaped text starts an entity. -/
theorem entity_of_ampersand {text before after : Text}
    (h : escapeAttribute text = before ++ '&' :: after) :
    ∃ entity ∈ entities, entity <+: '&' :: after := by
  have htails : ∀ entity ∈ entities, '&' ∉ entity.tail := by decide
  induction text generalizing before with
  | nil => cases before <;> cases h
  | cons c text ih =>
    rw [escapeAttribute_cons] at h
    rcases List.append_eq_append_iff.1 h with ⟨later, rfl, hrest⟩ | ⟨inner, hhere, hrest⟩
    · exact ih hrest
    cases inner with
    | nil =>
      have hstarts : escapeAttribute text = [] ++ '&' :: after := hrest.symm
      exact ih hstarts
    | cons d inner =>
      obtain ⟨rfl, hafter⟩ := List.cons.inj hrest
      have hmem : '&' ∈ attributeChar c := by simp [hhere]
      rcases attributeChar_cases c with hentity | ⟨hamp, -, -, -, hself⟩
      · -- An entity has no ampersand but the first character.
        have htail := htails _ hentity
        cases before with
        | nil => exact ⟨_, hentity, escapeAttribute text, by rw [hhere, hafter]; rfl⟩
        | cons b before => simp [hhere] at htail
      · rw [hself, List.mem_singleton] at hmem
        exact absurd hmem.symm hamp

/-- Four replacements one after the other are one replacement of each character, if the ampersands
are replaced first. -/
theorem escapeAttribute_eq_replaceChar (text : Text) :
    escapeAttribute text =
      replaceChar '>' "&gt;".toList (replaceChar '<' "&lt;".toList
        (replaceChar '"' "&quot;".toList (replaceChar '&' "&amp;".toList text))) := by
  unfold replaceChar escapeAttribute
  rw [List.flatMap_assoc, List.flatMap_assoc, List.flatMap_assoc]
  congr 1
  funext c
  unfold attributeChar
  split
  · rfl
  split
  · next hquote => subst hquote; rfl
  split
  · next hless => subst hless; rfl
  split
  · next hgreater => subst hgreater; rfl
  · next hamp hquote hless hgreater =>
    rw [List.flatMap_singleton, if_neg hquote, List.flatMap_singleton, if_neg hless,
      List.flatMap_singleton, if_neg hgreater]

/-! ## The page -/

/-- The values behind markup with the given ending, among the parts of a page between quotation
marks. A value counts when its closing mark is there. -/
def valuesIn (opening : Text) : List Text → List Text
  | markup :: value :: next :: rest =>
    (if Text.endsWith markup opening then [value] else []) ++ valuesIn opening (next :: rest)
  | _ => []

/-- The quoted values of a page behind markup with the given ending, from left to right. -/
def valuesBehind (opening page : Text) : List Text := valuesIn opening (Text.pieces '"' page)

/-- What stands outside of quoted values, among the parts of a page between quotation marks. -/
def markupIn : List Text → List Text
  | markup :: _ :: rest => markup :: markupIn rest
  | rest => rest

/-- Whether the last of some parts of a page is markup that opens a value. -/
def endOpens (opening : Text) (parts : List Text) : Bool :=
  parts.getLast?.any (Text.endsWith · opening)

/-- Parts that leave no value open do not change how the parts behind the next value are read. -/
theorem valuesIn_append (opening value : Text) {parts rest : List Text}
    (hparts : parts.length % 2 = 1) (hrest : rest ≠ []) :
    valuesIn opening (parts ++ value :: rest) =
      valuesIn opening parts ++
        ((if endOpens opening parts then [value] else []) ++ valuesIn opening rest) := by
  induction parts using valuesIn.induct with
  | case1 markup inner next parts ih =>
    have hlast : endOpens opening (markup :: inner :: next :: parts) =
        endOpens opening (next :: parts) := by
      simp only [endOpens, List.getLast?_cons_cons]
    rw [List.length_cons, List.length_cons] at hparts
    rw [hlast, valuesIn, List.append_assoc, ← ih (by omega), List.cons_append, List.cons_append,
      List.cons_append, valuesIn]
  | case2 parts hshort =>
    obtain ⟨next, rest, rfl⟩ := List.exists_cons_of_ne_nil hrest
    rcases parts with _ | ⟨markup, _ | ⟨inner, _ | ⟨later, parts⟩⟩⟩
    · simp at hparts
    · rfl
    · simp at hparts
    · exact absurd rfl (hshort markup inner later parts)

/-- A value behind an odd number of parts is left out of the markup. -/
theorem markupIn_append (value : Text) {parts : List Text} (hparts : parts.length % 2 = 1)
    (rest : List Text) :
    markupIn (parts ++ value :: rest) = markupIn parts ++ markupIn rest := by
  induction parts using markupIn.induct with
  | case1 markup inner parts ih =>
    rw [List.length_cons, List.length_cons] at hparts
    rw [List.cons_append, List.cons_append, markupIn, ih (by omega), markupIn, List.cons_append]
  | case2 parts hshort =>
    rcases parts with _ | ⟨markup, _ | ⟨inner, parts⟩⟩
    · simp at hparts
    · rfl
    · exact absurd rfl (hshort markup inner parts)

/-- The markup that opens the value of the first attribute with the address. -/
def dataOpening : Text := "data=".toList

/-- The markup that opens the value of the second attribute with the address. -/
def srcOpening : Text := "src=".toList

/-- The parts of the page before the first place of the address. -/
def headParts : List Text := Text.pieces '"' pageHead.dropLast

/-- The parts of the page between the two places of the address. -/
def middleParts : List Text := Text.pieces '"' pageMiddle.tail.dropLast

/-- The parts of the page after the second place of the address. -/
def tailParts : List Text := Text.pieces '"' pageTail.tail

-- The kernel is slow on the characters of a string, so in the next three lemmas the fixed parts are
-- written as lists of characters before anything is computed from them.

/-- The head of the page ends where the first value begins and has no value of its own. -/
theorem pageHead_spec :
    pageHead = pageHead.dropLast ++ ['"'] ∧ headParts.length % 2 = 1 ∧
    valuesIn dataOpening headParts = [] ∧ valuesIn srcOpening headParts = [] ∧
    endOpens dataOpening headParts = true ∧ endOpens srcOpening headParts = false := by
  have hchars : pageHead = _ := String.toList_append.trans (congrArg₂ (· ++ ·)
    (String.toList_append.trans (congrArg₂ (· ++ ·) String.toList_ofList String.toList_ofList))
    String.toList_ofList)
  rw [headParts, hchars]
  decide +kernel

/-- The middle of the page ends where the second value begins and has no value of its own. -/
theorem pageMiddle_spec :
    pageMiddle = '"' :: (pageMiddle.tail.dropLast ++ ['"']) ∧ middleParts.length % 2 = 1 ∧
    valuesIn dataOpening middleParts = [] ∧ valuesIn srcOpening middleParts = [] ∧
    endOpens dataOpening middleParts = false ∧ endOpens srcOpening middleParts = true := by
  have hchars : pageMiddle = _ := String.toList_ofList
  rw [middleParts, hchars]
  decide +kernel

/-- The tail of the page begins with a quotation mark and has no value of its own. -/
theorem pageTail_spec :
    pageTail = '"' :: pageTail.tail ∧ tailParts ≠ [] ∧ valuesIn dataOpening tailParts = [] ∧
    valuesIn srcOpening tailParts = [] := by
  have hchars : pageTail = _ :=
    String.toList_append.trans (congrArg₂ (· ++ ·) String.toList_ofList String.toList_ofList)
  rw [tailParts, hchars]
  decide +kernel

/-- The parts of the page between its quotation marks. -/
theorem pieces_pageOf (address : Text) :
    Text.pieces '"' (pageOf address) =
      headParts ++ escapeAttribute address ::
        (middleParts ++ escapeAttribute address :: tailParts) := by
  have hvalue : Text.pieces '"' (escapeAttribute address) = [escapeAttribute address] :=
    Text.pieces_of_not_mem (not_mem_escapeAttribute (.inl rfl) address)
  have hpage : pageOf address = pageHead.dropLast ++ '"' :: (escapeAttribute address ++
      '"' :: (pageMiddle.tail.dropLast ++ '"' :: (escapeAttribute address ++
        '"' :: pageTail.tail))) := by
    calc
      pageOf address = (pageHead.dropLast ++ ['"']) ++ escapeAttribute address ++
          '"' :: (pageMiddle.tail.dropLast ++ ['"']) ++ escapeAttribute address ++
          '"' :: pageTail.tail := by
        rw [← pageHead_spec.1, ← pageMiddle_spec.1, ← pageTail_spec.1, pageOf]
      _ = _ := by simp only [List.append_assoc, List.cons_append, List.nil_append]
  rw [hpage, Text.pieces_append_cons, Text.pieces_append_cons, Text.pieces_append_cons,
    Text.pieces_append_cons, hvalue, List.singleton_append, List.singleton_append]
  rfl

/-- The values behind an attribute of the page come from its two places. -/
theorem valuesBehind_pageOf {opening : Text} (address : Text)
    (hhead : valuesIn opening headParts = []) (hmiddle : valuesIn opening middleParts = [])
    (htail : valuesIn opening tailParts = []) :
    valuesBehind opening (pageOf address) =
      (if endOpens opening headParts then [escapeAttribute address] else []) ++
        (if endOpens opening middleParts then [escapeAttribute address] else []) := by
  obtain ⟨-, hoddHead, -⟩ := pageHead_spec
  obtain ⟨-, hoddMiddle, -⟩ := pageMiddle_spec
  obtain ⟨-, hne, -⟩ := pageTail_spec
  rw [valuesBehind, pieces_pageOf, valuesIn_append _ _ hoddHead (by simp),
    valuesIn_append _ _ hoddMiddle hne, hhead, hmiddle, htail, List.append_nil, List.nil_append,
    List.nil_append]

/-- The markup of the page does not depend on the address. -/
theorem markupIn_pageOf (address : Text) :
    markupIn (Text.pieces '"' (pageOf address)) =
      markupIn headParts ++ (markupIn middleParts ++ markupIn tailParts) := by
  obtain ⟨-, hoddHead, -⟩ := pageHead_spec
  obtain ⟨-, hoddMiddle, -⟩ := pageMiddle_spec
  rw [pieces_pageOf, markupIn_append _ hoddHead, markupIn_append _ hoddMiddle]

/-- **The page cannot be broken out of.** An escaped text has no character that ends a value or
starts a tag, its ampersands all start entities, and decoding gives the text back; the replacements
may be made one after the other, ampersands first. So for every address the page has exactly one
value behind each of its two attributes for the address, this value decodes to the address, and what
stands outside of values is the same as for any other address. -/
theorem page_holds_address (address : Text) :
    ('"' ∉ escapeAttribute address ∧ '<' ∉ escapeAttribute address ∧
      '>' ∉ escapeAttribute address) ∧
    (∀ before after, escapeAttribute address = before ++ '&' :: after →
      ∃ entity ∈ entities, entity <+: '&' :: after) ∧
    decode (escapeAttribute address) = address ∧
    escapeAttribute address =
      replaceChar '>' "&gt;".toList (replaceChar '<' "&lt;".toList
        (replaceChar '"' "&quot;".toList (replaceChar '&' "&amp;".toList address))) ∧
    (valuesBehind dataOpening (pageOf address)).map decode = [address] ∧
    (valuesBehind srcOpening (pageOf address)).map decode = [address] ∧
    ∀ other, markupIn (Text.pieces '"' (pageOf address)) =
      markupIn (Text.pieces '"' (pageOf other)) := by
  obtain ⟨-, -, hdataHead, hsrcHead, hdataOpens, hsrcOpens⟩ := pageHead_spec
  obtain ⟨-, -, hdataMiddle, hsrcMiddle, hdataOpens', hsrcOpens'⟩ := pageMiddle_spec
  obtain ⟨-, -, hdataTail, hsrcTail⟩ := pageTail_spec
  have hdata : valuesBehind dataOpening (pageOf address) = [escapeAttribute address] := by
    rw [valuesBehind_pageOf address hdataHead hdataMiddle hdataTail, hdataOpens, hdataOpens']
    rfl
  have hsrc : valuesBehind srcOpening (pageOf address) = [escapeAttribute address] := by
    rw [valuesBehind_pageOf address hsrcHead hsrcMiddle hsrcTail, hsrcOpens, hsrcOpens']
    rfl
  refine ⟨⟨not_mem_escapeAttribute (.inl rfl) _, not_mem_escapeAttribute (.inr (.inl rfl)) _,
    not_mem_escapeAttribute (.inr (.inr rfl)) _⟩, fun _ _ => entity_of_ampersand,
    decode_escapeAttribute address, escapeAttribute_eq_replaceChar address, ?_, ?_, ?_⟩
  · rw [hdata, List.map_singleton, decode_escapeAttribute]
  · rw [hsrc, List.map_singleton, decode_escapeAttribute]
  · intro other
    rw [markupIn_pageOf, markupIn_pageOf]

end FluentAssist.Preview
