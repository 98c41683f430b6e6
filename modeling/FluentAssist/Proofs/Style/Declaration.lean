import FluentAssist.Proofs.Text.Lines
import FluentAssist.Proofs.Text.Search
import FluentAssist.Style.Position

/-!
# The declaration at the cursor

Of a style literal only one part decides what is typed: what the current declaration has before the
cursor. `PartBefore` says which part of the literal that is, without a search: it has no separator,
and it starts behind one or where the literal starts. There is exactly one such part
(`partBefore_iff`).

`position_exact_and_local` is the main statement. The place of the cursor says what this part reads
as, and its range holds what is typed in the document. Nothing else of the literal matters, neither
what comes before the part nor what follows the cursor.
-/

set_option autoImplicit false

namespace FluentAssist.Style

open Text (bytes floorOffset splitAtOffset isBlank)

/-- A literal that starts at `start` has `part` before the cursor, from behind its last separator
there, or from its start if there is none. -/
def PartBefore (literal : Text) (start cursor : Nat) (part : Text) : Prop :=
  ∃ front after, literal = front ++ (part ++ after) ∧ start + bytes front + bytes part = cursor ∧
    (∀ c ∈ part, c ≠ ';' ∧ c ≠ '\n') ∧
    (front = [] ∨ ∃ earlier c, front = earlier ++ [c] ∧ (c = ';' ∨ c = '\n'))

/-- The cursor moved into a range of a text, and from there to a character boundary. -/
def cursorIn (text : Text) (span : Span) (cursor : Nat) : Nat :=
  floorOffset text (max span.start (min cursor span.stop))

/-- Declarations are separated by semicolons and line feeds. -/
theorem isSeparator_iff {c : Char} : isSeparator c = true ↔ c = ';' ∨ c = '\n' := by
  simp [isSeparator]

/-- All other characters belong to a declaration. -/
theorem isSeparator_eq_false_iff {c : Char} : isSeparator c = false ↔ c ≠ ';' ∧ c ≠ '\n' := by
  simp [isSeparator]

variable {text literal part : Text} {span : Span} {cursor start : Nat}

/-- Moving the cursor in the document or in the literal is the same. -/
theorem cursorIn_eq (hliteral : span.Holds text literal) :
    cursorIn text span cursor = span.start + floorOffset literal (cursor - span.start) := by
  obtain ⟨before, after, rfl, rfl⟩ := hliteral
  dsimp only [cursorIn]
  by_cases hend : cursor - bytes before ≤ bytes literal
  · have hoffset : max (bytes before) (min cursor (bytes before + bytes literal)) =
        bytes before + (cursor - bytes before) := by omega
    rw [hoffset, Text.floorOffset_append_add, Text.floorOffset_append_of_le hend]
  · have hoffset : max (bytes before) (min cursor (bytes before + bytes literal)) =
        bytes before + bytes literal := by omega
    rw [hoffset, Text.floorOffset_append_add, Text.floorOffset_append_of_le (Nat.le_refl _),
      Text.floorOffset_of_bytes_le (Nat.le_refl _), Text.floorOffset_of_bytes_le (by omega)]

/-- The part before the cursor is what the search for the last separator gives. -/
theorem partBefore_iff {offset : Nat} :
    PartBefore literal start (start + floorOffset literal offset) part ↔
      part = segment (splitAtOffset literal offset).1 := by
  constructor
  · rintro ⟨front, after, hliteral, hcursor, hpart, hfront⟩
    have hbytes : bytes (front ++ part) = floorOffset literal offset := by
      rw [Text.bytes_append]
      omega
    have hsplit : splitAtOffset literal offset = (front ++ part, after) := by
      rw [← Text.splitAtOffset_floorOffset]
      exact Text.splitAtOffset_of_append (by rw [hliteral, List.append_assoc]) hbytes
    have hedge : front = [] ∨ ∃ earlier c, front = earlier ++ [c] ∧ isSeparator c = true := by
      rcases hfront with hempty | ⟨earlier, c, hearlier, hc⟩
      · exact .inl hempty
      · exact .inr ⟨earlier, c, hearlier, isSeparator_iff.2 hc⟩
    rw [hsplit, segment, Text.afterLast_append_of_edge hedge fun c hc =>
      isSeparator_eq_false_iff.2 (hpart c hc)]
  · rintro rfl
    obtain ⟨front, hfront, hpart, hedge⟩ :=
      Text.exists_append_afterLast isSeparator (splitAtOffset literal offset).1
    refine ⟨front, (splitAtOffset literal offset).2, ?_, ?_,
      fun c hc => isSeparator_eq_false_iff.1 (hpart c hc), ?_⟩
    · rw [segment, ← List.append_assoc, ← hfront, Text.splitAtOffset_append]
    · have hbytes := congrArg bytes hfront
      rw [Text.bytes_append] at hbytes
      rw [floorOffset, segment]
      omega
    · rcases hedge with rfl | ⟨earlier, c, hearlier, hc⟩
      · exact .inl rfl
      · exact .inr ⟨earlier, c, hearlier, isSeparator_iff.1 hc⟩

/-! ## What a part reads as -/

/-- Without a colon a part of a declaration is the name of a property. -/
theorem readSegment_of_no_colon (h : ':' ∉ part) :
    readSegment part = (.property, Text.trimStart part) := by
  rw [readSegment, Text.splitOnce?_eq_none_iff.2 h]

/-- The first colon of a declaration ends the name of its property. -/
theorem readSegment_of_colon {name value : Text} (h : ':' ∉ name) :
    readSegment (name ++ ':' :: value) =
      (.value (Text.lower (Text.trim name)), Text.trimStart value) := by
  rw [readSegment, Text.splitOnce?_eq_some_iff.2 ⟨rfl, h⟩]

/-- A part has no colon, or a first one. -/
theorem colon_cases (part : Text) :
    ':' ∉ part ∨ ∃ name value, part = name ++ ':' :: value ∧ ':' ∉ name := by
  cases hsplit : Text.splitOnce? ':' part with
  | none => exact .inl (Text.splitOnce?_eq_none_iff.1 hsplit)
  | some found => exact .inr ⟨found.1, found.2, Text.splitOnce?_eq_some_iff.1 hsplit⟩

/-- What is typed is the end of the declaration. -/
theorem readSegment_suffix (part : Text) : (readSegment part).2 <:+ part := by
  have htrim : ∀ value, Text.trimStart value <:+ value := fun value => List.dropWhile_suffix _
  rcases colon_cases part with hcolon | ⟨name, value, rfl, hname⟩
  · rw [readSegment_of_no_colon hcolon]
    exact htrim part
  · rw [readSegment_of_colon hname]
    exact (htrim value).trans ⟨name ++ [':'], by simp⟩

/-- What is typed does not start with white space. -/
theorem head?_readSegment (part : Text) :
    ∀ c ∈ (readSegment part).2.head?, isBlank c = false := by
  rcases colon_cases part with hcolon | ⟨name, value, rfl, hname⟩
  · rw [readSegment_of_no_colon hcolon]
    exact Text.head?_dropWhile_isBlank part
  · rw [readSegment_of_colon hname]
    exact Text.head?_dropWhile_isBlank value

/-! ## The place of the cursor -/

/-- What is typed ends the part of the literal before the cursor, and its range says where. -/
theorem exists_locate_eq (literal : Text) (cursor start : Nat) :
    ∃ inner : Span, inner.Holds literal (locate literal cursor start).typed ∧
      (locate literal cursor start).range = inner.shift start := by
  have hliteral := Text.splitAtOffset_append literal (cursor - start)
  simp only [locate]
  generalize Text.splitAtOffset literal (cursor - start) = parts at hliteral ⊢
  obtain ⟨before, after⟩ := parts
  obtain ⟨front, hfront, -⟩ := Text.exists_append_afterLast isSeparator before
  obtain ⟨skipped, hskipped⟩ := readSegment_suffix (segment before)
  have hbefore : before = (front ++ skipped) ++ (readSegment (segment before)).2 := by
    rw [List.append_assoc, hskipped]
    exact hfront
  generalize (readSegment (segment before)).2 = typed at hbefore ⊢
  refine ⟨_, ⟨front ++ skipped, after, by rw [← hliteral, hbefore]; simp, rfl⟩, ?_⟩
  simp only [hbefore, Span.shift, Text.bytes_append, Span.mk.injEq]
  omega

/-- The part before the cursor decides what the place of the cursor says. -/
theorem locate_of_partBefore
    (hpart : PartBefore literal start (start + floorOffset literal (cursor - start)) part) :
    (locate literal cursor start).mode = (readSegment part).1 ∧
      (locate literal cursor start).typed = (readSegment part).2 := by
  rw [partBefore_iff.1 hpart]
  exact ⟨rfl, rfl⟩

/-- The candidates of a position have the labels that are computed for it, in their order. -/
theorem map_label_candidates (position : StylePosition) :
    (candidates position).map (·.label) = labels position := by
  have hlabel : ∀ label, (candidateOf position label).label = label := by
    intro label
    unfold candidateOf
    split
    · rfl
    · rfl
  rw [candidates, labels_numbered, List.map_map]
  exact List.map_id'' hlabel (labels position)

/-- Mode and typed text decide what is offered. -/
theorem labels_congr {position position' : StylePosition} (hmode : position.mode = position'.mode)
    (htyped : position.typed = position'.typed) : labels position = labels position' := by
  rw [labels, labels, hmode, htyped]

/-- **The place of the cursor is exact and local.** Let a range of a document hold a literal, and
let the cursor, wherever it is, be moved into that range and to a character boundary. There is one
part of the literal that the current declaration has before this cursor. The range of the place ends
at the cursor, does not reach back beyond this part, and holds what is typed, which does not start
with white space. Without a colon in the part a property is typed, and that is the part without
leading white space; with a colon the property is the lower-case form of what stands before the
first colon, without white space around it, and what is typed is the rest without leading white
space. Every other literal in any document whose declaration has the same part before its cursor
gives the same mode, the same typed text and candidates with the same labels. -/
theorem position_exact_and_local (text literal : Text) (span : Span) (cursor : Nat)
    (hliteral : span.Holds text literal) :
    ∃ part position, locate literal cursor span.start = position ∧
      (∀ other, PartBefore literal span.start (cursorIn text span cursor) other ↔ other = part) ∧
      position.range.stop = cursorIn text span cursor ∧
      cursorIn text span cursor ≤ position.range.start + bytes part ∧
      position.range.Holds text position.typed ∧
      (∀ c ∈ position.typed.head?, isBlank c = false) ∧
      (':' ∉ part → position.mode = .property ∧ Text.StartTrimmed part position.typed) ∧
      (∀ name value, part = name ++ ':' :: value → ':' ∉ name →
        (∃ core, Text.Trimmed name core ∧ position.mode = .value (Text.lower core)) ∧
          Text.StartTrimmed value position.typed) ∧
      ∀ (text' literal' : Text) (span' : Span) (cursor' : Nat), span'.Holds text' literal' →
        PartBefore literal' span'.start (cursorIn text' span' cursor') part →
        (locate literal' cursor' span'.start).mode = position.mode ∧
          (locate literal' cursor' span'.start).typed = position.typed ∧
          (candidates (locate literal' cursor' span'.start)).map (·.label) =
            (candidates position).map (·.label) := by
  have hcursor : cursorIn text span cursor =
      span.start + floorOffset literal (cursor - span.start) := cursorIn_eq hliteral
  obtain ⟨part, hpart⟩ : ∃ part, ∀ other,
      PartBefore literal span.start (cursorIn text span cursor) other ↔ other = part :=
    ⟨_, fun other => by rw [hcursor]; exact partBefore_iff⟩
  obtain ⟨hmode, htyped⟩ := locate_of_partBefore (by rw [← hcursor]; exact (hpart part).2 rfl)
  have hstop : (locate literal cursor span.start).range.stop = cursorIn text span cursor :=
    hcursor.symm
  refine ⟨part, _, rfl, hpart, hstop, ?_, ?_, ?_, ?_, ?_, ?_⟩
  · have hstart : (locate literal cursor span.start).range.start =
        cursorIn text span cursor - bytes (locate literal cursor span.start).typed := by
      rw [← hstop]
      rfl
    obtain ⟨skipped, hskipped⟩ := readSegment_suffix part
    have hbytes := congrArg bytes hskipped
    rw [Text.bytes_append, ← htyped] at hbytes
    omega
  · obtain ⟨inner, hinner, hrange⟩ := exists_locate_eq literal cursor span.start
    rw [hrange]
    exact hliteral.shift hinner
  · rw [htyped]
    exact head?_readSegment part
  · intro hcolon
    rw [hmode, htyped, readSegment_of_no_colon hcolon]
    exact ⟨rfl, Text.startTrimmed_trimStart part⟩
  · rintro name value hsplit hname
    rw [hmode, htyped, hsplit, readSegment_of_colon hname]
    exact ⟨⟨_, Text.trimmed_trim name, rfl⟩, Text.startTrimmed_trimStart value⟩
  · intro text' literal' span' cursor' hliteral' hpart'
    rw [cursorIn_eq hliteral'] at hpart'
    obtain ⟨hmode', htyped'⟩ := locate_of_partBefore hpart'
    rw [map_label_candidates, map_label_candidates]
    exact ⟨hmode'.trans hmode.symm, htyped'.trans htyped.symm,
      labels_congr (hmode'.trans hmode.symm) (htyped'.trans htyped.symm)⟩

/-- A call with a style literal between 9 and 25. A cursor at 23 is in the value of its second
declaration. -/
def twoDeclarations : Text := "b.style('é:;\u00a0TOP : Flex')".toList

/-- What the second declaration has before that cursor. -/
def secondDeclaration : Text := "\u00a0TOP : Fl".toList

/-- At a cursor in the second declaration the same is offered as at the end of a literal that has
nothing else. -/
theorem position_exact_and_local_second :
    Span.Holds ⟨9, 25⟩ twoDeclarations "é:;\u00a0TOP : Flex".toList ∧
    Span.Holds ⟨0, 10⟩ secondDeclaration secondDeclaration ∧
    PartBefore "é:;\u00a0TOP : Flex".toList 9 23 secondDeclaration ∧
    PartBefore secondDeclaration 0 10 secondDeclaration ∧
    ∃ position, locate "é:;\u00a0TOP : Flex".toList 23 9 = position ∧
      position.range.stop = 23 ∧ position.range.Holds twoDeclarations position.typed ∧
      (∃ core, Text.Trimmed "\u00a0TOP ".toList core ∧ position.mode = .value (Text.lower core)) ∧
      Text.StartTrimmed " Fl".toList position.typed ∧
      (candidates (locate secondDeclaration 99 0)).map (·.label) =
        (candidates position).map (·.label) := by
  have hliteral : Span.Holds ⟨9, 25⟩ twoDeclarations "é:;\u00a0TOP : Flex".toList :=
    ⟨"b.style('".toList, "')".toList, by decide, by decide⟩
  have hshort : Span.Holds ⟨0, 10⟩ secondDeclaration secondDeclaration :=
    ⟨[], [], by decide, by decide⟩
  have hunbroken : ∀ c ∈ secondDeclaration, c ≠ ';' ∧ c ≠ '\n' := by
    have hall : secondDeclaration.all (fun c => c != ';' && c != '\n') = true := by decide
    simpa using hall
  have hpart : PartBefore "é:;\u00a0TOP : Flex".toList 9 23 secondDeclaration :=
    ⟨"é:;".toList, "ex".toList, by decide, by decide, hunbroken,
      .inr ⟨"é:".toList, ';', by decide, .inl rfl⟩⟩
  have hpart' : PartBefore secondDeclaration 0 10 secondDeclaration :=
    ⟨[], [], by decide, by decide, hunbroken, .inl rfl⟩
  obtain ⟨part, position, hposition, hunique, hstop, -, hholds, -, -, hvalue, hlocal⟩ :=
    position_exact_and_local twoDeclarations _ ⟨9, 25⟩ 23 hliteral
  obtain rfl : secondDeclaration = part := (hunique _).1 hpart
  obtain ⟨hmode, htyped⟩ := hvalue "\u00a0TOP ".toList " Fl".toList (by decide) (by decide)
  obtain ⟨-, -, hlabels⟩ := hlocal secondDeclaration _ ⟨0, 10⟩ 99 hshort hpart'
  exact ⟨hliteral, hshort, hpart, hpart', position, hposition, hstop, hholds, hmode, htyped,
    hlabels⟩

end FluentAssist.Style
