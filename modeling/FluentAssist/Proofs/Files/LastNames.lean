import FluentAssist.Files.Path
import FluentAssist.Proofs.Text.Lines
import FluentAssist.Proofs.Text.Search

/-!
# The last name of a path

The name of a path is found from the end of its bytes: slashes and `.` parts behind it are passed
over, and the name reaches back to the slash before it. Components are found from the start, by
cutting at every slash. `Cut` puts the two together: the bytes of a path in front of a name, the
name, and a tail that has no component. So a path has the components of its directory and one more
(`Cut.components_eq`), and its name is the last of them, if that is a name
(`fileName?_eq_some_iff_getLast?`).
-/

set_option autoImplicit false

namespace FluentAssist.Path

/-! ## Tails -/

/-- What may follow the last name of a path without being a component: slashes and `.` parts. -/
inductive IsTail : List UInt8 → Prop
  | nil : IsTail []
  | slash {rest : List UInt8} (h : IsTail rest) : IsTail (slash :: rest)
  | current {rest : List UInt8} (h : IsTail rest) : IsTail (slash :: dot :: rest)

namespace IsTail

/-- Two tails one behind the other are a tail. -/
theorem append {tail more : List UInt8} (h : IsTail tail) (hmore : IsTail more) :
    IsTail (tail ++ more) := by
  induction h with
  | nil => exact hmore
  | slash _ ih => exact ih.slash
  | current _ ih => exact ih.current

/-- A tail that is cut off anywhere is a tail. -/
theorem take {tail : List UInt8} (h : IsTail tail) (count : Nat) : IsTail (tail.take count) := by
  induction h generalizing count with
  | nil =>
    rw [List.take_nil]
    exact .nil
  | slash _ ih =>
    cases count with
    | zero => exact .nil
    | succ count => exact (ih count).slash
  | current _ ih =>
    rcases count with _ | _ | count
    · exact .nil
    · exact IsTail.nil.slash
    · exact (ih count).current

/-- A tail adds no component to the name before it. -/
theorem filterMap_pieces {tail : List UInt8} (h : IsTail tail) {name : Name}
    (hname : Path.slash ∉ name) :
    (Text.pieces Path.slash (name ++ tail)).filterMap componentOf? =
      (componentOf? name).toList := by
  induction h generalizing name with
  | nil =>
    rw [List.append_nil, Text.pieces_of_not_mem hname]
    cases hname : componentOf? name <;> simp [hname]
  | @slash rest _ ih =>
    have hrest : (Text.pieces Path.slash rest).filterMap componentOf? = [] :=
      @ih [] (by simp)
    rw [Text.pieces_append_cons, Text.pieces_of_not_mem hname, List.filterMap_append, hrest]
    cases hname : componentOf? name <;> simp [hname]
  | @current rest _ ih =>
    have hrest : (Text.pieces Path.slash (dot :: rest)).filterMap componentOf? = [] :=
      @ih [dot] (by decide)
    rw [Text.pieces_append_cons, Text.pieces_of_not_mem hname, List.filterMap_append, hrest]
    cases hname : componentOf? name <;> simp [hname]

/-- The first part of a path with one name is the name. -/
theorem head?_pieces {tail : List UInt8} (h : IsTail tail) {name : Name}
    (hname : Path.slash ∉ name) : (Text.pieces Path.slash (name ++ tail)).head? = some name := by
  cases h with
  | nil => rw [List.append_nil, Text.pieces_of_not_mem hname]; rfl
  | slash | current =>
    rw [Text.pieces_append_cons, Text.pieces_of_not_mem hname]
    rfl

end IsTail

/-! ## The end of the last name -/

/-- Reversed bytes that start with the last byte of a name which is not `.`. -/
def StartsName (reversed : List UInt8) : Prop :=
  ∃ b rest, reversed = b :: rest ∧ b ≠ slash ∧ ¬ (b = dot ∧ rest.head? = some slash)

/-- A slash at the end is passed over. -/
theorem dropTail_slash (reversed : List UInt8) :
    dropTail (slash :: reversed) = dropTail reversed := by
  cases reversed with
  | nil => rfl
  | cons c rest => rw [dropTail, if_pos rfl]

/-- A `.` part at the end is passed over. -/
theorem dropTail_current (reversed : List UInt8) :
    dropTail (dot :: slash :: reversed) = dropTail reversed := by
  rw [dropTail, if_neg (by decide), if_pos ⟨rfl, rfl⟩]

/-- Where a name ends nothing is passed over. -/
theorem dropTail_of_startsName {reversed : List UInt8} (h : StartsName reversed) :
    dropTail reversed = reversed := by
  obtain ⟨b, rest, rfl, hslash, hdot⟩ := h
  cases rest with
  | nil => rw [dropTail, if_neg hslash]
  | cons c rest =>
    have hcurrent : ¬ (b = dot ∧ c = slash) := by simpa using hdot
    rw [dropTail, if_neg hslash, if_neg hcurrent]

/-- A tail is passed over as a whole. -/
theorem dropTail_append_tail {tail : List UInt8} (h : IsTail tail) (front : List UInt8) :
    dropTail (front ++ tail).reverse = dropTail front.reverse := by
  induction h generalizing front with
  | nil => rw [List.append_nil]
  | @slash rest _ ih =>
    have hfront : front ++ Path.slash :: rest = (front ++ [Path.slash]) ++ rest := by simp
    rw [hfront, ih, List.reverse_append, List.reverse_singleton, List.singleton_append,
      dropTail_slash]
  | @current rest _ ih =>
    have hfront : front ++ Path.slash :: dot :: rest = (front ++ [Path.slash, dot]) ++ rest := by
      simp
    rw [hfront, ih, List.reverse_append]
    exact dropTail_current _

/-- What is dropped is a tail, and what is left ends with a name or is nothing. -/
theorem exists_tail_of_dropTail (reversed : List UInt8) :
    (dropTail reversed = [] ∨ StartsName (dropTail reversed)) ∧
      ∃ tail, IsTail tail ∧ reversed.reverse = (dropTail reversed).reverse ++ tail := by
  induction reversed using dropTail.induct with
  | case1 => exact ⟨.inl rfl, [], .nil, rfl⟩
  | case2 =>
    exact ⟨.inl rfl, [slash], IsTail.nil.slash, rfl⟩
  | case3 b hb =>
    have hkept : dropTail [b] = [b] := by rw [dropTail, if_neg hb]
    rw [hkept]
    exact ⟨.inr ⟨b, [], rfl, hb, by simp⟩, [], .nil, rfl⟩
  | case4 c rest ih =>
    obtain ⟨hleft, tail, htail, hrest⟩ := ih
    rw [dropTail_slash]
    refine ⟨hleft, tail ++ [slash], htail.append IsTail.nil.slash, ?_⟩
    rw [List.reverse_cons, hrest, List.append_assoc]
  | case5 b c rest hb hcurrent ih =>
    obtain ⟨rfl, rfl⟩ := hcurrent
    obtain ⟨hleft, tail, htail, hrest⟩ := ih
    rw [dropTail_current]
    refine ⟨hleft, tail ++ [slash, dot], htail.append IsTail.nil.current, ?_⟩
    rw [List.reverse_cons, List.reverse_cons, hrest]
    simp
  | case6 b c rest hb hcurrent =>
    have hstarts : StartsName (b :: c :: rest) :=
      ⟨b, c :: rest, rfl, hb, by simpa using hcurrent⟩
    rw [dropTail_of_startsName hstarts]
    exact ⟨.inr hstarts, [], .nil, by simp⟩

/-! ## Cuts -/

/-- A path cut before and behind its last part that is neither empty nor `.`. -/
structure Cut (path : Path) (directory : List UInt8) (name : Name) (tail : List UInt8) : Prop where
  bytes_eq : path.bytes = directory ++ (name ++ tail)
  edge : directory = [] ∨ ∃ init, directory = init ++ [slash]
  ne_nil : name ≠ []
  ne_current : name ≠ [dot]
  unbroken : slash ∉ name
  tail : IsTail tail

variable {path : Path} {directory tail : List UInt8} {name : Name}

/-- The body of a path is what stands before a tail, if a name ends there or nothing is left. -/
theorem body_of_bytes_eq {front : List UInt8} (hbytes : path.bytes = front ++ tail)
    (htail : IsTail tail) (hfront : front = [] ∨ StartsName front.reverse) : path.body = front := by
  rw [body, hbytes, dropTail_append_tail htail]
  rcases hfront with rfl | hfront
  · rfl
  · rw [dropTail_of_startsName hfront, List.reverse_reverse]

/-- No byte of a name without slashes is one. -/
theorem isSlash_eq_false {name : Name} (h : slash ∉ name) :
    ∀ b ∈ name, (b == slash) = false := by
  intro b hb
  rw [beq_eq_false_iff_ne]
  rintro rfl
  exact h hb

namespace Cut

/-- A cut path ends, before its tail, with a name. -/
theorem startsName (h : Cut path directory name tail) :
    StartsName (directory ++ name).reverse := by
  obtain ⟨init, b, rfl⟩ := (List.eq_nil_or_concat' name).resolve_left h.ne_nil
  refine ⟨b, (directory ++ init).reverse, by simp, ?_, ?_⟩
  · rintro rfl
    exact h.unbroken (by simp)
  · rintro ⟨rfl, hslash⟩
    rw [List.head?_reverse] at hslash
    rcases List.eq_nil_or_concat' init with rfl | ⟨init, c, rfl⟩
    · exact h.ne_current rfl
    · have hc : c = Path.slash := by simpa using hslash
      exact h.unbroken (by simp [hc])

/-- The body of a cut path is its directory and its name. -/
theorem body_eq (h : Cut path directory name tail) : path.body = directory ++ name :=
  body_of_bytes_eq (by rw [h.bytes_eq, List.append_assoc]) h.tail (.inr h.startsName)

/-- The last name of a cut path is its name. -/
theorem lastName_eq (h : Cut path directory name tail) : path.lastName = name := by
  rw [lastName, h.body_eq]
  refine Text.afterLast_append_of_edge ?_ (isSlash_eq_false h.unbroken)
  rcases h.edge with hempty | ⟨init, hinit⟩
  · exact .inl hempty
  · exact .inr ⟨init, Path.slash, hinit, rfl⟩

/-- The directory of a cut path is what stands before its name. -/
theorem directory_eq (h : Cut path directory name tail) : path.directory = directory := by
  rw [Path.directory, h.body_eq, h.lastName_eq, List.length_append, Nat.add_sub_cancel,
    List.take_left]

end Cut

/-- A path has no part that counts at its end, or is `.` and a tail, or can be cut. -/
theorem cut_cases (path : Path) :
    IsTail path.bytes ∨ (∃ tail, IsTail tail ∧ path.bytes = [dot] ++ tail) ∨
      ∃ directory name tail, Cut path directory name tail := by
  obtain ⟨hkept, tail, htail, hbytes⟩ := exists_tail_of_dropTail path.bytes.reverse
  rw [List.reverse_reverse] at hbytes
  rcases hkept with hempty | ⟨b, rest, hkept, hb, hdot⟩
  · rw [hempty] at hbytes
    exact .inl (hbytes ▸ htail)
  rw [hkept] at hbytes
  obtain ⟨front, hfront, hplain, hedge⟩ :=
    Text.exists_append_afterLast (· == slash) (b :: rest).reverse
  generalize Text.afterLast (· == slash) (b :: rest).reverse = name at hfront hplain
  have hunbroken : slash ∉ name := fun hmem => by simpa using hplain _ hmem
  have hslash : front = [] ∨ ∃ init, front = init ++ [slash] := by
    refine hedge.imp_right ?_
    rintro ⟨init, c, rfl, hc⟩
    exact ⟨init, by rw [beq_iff_eq.1 hc]⟩
  have hreverse : b :: rest = name.reverse ++ front.reverse := by
    rw [← List.reverse_append, ← hfront, List.reverse_reverse]
  have hne : name ≠ [] := by
    rintro rfl
    rcases hslash with rfl | ⟨init, rfl⟩
    · cases hreverse
    · rw [List.reverse_nil, List.nil_append, List.reverse_append] at hreverse
      exact hb (List.cons.inj hreverse).1
  by_cases hcurrent : name = [dot]
  · subst hcurrent
    rcases hslash with rfl | ⟨init, rfl⟩
    · exact .inr (.inl ⟨tail, htail, by rw [hbytes, hfront, List.nil_append]⟩)
    · rw [List.reverse_append] at hreverse
      obtain ⟨rfl, rfl⟩ := List.cons.inj hreverse
      exact absurd ⟨rfl, rfl⟩ hdot
  · refine .inr (.inr ⟨front, name, tail, ?_, hslash, hne, hcurrent, hunbroken, htail⟩)
    rw [hbytes, hfront, List.append_assoc]

/-- The name of a path is the last part that counts, unless that is `..`. -/
theorem fileName?_eq_some_iff :
    path.fileName? = some name ↔
      name ≠ [dot, dot] ∧ ∃ directory tail, Cut path directory name tail := by
  have hname : path.fileName? = some name ↔
      path.lastName = name ∧ name ≠ [] ∧ name ≠ [dot] ∧ name ≠ [dot, dot] := by
    simp only [fileName?]
    split
    · next hnone =>
      simp only [Bool.or_eq_true, List.isEmpty_iff, beq_iff_eq] at hnone
      constructor
      · rintro ⟨⟩
      · rintro ⟨rfl, hne, hcurrent, hparent⟩
        rcases hnone with (hnone | hnone) | hnone <;> contradiction
    · next hsome =>
      simp only [Bool.or_eq_true, List.isEmpty_iff, beq_iff_eq, not_or] at hsome
      rw [Option.some.injEq]
      constructor
      · rintro rfl
        exact ⟨rfl, hsome.1.1, hsome.1.2, hsome.2⟩
      · exact fun h => h.1
  rw [hname]
  constructor
  · rintro ⟨hlast, hne, hcurrent, hparent⟩
    refine ⟨hparent, ?_⟩
    rcases cut_cases path with hall | ⟨tail, htail, hbytes⟩ | ⟨directory, name', tail, hcut⟩
    · have hbody : path.body = [] := body_of_bytes_eq (List.nil_append _).symm hall (.inl rfl)
      rw [lastName, hbody] at hlast
      exact absurd hlast.symm hne
    · have hbody : path.body = [dot] :=
        body_of_bytes_eq hbytes htail (.inr ⟨dot, [], rfl, by decide, by simp⟩)
      rw [lastName, hbody] at hlast
      exact absurd hlast.symm hcurrent
    · rw [hcut.lastName_eq] at hlast
      exact ⟨directory, tail, hlast ▸ hcut⟩
  · rintro ⟨hparent, directory, tail, hcut⟩
    exact ⟨hcut.lastName_eq, hcut.ne_nil, hcut.ne_current, hparent⟩

/-! ## Components -/

/-- A part that is neither empty nor one of the dots is a name. -/
theorem componentOf?_eq_normal (hne : name ≠ []) (hcurrent : name ≠ [dot])
    (hparent : name ≠ [dot, dot]) : componentOf? name = some (.normal name) := by
  simp [componentOf?, hne, hcurrent, hparent]

/-- Behind a slash of a path the components are those of the parts behind it. -/
theorem components_append_slash (init rest : List UInt8) :
    components ⟨init ++ slash :: rest⟩ =
      components ⟨init ++ [slash]⟩ ++ (Text.pieces slash rest).filterMap componentOf? := by
  have hroot : isAbsolute ⟨init ++ slash :: rest⟩ = isAbsolute ⟨init ++ [slash]⟩ := by
    cases init <;> rfl
  have hfirst : ∀ later, (Text.pieces slash init ++ later).head? =
      (Text.pieces slash init).head? := by
    obtain ⟨part, parts, hparts⟩ := Text.exists_pieces_eq_cons slash init
    intro later
    rw [hparts]
    rfl
  have hnone : (Text.pieces slash []).filterMap componentOf? = [] := rfl
  simp only [components, hroot, Path.parts, Text.pieces_append_cons, hfirst,
    List.filterMap_append, hnone, List.append_nil, List.append_assoc]

/-- A path that can be cut has the components of its directory, and one more for the name. -/
theorem Cut.components_eq (h : Cut path directory name tail) :
    path.components = components ⟨directory⟩ ++ (componentOf? name).toList := by
  have hpath : path = ⟨directory ++ (name ++ tail)⟩ := by rw [← h.bytes_eq]
  rw [hpath]
  rcases h.edge with rfl | ⟨init, rfl⟩
  · have hroot : isAbsolute ⟨name ++ tail⟩ = false := by
      obtain ⟨b, rest, rfl⟩ := List.exists_cons_of_ne_nil h.ne_nil
      have hb : b ≠ Path.slash := fun hb => h.unbroken (by simp [hb])
      simp [isAbsolute, hb]
    have hfirst : (Text.pieces Path.slash (name ++ tail)).head? = some name :=
      h.tail.head?_pieces h.unbroken
    have hcurrent : ¬ (some name == some [dot]) = true := by
      simpa using h.ne_current
    have hempty : components ⟨[]⟩ = [] := rfl
    rw [List.nil_append, hempty, List.nil_append]
    simp only [components, hroot, Path.parts, hfirst, hcurrent, Bool.false_eq_true, if_false,
      List.nil_append, h.tail.filterMap_pieces h.unbroken]
  · rw [List.append_assoc, List.singleton_append, components_append_slash,
      h.tail.filterMap_pieces h.unbroken]

/-- The parent directory of the directory of a path. -/
theorem Cut.parent (h : Cut path directory name tail) :
    Cut ⟨directory ++ [dot, dot]⟩ directory [dot, dot] [] where
  bytes_eq := by rw [List.append_nil]
  edge := h.edge
  ne_nil := by decide
  ne_current := by decide
  unbroken := by decide
  tail := .nil

/-- A path that ends with `..` has no name. -/
theorem Cut.fileName?_eq_none (h : Cut path directory [dot, dot] tail) : path.fileName? = none := by
  rw [Option.eq_none_iff_forall_ne_some]
  intro name hname
  obtain ⟨hparent, directory', tail', hcut⟩ := fileName?_eq_some_iff.1 hname
  exact hparent (hcut.lastName_eq.symm.trans h.lastName_eq)

/-- The components of a cut path are those of its directory and its name, unless this is the parent
directory. -/
theorem Cut.components_eq_normal (h : Cut path directory name tail) (hparent : name ≠ [dot, dot]) :
    path.components = components ⟨directory⟩ ++ [.normal name] := by
  rw [h.components_eq, componentOf?_eq_normal h.ne_nil h.ne_current hparent]
  rfl

/-- The name of a path is its last component, if that is a name. -/
theorem fileName?_eq_some_iff_getLast? :
    path.fileName? = some name ↔ path.components.getLast? = some (.normal name) := by
  constructor
  · intro hname
    obtain ⟨hparent, directory, tail, hcut⟩ := fileName?_eq_some_iff.1 hname
    rw [hcut.components_eq_normal hparent, List.getLast?_concat]
  · intro hlast
    have hplain : ∀ {front tail : List UInt8}, path.bytes = front ++ tail → IsTail tail →
        slash ∉ front → componentOf? front = none → False := by
      intro front tail hbytes htail hfront hnone
      have hparts : path.parts.filterMap componentOf? = [] := by
        rw [Path.parts, hbytes, htail.filterMap_pieces hfront, hnone]
        rfl
      simp only [components, hparts, List.append_nil] at hlast
      split at hlast
      · cases hlast
      · split at hlast <;> cases hlast
    rcases cut_cases path with hall | ⟨tail, htail, hbytes⟩ | ⟨directory, name', tail, hcut⟩
    · exact (hplain (List.nil_append _).symm hall (by simp) rfl).elim
    · exact (hplain hbytes htail (by decide) (by decide)).elim
    · by_cases hparent : name' = [dot, dot]
      · rw [hcut.components_eq, hparent] at hlast
        have hdots : (componentOf? [dot, dot]).toList = [.parent] := by decide
        rw [hdots, List.getLast?_concat] at hlast
        cases hlast
      · rw [hcut.components_eq_normal hparent, List.getLast?_concat] at hlast
        cases hlast
        exact fileName?_eq_some_iff.2 ⟨hparent, directory, tail, hcut⟩

end FluentAssist.Path
