import FluentAssist.Proofs.Files.LastNames

/-!
# Extensions

`Named` cuts a path also at the dot before its extension. Such a path has the extension and the stem
that it is cut into, and its last component is put together from them
(`extension?_eq_some_iff_getLast?`).

Replacing an extension first takes as many bytes off the end of a path as the extension has. If the
name has a tail, these are bytes of the tail, and a beginning of the extension may be left.
`Named.withExtension_eq` says that this does not matter but for one stem: of the name `..py` only the
parent directory is left, and the new extension is put nowhere (`Named.withExtension_of_dot`).
-/

set_option autoImplicit false

namespace FluentAssist.Path

variable {path : Path} {directory tail : List UInt8} {name stem extension : Name}

/-! ## Stem and extension -/

/-- No byte of a text without dots is one. -/
theorem isDot_eq_false (h : dot ∉ extension) : ∀ b ∈ extension, (b == dot) = false := by
  intro b hb
  rw [beq_eq_false_iff_ne]
  rintro rfl
  exact h hb

/-- A name is split at its last dot. -/
theorem splitName_append (hstem : stem ≠ []) (hplain : dot ∉ extension) :
    splitName (stem ++ dot :: extension) = (stem, some extension) := by
  have hlast : Text.afterLast (· == dot) (stem ++ dot :: extension) = extension := by
    have hname : stem ++ dot :: extension = (stem ++ [dot]) ++ extension := by simp
    rw [hname]
    exact Text.afterLast_append_of_edge (.inr ⟨stem, dot, rfl, rfl⟩) (isDot_eq_false hplain)
  have htake : (stem ++ dot :: extension).take
      ((stem ++ dot :: extension).length - extension.length - 1) = stem := by
    have hlength : (stem ++ dot :: extension).length - extension.length - 1 = stem.length := by
      rw [List.length_append, List.length_cons]
      omega
    rw [hlength, List.take_left]
  have hsome : ¬ stem.isEmpty = true := by simpa using hstem
  simp only [splitName, hlast, htake, hsome, Bool.false_eq_true, if_false]

/-- A name has an extension exactly if it has a last dot and something before it. -/
theorem splitName_eq_some_iff :
    splitName name = (stem, some extension) ↔
      name = stem ++ dot :: extension ∧ stem ≠ [] ∧ dot ∉ extension := by
  constructor
  · intro h
    obtain ⟨front, hname, hplain, hedge⟩ := Text.exists_append_afterLast (· == dot) name
    unfold splitName at h
    dsimp only at h
    generalize Text.afterLast (· == dot) name = last at hname hplain h
    split at h
    · cases h
    · next hstem =>
      simp only [Prod.mk.injEq, Option.some.injEq] at h
      obtain ⟨rfl, rfl⟩ := h
      rw [List.isEmpty_iff] at hstem
      rcases hedge with rfl | ⟨init, c, rfl, hc⟩
      · rw [hname] at hstem
        exact absurd (by simp) hstem
      · have hc : c = dot := beq_iff_eq.1 hc
        have hlength : name.length - last.length - 1 = init.length := by
          rw [hname]
          simp only [List.length_append, List.length_singleton]
          omega
        have htake : name.take (name.length - last.length - 1) = init := by
          rw [hlength, hname, List.append_assoc, List.take_left]
        refine ⟨?_, hstem, fun hmem => by simpa using hplain _ hmem⟩
        rw [htake]
        simpa [hc] using hname
  · rintro ⟨rfl, hstem, hplain⟩
    exact splitName_append hstem hplain

/-- A path cut before and behind its name and at the dot before its extension. -/
structure Named (path : Path) (directory : List UInt8) (stem extension : Name)
    (tail : List UInt8) : Prop where
  cut : Cut path directory (stem ++ dot :: extension) tail
  not_parent : stem ++ dot :: extension ≠ [dot, dot]
  stem_ne : stem ≠ []
  plain : dot ∉ extension

namespace Named

/-- The name of a path is its stem, a dot and its extension. -/
theorem fileName?_eq (h : Named path directory stem extension tail) :
    path.fileName? = some (stem ++ dot :: extension) :=
  fileName?_eq_some_iff.2 ⟨h.not_parent, directory, tail, h.cut⟩

/-- The extension of a path is what follows the last dot of its name. -/
theorem extension?_eq (h : Named path directory stem extension tail) :
    path.extension? = some extension := by
  rw [extension?, h.fileName?_eq, Option.bind_some, splitName_append h.stem_ne h.plain]

/-- The stem of a path is what stands before the last dot of its name. -/
theorem fileStem?_eq (h : Named path directory stem extension tail) :
    path.fileStem? = some stem := by
  rw [fileStem?, h.fileName?_eq, Option.map_some, splitName_append h.stem_ne h.plain]

/-- The components of a path are those of its directory and its name. -/
theorem components_eq (h : Named path directory stem extension tail) :
    path.components = components ⟨directory⟩ ++ [.normal (stem ++ dot :: extension)] :=
  h.cut.components_eq_normal h.not_parent

end Named

/-- A path has an extension exactly if it can be cut at its name and at a dot in it. -/
theorem extension?_eq_some_iff :
    path.extension? = some extension ↔
      ∃ directory stem tail, Named path directory stem extension tail := by
  constructor
  · intro h
    obtain ⟨name, hname, hsplit⟩ := Option.bind_eq_some_iff.1 h
    obtain ⟨hparent, directory, tail, hcut⟩ := fileName?_eq_some_iff.1 hname
    have hsplit' : splitName name = ((splitName name).1, some extension) := Prod.ext rfl hsplit
    obtain ⟨hparts, hstem, hplain⟩ := splitName_eq_some_iff.1 hsplit'
    rw [hparts] at hcut hparent
    exact ⟨directory, _, tail, hcut, hparent, hstem, hplain⟩
  · rintro ⟨directory, stem, tail, h⟩
    exact h.extension?_eq

/-- The extension of a path is what follows the last dot of its last component, if there is
something before that dot. -/
theorem extension?_eq_some_iff_getLast? :
    path.extension? = some extension ↔
      ∃ stem, path.components.getLast? = some (.normal (stem ++ dot :: extension)) ∧
        stem ≠ [] ∧ dot ∉ extension := by
  constructor
  · intro h
    obtain ⟨directory, stem, tail, hnamed⟩ := extension?_eq_some_iff.1 h
    exact ⟨stem, fileName?_eq_some_iff_getLast?.1 hnamed.fileName?_eq, hnamed.stem_ne,
      hnamed.plain⟩
  · rintro ⟨stem, hlast, hstem, hplain⟩
    rw [extension?, fileName?_eq_some_iff_getLast?.2 hlast, Option.bind_some,
      splitName_append hstem hplain]

/-! ## Another extension -/

/-- What can be put behind a stem and is its extension then. -/
structure IsExtension (extension : Name) : Prop where
  ne_nil : extension ≠ []
  unbroken : slash ∉ extension
  plain : dot ∉ extension

/-- A stem with an extension is not the current directory. -/
theorem append_dot_ne_current (hstem : stem ≠ []) : stem ++ dot :: extension ≠ [dot] := by
  obtain ⟨b, rest, rfl⟩ := List.exists_cons_of_ne_nil hstem
  simp

/-- A stem with an extension is the parent directory only if the stem is a dot and the extension is
empty. -/
theorem append_dot_eq_parent_iff (hstem : stem ≠ []) :
    stem ++ dot :: extension = [dot, dot] ↔ stem = [dot] ∧ extension = [] := by
  obtain ⟨b, rest, rfl⟩ := List.exists_cons_of_ne_nil hstem
  cases rest with
  | nil => simp
  | cons c rest => simp

namespace Named

variable {old new : Name}

/-- The parts of the same name with another extension and without the tail. -/
theorem replaced (h : Named path directory stem old tail) (hnew : IsExtension new) :
    Named ⟨directory ++ (stem ++ dot :: new)⟩ directory stem new [] where
  cut := {
    bytes_eq := by rw [List.append_nil]
    edge := h.cut.edge
    ne_nil := by simp
    ne_current := append_dot_ne_current h.stem_ne
    unbroken := by
      have hstem : slash ∉ stem := fun hmem => h.cut.unbroken (List.mem_append_left _ hmem)
      have hdot : slash ≠ dot := by decide
      simp [hstem, hdot, hnew.unbroken]
    tail := .nil }
  not_parent := fun hparent => hnew.ne_nil ((append_dot_eq_parent_iff h.stem_ne).1 hparent).2
  stem_ne := h.stem_ne
  plain := hnew.plain

/-- What is left of a path when as many bytes as its extension has are taken off its end: a
beginning of the extension that is as long as the tail, and what is left of the tail. -/
theorem take_eq (h : Named path directory stem old tail) :
    path.bytes.take (path.bytes.length - old.length) =
      directory ++
        ((stem ++ dot :: old.take tail.length) ++ tail.take (tail.length - old.length)) := by
  have hbytes : path.bytes = (directory ++ (stem ++ [dot])) ++ (old ++ tail) := by
    rw [h.cut.bytes_eq]
    simp
  have hlength : path.bytes.length - old.length =
      (directory ++ (stem ++ [dot])).length + tail.length := by
    rw [hbytes]
    simp only [List.length_append]
    omega
  rw [hlength, hbytes, List.take_length_add_append, List.take_append]
  simp

/-- What is left has the same stem, unless it is the parent directory. -/
theorem shortened (h : Named path directory stem old tail) (hold : old ≠ [])
    (hstem : stem ≠ [dot] ∨ tail ≠ []) :
    Named ⟨path.bytes.take (path.bytes.length - old.length)⟩ directory stem
      (old.take tail.length) (tail.take (tail.length - old.length)) where
  cut := {
    bytes_eq := h.take_eq
    edge := h.cut.edge
    ne_nil := by simp
    ne_current := append_dot_ne_current h.stem_ne
    unbroken := by
      have hunbroken := h.cut.unbroken
      simp only [List.mem_append, List.mem_cons, not_or] at hunbroken ⊢
      exact ⟨hunbroken.1, hunbroken.2.1, fun hmem => hunbroken.2.2 (List.mem_of_mem_take hmem)⟩
    tail := h.cut.tail.take _ }
  not_parent := by
    rw [ne_eq, append_dot_eq_parent_iff h.stem_ne, List.take_eq_nil_iff, List.length_eq_zero_iff]
    rintro ⟨hdot, htail | hnil⟩
    · exact hstem.elim (absurd hdot) (absurd htail)
    · exact hold hnil
  stem_ne := h.stem_ne
  plain := fun hmem => h.plain (List.mem_of_mem_take hmem)

/-- Setting the extension of a path cuts it behind its stem. -/
theorem setExtension_eq (h : Named path directory stem old tail) (new : Name) :
    path.setExtension new = ⟨directory ++ (stem ++ dot :: new)⟩ := by
  rw [setExtension, h.fileStem?_eq]
  simp only [h.cut.directory_eq, List.append_assoc]

/-- The new extension takes the place of the old one and of the tail. -/
theorem withExtension_eq (h : Named path directory stem old tail) (hold : old ≠ [])
    (hstem : stem ≠ [dot] ∨ tail ≠ []) (new : Name) :
    path.withExtension new = ⟨directory ++ (stem ++ dot :: new)⟩ := by
  rw [withExtension, h.extension?_eq]
  exact (h.shortened hold hstem).setExtension_eq new

/-- A name that starts with its two dots and has no tail becomes the parent directory. -/
theorem withExtension_of_dot (h : Named path directory [dot] old []) (new : Name) :
    path.withExtension new = ⟨directory ++ [dot, dot]⟩ := by
  have hleft : path.bytes.take (path.bytes.length - old.length) = directory ++ [dot, dot] := by
    rw [h.take_eq]
    simp
  rw [withExtension, h.extension?_eq]
  simp only [hleft, setExtension, fileStem?, h.cut.parent.fileName?_eq_none, Option.map_none]

end Named

end FluentAssist.Path
