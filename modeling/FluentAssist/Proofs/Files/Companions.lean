import FluentAssist.Files.Companion
import FluentAssist.Proofs.Files.Extensions

/-!
# Companions lead back

A script and its component stand in one directory under one stem, and each of them is looked for
beside the other. Paths are compared by their components, so a slash behind a name does not matter.
`LeadsBack` is what is expected of every candidate: it has the directory and the stem of the path,
and the path is among its own candidates.

`companions_lead_back_iff` is the main statement. Whether there are candidates is decided by the
extension of the path, and all of them lead back unless the stem is a single dot. Then none does,
since the candidate of such a path, or the candidate of its candidate, is the parent directory.
-/

set_option autoImplicit false

namespace FluentAssist

namespace Path

/-- The components of the directory that a path lies in; the root and the empty path lie in none. -/
def parent? (path : Path) : Option (List Component) :=
  match path.components.getLast? with
  | none | some .root => none
  | some _ => some path.components.dropLast

/-- The parent of a path with a name has the components of its directory. -/
theorem Named.parent?_eq {path : Path} {directory tail : List UInt8} {stem extension : Name}
    (h : Named path directory stem extension tail) :
    path.parent? = some (components ⟨directory⟩) := by
  rw [parent?, h.components_eq, List.getLast?_concat, List.dropLast_concat]

end Path

namespace Companion

open FluentAssist.Path (Named IsExtension dot)

/-- The bytes of an extension. -/
def extensionOf (text : String) : Path.Name := (Path.ofString text).bytes

/-- The extensions of files that may have a companion. -/
def supported : List Path.Name := ["py", "vue", "js"].map extensionOf

/-- A candidate lies in the directory of a path, has its stem, and has the path, by its components,
among its own candidates. -/
structure LeadsBack (path other : Path) : Prop where
  parent : other.parent? = path.parent?
  fileStem : other.fileStem? = path.fileStem?
  back : ∃ paths, candidates other = .ok paths ∧
    ∃ found ∈ paths, found.components = path.components

/-! ## Which extensions go together -/

/-- The supported extensions are extensions: they have neither a dot nor a slash. -/
theorem isExtension_of_mem_supported {extension : Path.Name} (h : extension ∈ supported) :
    IsExtension extension := by
  have hall : ∀ extension ∈ supported,
      extension ≠ [] ∧ Path.slash ∉ extension ∧ dot ∉ extension := by decide
  obtain ⟨hne, hslash, hdot⟩ := hall extension h
  exact ⟨hne, hslash, hdot⟩

/-- There are companions for the supported extensions. -/
theorem isSome_extensionsFor?_iff {extension : Path.Name} :
    (extensionsFor? extension).isSome ↔ extension ∈ supported := by
  unfold extensionsFor?
  split
  · next h => exact iff_of_true rfl (h ▸ by decide)
  · next hscript =>
    split
    · next h =>
      refine iff_of_true rfl ?_
      simp only [List.mem_cons, List.not_mem_nil, or_false] at h
      rcases h with rfl | rfl <;> decide
    · next hcomponent =>
      refine iff_of_false (by simp) fun h => ?_
      simp only [supported, List.map_cons, List.map_nil, List.mem_cons, List.not_mem_nil,
        or_false, not_or] at h hcomponent
      rcases h with h | h | h
      · exact hscript h
      · exact hcomponent.1 h
      · exact hcomponent.2 h

/-- An extension with companions is supported. -/
theorem mem_supported_of_extensionsFor? {extension : Path.Name} {others : List String}
    (h : extensionsFor? extension = some others) : extension ∈ supported := by
  rw [← isSome_extensionsFor?_iff, h]
  rfl

/-- An extension with companions is an extension. -/
theorem isExtension_of_extensionsFor? {extension : Path.Name} {others : List String}
    (h : extensionsFor? extension = some others) : IsExtension extension :=
  isExtension_of_mem_supported (mem_supported_of_extensionsFor? h)

/-- Extensions that are looked for beside one are supported, and look for it in turn. -/
theorem extensionsFor?_symm {extension : Path.Name} {others : List String}
    (h : extensionsFor? extension = some others) :
    others ≠ [] ∧ ∀ other ∈ others, extensionOf other ∈ supported ∧
      ∃ back, extensionsFor? (extensionOf other) = some back ∧
        ∃ text ∈ back, extensionOf text = extension := by
  have hall : ∀ extension ∈ supported, ∀ others ∈ extensionsFor? extension,
      others ≠ [] ∧ ∀ other ∈ others, extensionOf other ∈ supported ∧
        ∃ back ∈ extensionsFor? (extensionOf other), ∃ text ∈ back,
          extensionOf text = extension := by
    decide
  exact hall extension (mem_supported_of_extensionsFor? h) others h

/-! ## Candidates -/

variable {path : Path} {directory tail : List UInt8} {stem extension : Path.Name}

/-- A path has no candidates exactly if it has no supported extension, and then it is named. -/
theorem candidates_eq_error_iff {fault : NavigationError} :
    candidates path = .error fault ↔
      fault = .unsupported path ∧ ∀ extension ∈ path.extension?, extension ∉ supported := by
  have hnone : path.extension?.bind extensionsFor? = none ↔
      ∀ extension ∈ path.extension?, extension ∉ supported := by
    rw [Option.bind_eq_none_iff]
    refine forall₂_congr fun extension _ => ?_
    rw [← isSome_extensionsFor?_iff, Option.not_isSome_iff_eq_none]
  rw [← hnone, candidates]
  cases path.extension?.bind extensionsFor? with
  | none => simp [eq_comm]
  | some others => simp

/-- The candidates of a path whose extension is supported, each with its extension. -/
theorem exists_of_candidates {others : List Path} (h : candidates path = .ok others) :
    ∃ directory stem extension tail texts, Named path directory stem extension tail ∧
      extensionsFor? extension = some texts ∧
      others = texts.map fun text => path.withExtension (extensionOf text) := by
  unfold candidates at h
  split at h
  · next texts hextensions =>
    cases h
    obtain ⟨extension, hextension, htexts⟩ := Option.bind_eq_some_iff.1 hextensions
    obtain ⟨directory, stem, tail, hnamed⟩ := Path.extension?_eq_some_iff.1 hextension
    exact ⟨directory, stem, extension, tail, texts, hnamed, htexts, rfl⟩
  · cases h

/-- The candidates of a path have its name with other extensions. -/
theorem candidates_of_named {texts : List String} (h : Named path directory stem extension tail)
    (htexts : extensionsFor? extension = some texts) :
    candidates path = .ok (texts.map fun text => path.withExtension (extensionOf text)) := by
  rw [candidates, h.extension?_eq, Option.bind_some, htexts]
  rfl

/-- A path that ends with `..` has no candidates. -/
theorem candidates_parent (hcut : Path.Cut path directory [dot, dot] tail) :
    candidates path = .error (.unsupported path) := by
  rw [candidates_eq_error_iff]
  refine ⟨rfl, fun extension hextension => ?_⟩
  rw [Path.extension?, hcut.fileName?_eq_none] at hextension
  cases hextension

/-- A candidate leads back to its path unless the stem of the path is a dot. -/
theorem leadsBack_of_stem {texts : List String} {text : String}
    (h : Named path directory stem extension tail)
    (htexts : extensionsFor? extension = some texts) (htext : text ∈ texts) (hstem : stem ≠ [dot]) :
    LeadsBack path (path.withExtension (extensionOf text)) := by
  obtain ⟨-, hall⟩ := extensionsFor?_symm htexts
  obtain ⟨hother, back, hback, original, horiginal, heq⟩ := hall text htext
  have hextension := isExtension_of_extensionsFor? htexts
  have hreplaced := h.replaced (isExtension_of_mem_supported hother)
  rw [h.withExtension_eq hextension.ne_nil (.inl hstem)]
  refine ⟨by rw [hreplaced.parent?_eq, h.parent?_eq],
    by rw [hreplaced.fileStem?_eq, h.fileStem?_eq], _, candidates_of_named hreplaced hback, _,
    List.mem_map_of_mem horiginal, ?_⟩
  rw [hreplaced.withExtension_eq (isExtension_of_mem_supported hother).ne_nil (.inl hstem), heq,
    (h.replaced hextension).components_eq, h.components_eq]

/-- From a path whose stem is a dot no candidate leads back. -/
theorem not_leadsBack_of_dot {texts : List String} {text : String}
    (h : Named path directory [dot] extension tail)
    (htexts : extensionsFor? extension = some texts) (htext : text ∈ texts) :
    ¬ LeadsBack path (path.withExtension (extensionOf text)) := by
  obtain ⟨-, hall⟩ := extensionsFor?_symm htexts
  obtain ⟨hother, -⟩ := hall text htext
  have hextension := isExtension_of_extensionsFor? htexts
  have hparent := h.cut.parent
  by_cases htail : tail = []
  · -- The candidate is the parent directory.
    subst htail
    rw [h.withExtension_of_dot]
    rintro ⟨-, -, paths, hpaths, -⟩
    rw [candidates_parent hparent] at hpaths
    cases hpaths
  · -- The candidate has the stem, but its candidates are the parent directory.
    have hreplaced := h.replaced (isExtension_of_mem_supported hother)
    rw [h.withExtension_eq hextension.ne_nil (.inr htail)]
    rintro ⟨-, -, paths, hpaths, found, hfound, hcomponents⟩
    obtain ⟨-, -, -, -, back, -, -, rfl⟩ := exists_of_candidates hpaths
    obtain ⟨original, -, rfl⟩ := List.mem_map.1 hfound
    rw [hreplaced.withExtension_of_dot, hparent.components_eq, h.components_eq] at hcomponents
    have hlast := congrArg List.getLast? hcomponents
    rw [List.getLast?_concat] at hlast
    have hdots : (Path.componentOf? [dot, dot]).toList = [.parent] := by decide
    rw [hdots, List.getLast?_concat] at hlast
    cases hlast

/-- **Companions lead back, unless their stem is a single dot.** For every path: its extension is
what follows the last dot of its last component, if there is something before that dot. There are no
candidates exactly if this is none of the three supported extensions, and the failure then says that
the path is not supported. Otherwise there are candidates, and each of them has the directory and
the stem of the path and has the path among its own candidates exactly if the stem is not a single
dot. -/
theorem companions_lead_back_iff (path : Path) :
    (∀ extension, path.extension? = some extension ↔
      ∃ stem, path.components.getLast? = some (.normal (stem ++ dot :: extension)) ∧
        stem ≠ [] ∧ dot ∉ extension) ∧
    (∀ fault, candidates path = .error fault ↔
      fault = .unsupported path ∧ ∀ extension ∈ path.extension?, extension ∉ supported) ∧
    ∀ others, candidates path = .ok others →
      others ≠ [] ∧ ∀ other ∈ others, LeadsBack path other ↔ path.fileStem? ≠ some [dot] := by
  refine ⟨fun _ => Path.extension?_eq_some_iff_getLast?, fun _ => candidates_eq_error_iff, ?_⟩
  intro others h
  obtain ⟨directory, stem, extension, tail, texts, hnamed, htexts, rfl⟩ := exists_of_candidates h
  refine ⟨by simpa using (extensionsFor?_symm htexts).1, ?_⟩
  intro other hother
  obtain ⟨text, htext, rfl⟩ := List.mem_map.1 hother
  rw [hnamed.fileStem?_eq, ne_eq, Option.some.injEq]
  by_cases hstem : stem = [dot]
  · subst hstem
    exact iff_of_false (not_leadsBack_of_dot hnamed htexts htext) (by simp)
  · exact iff_of_true (leadsBack_of_stem hnamed htexts htext hstem) hstem

/-- Beside the script `..py` the parent directory is looked for, and neither has the other as its
candidate. -/
theorem dotted_script_leads_to_parent :
    (Path.ofString "..py").fileStem? = some [dot] ∧
    candidates (.ofString "..py") = .ok [.ofString "..", .ofString ".."] ∧
    candidates (.ofString "..") = .error (.unsupported (.ofString "..")) ∧
    ¬ LeadsBack (.ofString "..py") (.ofString "..") := by
  have hparent : candidates (.ofString "..") = .error (.unsupported (.ofString "..")) := by decide
  refine ⟨by decide, by decide, hparent, ?_⟩
  rintro ⟨-, -, paths, hpaths, -⟩
  rw [hparent] at hpaths
  cases hpaths

end Companion

end FluentAssist
