import FluentAssist.Proofs.Server.Turns
import Mathlib.Logic.Function.Basic

/-!
# What an analysis holds of the documents

An analysis that applies what it is told holds one version of every document that was opened and not
closed since. `Analyzer.Notice.applied` is what one notice does to that. A change of a document that
is not open may be refused, as the server does it, or may open the document; an analysis of the
latter kind is called lenient.

Notices about different documents commute, and so do a closing and a change. What the server does to
its own documents is the same as what the notice does to the scripts among them.
-/

set_option autoImplicit false

namespace FluentAssist

open Analyzer (Notice)

namespace Analyzer.Notice

/-- The document that a notice is about. -/
def uri? : Notice → Option Url
  | .opened document => some document.uri
  | .changed document => some document.uri
  | .closed uri => some uri
  | .initialized => none
  | .exit => none

/-- What a notice leaves of the version that was held of its document. -/
def leaves (lenient : Bool) (held : Option Snapshot) : Notice → Option Snapshot
  | .opened document => some document
  | .changed document => if lenient then some document else held.map fun _ => document
  | .closed _ => none
  | .initialized => held
  | .exit => held

/-- What is held of the documents after a notice. -/
def applied (lenient : Bool) (held : Url → Option Snapshot) (notice : Notice) :
    Url → Option Snapshot :=
  match notice.uri? with
  | none => held
  | some uri => Function.update held uri (notice.leaves lenient (held uri))

variable {lenient : Bool} {held : Url → Option Snapshot} {notice other : Notice} {uri : Url}

/-- A notice about a document changes what is held of it and nothing else. -/
theorem applied_eq_update (huri : notice.uri? = some uri) :
    applied lenient held notice =
      Function.update held uri (notice.leaves lenient (held uri)) := by
  unfold applied
  rw [huri]

/-- A notice that is not about documents changes nothing. -/
theorem applied_of_not_isNews (hnews : notice.isNews = false) :
    applied lenient held notice = held := by
  cases notice with
  | initialized => rfl
  | exit => rfl
  | _ => cases hnews

/-- Only the change of a document that is not held makes a difference between analyses. -/
theorem applied_changed {document : Snapshot}
    (hheld : lenient = true → (held document.uri).isSome = true) :
    applied lenient held (.changed document) = applied false held (.changed document) := by
  rw [applied_eq_update rfl, applied_eq_update rfl]
  cases lenient with
  | false => rfl
  | true =>
    obtain ⟨former, hformer⟩ := Option.isSome_iff_exists.mp (hheld rfl)
    rw [hformer]
    rfl

/-- Notices about different documents commute. -/
theorem applied_comm_of_ne {uri' : Url} (huri : notice.uri? = some uri)
    (huri' : other.uri? = some uri') (hne : uri ≠ uri') :
    applied false (applied false held notice) other =
      applied false (applied false held other) notice := by
  rw [applied_eq_update huri, applied_eq_update huri', applied_eq_update huri',
    applied_eq_update huri, Function.update_of_ne hne.symm, Function.update_of_ne hne,
    Function.update_comm hne]

/-- A change does not matter to a document that is closed anyway. -/
theorem applied_closed_comm {document : Snapshot} :
    applied false (applied false held (.closed document.uri)) (.changed document) =
      applied false (applied false held (.changed document)) (.closed document.uri) := by
  rw [applied_eq_update rfl, applied_eq_update rfl, applied_eq_update rfl, applied_eq_update rfl,
    Function.update_idem, Function.update_idem, Function.update_self]
  rfl

/-- What commutes with every notice commutes with all of them. -/
theorem foldl_applied_comm {notices : List Notice}
    (hcomm : ∀ other ∈ notices, ∀ held, applied false (applied false held notice) other =
      applied false (applied false held other) notice) (held : Url → Option Snapshot) :
    notices.foldl (applied false) (applied false held notice) =
      applied false (notices.foldl (applied false) held) notice := by
  induction notices generalizing held with
  | nil => rfl
  | cons first later ih =>
    rw [List.foldl_cons, List.foldl_cons, hcomm first List.mem_cons_self]
    exact ih (fun other hmem => hcomm other (List.mem_cons_of_mem _ hmem)) _

/-- A document that is held stays held as long as nothing is closed. -/
theorem isSome_foldl_applied {notices : List Notice}
    (hkeep : ∀ notice ∈ notices, ∀ uri, notice ≠ .closed uri)
    (hheld : (held uri).isSome = true ∨
      ∃ document, .opened document ∈ notices ∧ document.uri = uri) :
    (notices.foldl (applied false) held uri).isSome = true := by
  induction notices generalizing held with
  | nil =>
    rcases hheld with hsome | ⟨document, hmem, -⟩
    · exact hsome
    · cases hmem
  | cons first later ih =>
    rw [List.foldl_cons]
    apply ih fun notice hmem => hkeep notice (List.mem_cons_of_mem _ hmem)
    -- The first notice keeps what is held, and may be the opening itself.
    have hfirst : (held uri).isSome = true →
        (applied false held first uri).isSome = true := by
      intro hsome
      cases first with
      | closed other => exact absurd rfl (hkeep _ List.mem_cons_self other)
      | opened document =>
        rw [applied_eq_update rfl, Function.update_apply]
        split
        · rfl
        · exact hsome
      | changed document =>
        rw [applied_eq_update rfl, Function.update_apply]
        split
        · rename_i huri
          rw [← huri]
          simpa [leaves] using hsome
        · exact hsome
      | _ => exact hsome
    rcases hheld with hsome | ⟨document, hmem, rfl⟩
    · exact Or.inl (hfirst hsome)
    · rcases List.mem_cons.mp hmem with rfl | hlater
      · left
        rw [applied_eq_update rfl, Function.update_self]
        rfl
      · exact Or.inr ⟨document, hlater, rfl⟩

/-- Documents that are opened one after another, each once, are held afterwards. -/
theorem foldl_opened {documents : List Snapshot}
    (hunique : (documents.map (·.uri)).Nodup) (held : Url → Option Snapshot) (uri : Url) :
    (documents.map Notice.opened).foldl (applied false) held uri =
      (documents.find? (·.uri = uri)).or (held uri) := by
  induction documents generalizing held with
  | nil => rfl
  | cons document later ih =>
    rw [List.map_cons, List.nodup_cons] at hunique
    rw [List.map_cons, List.foldl_cons, ih hunique.2, applied_eq_update rfl,
      Function.update_apply, List.find?_cons]
    by_cases huri : document.uri = uri
    · subst huri
      have hnone : later.find? (·.uri = document.uri) = none := by
        rw [List.find?_eq_none]
        intro entry hmem
        have hne : entry.uri ≠ document.uri := by
          intro hsame
          exact hunique.1 (hsame ▸ List.mem_map_of_mem hmem)
        simpa using hne
      simp [hnone, leaves]
    · simp [huri, Ne.symm huri]

end Analyzer.Notice

namespace Documents

variable (documents : Documents) (document : Snapshot) (uri other : Url)

/-- After closing a document all others are open as before. -/
theorem snapshot?_close :
    (documents.close other).snapshot? uri =
      if uri = other then none else documents.snapshot? uri := by
  unfold snapshot? close
  dsimp only
  rw [List.find?_filter]
  by_cases huri : uri = other
  · subst huri
    rw [if_pos rfl, List.find?_eq_none]
    simp
  · rw [if_neg huri]
    congr 1
    funext entry
    by_cases hentry : entry.uri = uri
    · simp [hentry, huri]
    · simp [hentry]

/-- After opening a document it is open as it was given, and all others as before. -/
theorem snapshot?_openDocument :
    (documents.openDocument document).snapshot? uri =
      if uri = document.uri then some document else documents.snapshot? uri := by
  have happend : (documents.openDocument document).snapshot? uri =
      ((documents.close document.uri).snapshot? uri).or
        ([document].find? (·.uri = uri)) := List.find?_append
  rw [happend, snapshot?_close]
  by_cases huri : uri = document.uri
  · subst huri
    simp
  · simp [huri, Ne.symm huri]

/-- An update replaces a document that is open, and no other. -/
theorem snapshot?_update :
    (documents.update document).snapshot? uri =
      if uri = document.uri then (documents.snapshot? document.uri).map fun _ => document
      else documents.snapshot? uri := by
  unfold snapshot? update
  dsimp only
  induction documents.entries with
  | nil => simp
  | cons entry later ih =>
    rw [List.map_cons, List.find?_cons, List.find?_cons]
    by_cases hentry : entry.uri = document.uri
    · by_cases huri : uri = document.uri
      · simp [hentry, huri]
      · simpa [hentry, huri, Ne.symm huri] using ih
    · by_cases huri : entry.uri = uri
      · have hne : uri ≠ document.uri := fun hsame => hentry (huri.trans hsame)
        simp [huri, hne]
      · simpa [hentry, huri] using ih

/-- The version that is held of every open script. -/
def scripts : Url → Option Snapshot := fun uri =>
  if uri.isScript then documents.snapshot? uri else none

variable {documents} {next : Documents} {value : Option Snapshot}

/-- The scripts after the version of one document has changed. -/
theorem scripts_eq_update {notice : Notice} (huri : notice.uri? = some uri)
    (hscript : uri.isScript = true)
    (hnext : ∀ other, next.snapshot? other = if other = uri
      then notice.leaves false (documents.snapshot? uri) else documents.snapshot? other) :
    next.scripts = Notice.applied false documents.scripts notice := by
  rw [Notice.applied_eq_update huri]
  funext other
  unfold scripts
  rw [Function.update_apply, hnext]
  by_cases hother : other = uri
  · subst hother
    simp [hscript]
  · simp [hother]

/-- Documents that are no scripts do not matter. -/
theorem scripts_eq_of_not_isScript (hscript : uri.isScript = false)
    (hnext : ∀ other, next.snapshot? other =
      if other = uri then value else documents.snapshot? other) :
    next.scripts = documents.scripts := by
  funext other
  unfold scripts
  rw [hnext]
  by_cases hother : other = uri
  · subst hother
    simp [hscript]
  · simp [hother]

/-- Every address is open once. -/
def Unique (documents : Documents) : Prop := (documents.entries.map (·.uri)).Nodup

/-- Closing keeps at most one document for each address. -/
theorem Unique.close (hunique : documents.Unique) (uri : Url) : (documents.close uri).Unique :=
  hunique.sublist (List.filter_sublist.map _)

/-- Opening keeps at most one document for each address. -/
theorem Unique.openDocument (hunique : documents.Unique) (document : Snapshot) :
    (documents.openDocument document).Unique := by
  unfold Unique Documents.openDocument
  rw [List.map_append, List.nodup_append]
  refine ⟨hunique.close document.uri, by simp, ?_⟩
  intro uri hmem other hother
  obtain ⟨entry, hentry, rfl⟩ := List.mem_map.mp hmem
  rw [List.mem_singleton.mp hother]
  simpa using (List.mem_filter.mp hentry).2

/-- An update keeps at most one document for each address. -/
theorem Unique.update (hunique : documents.Unique) (document : Snapshot) :
    (documents.update document).Unique := by
  have hsame : (documents.update document).entries.map (·.uri) =
      documents.entries.map (·.uri) := by
    unfold Documents.update
    rw [List.map_map]
    apply List.map_congr_left
    intro entry _
    dsimp only [Function.comp]
    split
    · rename_i huri
      exact huri.symm
    · rfl
  unfold Unique
  rw [hsame]
  exact hunique

/-- An analysis that is told of all open scripts holds them. -/
theorem foldl_openScripts (hunique : documents.Unique) :
    ((documents.entries.filter (·.uri.isScript)).map Notice.opened).foldl (Notice.applied false)
      (fun _ => none) = documents.scripts := by
  funext uri
  have hnodup : ((documents.entries.filter (·.uri.isScript)).map (·.uri)).Nodup :=
    hunique.sublist (List.filter_sublist.map _)
  rw [Notice.foldl_opened hnodup, Option.or_none, List.find?_filter]
  unfold scripts snapshot?
  cases hscript : uri.isScript with
  | true =>
    rw [if_pos rfl]
    congr 1
    funext entry
    by_cases hentry : entry.uri = uri
    · simp [hentry, hscript]
    · simp [hentry]
  | false =>
    rw [if_neg Bool.false_ne_true, List.find?_eq_none]
    intro entry _
    by_cases hentry : entry.uri = uri
    · simp [hentry, hscript]
    · simp [hentry]

end Documents

end FluentAssist
