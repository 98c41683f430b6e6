import FluentAssist.Proofs.Resolution.Cache
import Mathlib.Data.Finset.Card
import Mathlib.Data.Finset.Lattice.Basic
import Mathlib.Data.List.Nodup

/-!
# What a bounded cache has forgotten

A cache is used in any order, by insertions and by looking up keys. Which entries it still has is
told by the history of its uses alone: an entry is there as long as fewer other keys than the cache
has room for were inserted after it. `Stands` is the invariant. It follows one entry and the keys of
the newer ones, which are exactly the keys that were inserted since; an entry has to go when it is
the oldest one of a full cache, and that is when too many others are newer.

The main statement is `evicts_in_insertion_order`.
-/

set_option autoImplicit false

namespace FluentAssist.BoundedCache

variable {κ ν : Type} [DecidableEq κ]

/-! ## What is present -/

/-- The keys that have an entry. -/
def present (cache : BoundedCache κ ν) : Finset κ := (cache.entries.map Prod.fst).toFinset

/-- A key is not found exactly if it has no entry. -/
theorem get?_eq_none_iff {cache : BoundedCache κ ν} {key : κ} :
    cache.get? key = none ↔ key ∉ cache.entries.map Prod.fst := by
  unfold get?
  rw [Option.map_eq_none_iff, List.find?_eq_none]
  simp only [decide_eq_true_eq, List.mem_map, not_exists, not_and]

/-- A key is present exactly if it is found. -/
theorem mem_present_iff {cache : BoundedCache κ ν} {key : κ} :
    key ∈ cache.present ↔ (cache.get? key).isSome = true := by
  rw [present, List.mem_toFinset, Option.isSome_iff_ne_none, ne_eq, get?_eq_none_iff, not_not]

/-- No key has two entries, and there is room for all of them. -/
structure Kept (cache : BoundedCache κ ν) : Prop where
  nodup : (cache.entries.map Prod.fst).Nodup
  length_le : cache.entries.length ≤ cache.limit

/-- As many keys are present as there are entries. -/
theorem Kept.card_present {cache : BoundedCache κ ν} (h : cache.Kept) :
    cache.present.card = cache.entries.length := by
  rw [present, List.toFinset_card_of_nodup h.nodup, List.length_map]

/-- An insertion leaves the limit. -/
theorem limit_put (cache : BoundedCache κ ν) (key : κ) (value : ν) :
    (cache.put key value).limit = cache.limit := by
  unfold put insert
  split
  · rfl
  · split
    · rfl
    · rfl

omit [DecidableEq κ] in
/-- There is room for one entry at least. -/
theorem one_le_limit (cache : BoundedCache κ ν) : 1 ≤ cache.limit := Nat.le_max_right _ _

/-- An insertion keeps the entries apart and within the limit. -/
theorem Kept.put {cache : BoundedCache κ ν} (h : cache.Kept) (key : κ) (value : ν) :
    (cache.put key value).Kept := by
  have hpos := cache.one_le_limit
  have hlength := h.length_le
  -- What is left of the entries has no entry of the key and leaves room for one.
  obtain ⟨older, hsub, hkey, hroom, hput⟩ : ∃ older : List (κ × ν), older.Sublist cache.entries ∧
      key ∉ older.map Prod.fst ∧ older.length < cache.limit ∧
      (cache.put key value).entries = older ++ [(key, value)] := by
    rcases cache.put_cases key value with ⟨former, hget, hput⟩ | ⟨hget, hroom, hput⟩ |
      ⟨hget, hfull, hput⟩
    · have hless : (cache.without key).length < cache.entries.length := by
        apply List.length_filter_lt_length_iff_exists.2
        exact ⟨_, mem_entries_of_get? hget, by simp⟩
      exact ⟨cache.without key, List.filter_sublist, by simp [without], by omega, hput⟩
    · exact ⟨cache.entries, List.Sublist.refl _, get?_eq_none_iff.1 hget, hroom, hput⟩
    · have hsub : (cache.entries.drop 1).Sublist cache.entries := List.drop_sublist 1 _
      have hkey : key ∉ (cache.entries.drop 1).map Prod.fst := fun hmem =>
        get?_eq_none_iff.1 hget ((hsub.map Prod.fst).subset hmem)
      exact ⟨cache.entries.drop 1, hsub, hkey, by rw [List.length_drop]; omega, hput⟩
  constructor
  · rw [hput, List.map_append, List.map_singleton]
    exact List.nodup_append_comm.1 (List.nodup_cons.2 ⟨hkey, (hsub.map Prod.fst).nodup h.nodup⟩)
  · rw [limit_put, hput, List.length_append, List.length_singleton]
    exact hroom

/-! ## One entry and the newer ones -/

/-- A key has one entry, and the entries after it have the keys `newer`, each once. -/
def Stands (cache : BoundedCache κ ν) (key : κ) (value : ν) (newer : Finset κ) : Prop :=
  ∃ front back, cache.entries = front ++ (key, value) :: back ∧
    key ∉ front.map Prod.fst ∧ key ∉ back.map Prod.fst ∧
    (back.map Prod.fst).Nodup ∧ (back.map Prod.fst).toFinset = newer

variable {cache : BoundedCache κ ν} {key other : κ} {value : ν} {newer : Finset κ}

/-- An entry that stands is found. -/
theorem Stands.get?_eq (h : cache.Stands key value newer) : cache.get? key = some value := by
  obtain ⟨front, back, hentries, hfront, -⟩ := h
  have hnone : front.find? (fun entry => decide (entry.1 = key)) = none := by
    rw [List.find?_eq_none]
    intro entry hmem
    rw [decide_eq_true_eq]
    rintro rfl
    exact hfront (List.mem_map_of_mem hmem)
  rw [get?, hentries, List.find?_append, hnone]
  simp

/-- What was just inserted stands with no newer entry. -/
theorem stands_put_self (cache : BoundedCache κ ν) (key : κ) (value : ν) :
    (cache.put key value).Stands key value ∅ := by
  obtain ⟨older, hput, holder⟩ := exists_entries_put cache key value
  refine ⟨older, [], hput, ?_, by simp, by simp, by simp⟩
  intro hmem
  obtain ⟨entry, hentry, hkey⟩ := List.mem_map.1 hmem
  exact (holder entry hentry).2 hkey

/-- The newest entry is one more behind an entry that stands before it. -/
theorem stands_of_newest (front back : List (κ × ν)) (added : ν)
    (hentries : cache.entries = front ++ (key, value) :: (back ++ [(other, added)]))
    (hfront : key ∉ front.map Prod.fst) (hback : key ∉ back.map Prod.fst)
    (hnodup : (back.map Prod.fst).Nodup) (hother : other ∉ back.map Prod.fst)
    (hne : other ≠ key) :
    cache.Stands key value ((back.map Prod.fst).toFinset ∪ {other}) := by
  refine ⟨front, back ++ [(other, added)], hentries, hfront, ?_, ?_, ?_⟩
  · rw [List.map_append, List.map_singleton, List.mem_append, List.mem_singleton, not_or]
    exact ⟨hback, hne.symm⟩
  · rw [List.map_append, List.map_singleton]
    exact List.nodup_append_comm.1 (List.nodup_cons.2 ⟨hother, hnodup⟩)
  · rw [List.map_append, List.map_singleton, List.toFinset_append]
    rfl

/-- An entry stays when another key is inserted, as long as the cache has room for it and all that
are newer. -/
theorem Stands.put (h : cache.Stands key value newer) (hne : other ≠ key)
    (hroom : (newer ∪ {other}).card < cache.limit) (added : ν) :
    (cache.put other added).Stands key value (newer ∪ {other}) := by
  obtain ⟨front, back, hentries, hfront, hback, hnodup, rfl⟩ := h
  have hnew : cache.get? other = none → other ∉ back.map Prod.fst := by
    intro hget hmem
    apply get?_eq_none_iff.1 hget
    rw [hentries, List.map_append, List.map_cons]
    exact List.mem_append_right _ (List.mem_cons_of_mem _ hmem)
  rcases cache.put_cases other added with ⟨former, -, hput⟩ | ⟨hget, -, hput⟩ | ⟨hget, hfull, hput⟩
  · -- The other key was there, before the entry or after it, and becomes the newest.
    let left (list : List (κ × ν)) : List (κ × ν) := list.filter fun entry => entry.1 ≠ other
    have hsub : ∀ list, ((left list).map Prod.fst).Sublist (list.map Prod.fst) :=
      fun list => List.filter_sublist.map Prod.fst
    have hsame : ((left back).map Prod.fst).toFinset ∪ {other} =
        (back.map Prod.fst).toFinset ∪ {other} := by
      ext first
      by_cases hfirst : first = other <;> simp [left, hfirst]
    rw [← hsame]
    apply stands_of_newest (left front) (left back) added
    · rw [hput, without, hentries]
      simp [left, hne.symm]
    · exact fun hmem => hfront ((hsub front).subset hmem)
    · exact fun hmem => hback ((hsub back).subset hmem)
    · exact (hsub back).nodup hnodup
    · simp [left]
    · exact hne
  · apply stands_of_newest front back added _ hfront hback hnodup (hnew hget) hne
    rw [hput, hentries, List.append_assoc, List.cons_append]
  · -- The oldest entry goes, and there is one in front, or the others alone would fill the cache.
    cases front with
    | nil =>
      have hcard : ((back.map Prod.fst).toFinset ∪ {other}).card = back.length + 1 := by
        rw [Finset.card_union_of_disjoint, List.toFinset_card_of_nodup hnodup, List.length_map,
          Finset.card_singleton]
        simpa using hnew hget
      rw [hentries, List.nil_append, List.length_cons] at hfull
      omega
    | cons oldest front =>
      rw [List.map_cons, List.mem_cons, not_or] at hfront
      apply stands_of_newest front back added _ hfront.2 hback hnodup (hnew hget) hne
      rw [hput, hentries, List.cons_append, List.drop_one, List.tail_cons, List.append_assoc,
        List.cons_append]

/-- An entry goes when another key is inserted and there is no room for it and all that are
newer. -/
theorem Stands.get?_put_eq_none (h : cache.Stands key value newer) (hkept : cache.Kept)
    (hne : other ≠ key) (hfull : cache.limit ≤ (newer ∪ {other}).card) (added : ν) :
    (cache.put other added).get? key = none := by
  obtain ⟨front, back, hentries, hfront, hback, hnodup, rfl⟩ := h
  have hcard : (back.map Prod.fst).toFinset.card = back.length := by
    rw [List.toFinset_card_of_nodup hnodup, List.length_map]
  have hlength := hkept.length_le
  rw [hentries, List.length_append, List.length_cons] at hlength
  have hunion := Finset.card_union_le (back.map Prod.fst).toFinset {other}
  rw [Finset.card_singleton] at hunion
  -- So the entry is the oldest one, the cache is full, and the other key is new to it.
  have hnil : front = [] := List.length_eq_zero_iff.1 (by omega)
  have hother : other ∉ (back.map Prod.fst).toFinset := by
    intro hmem
    rw [Finset.union_eq_left.2 (Finset.singleton_subset_iff.2 hmem)] at hfull
    omega
  rw [hnil, List.nil_append] at hentries
  have hmissing : cache.get? other = none := by
    rw [get?_eq_none_iff, hentries, List.map_cons, List.mem_cons, not_or]
    exact ⟨hne, fun hmem => hother (List.mem_toFinset.2 hmem)⟩
  have hgone : key ∉ (back ++ [(other, added)]).map Prod.fst := by
    rw [List.map_append, List.map_singleton, List.mem_append, List.mem_singleton, not_or]
    exact ⟨hback, hne.symm⟩
  rw [get?_eq_none_iff]
  rcases cache.put_cases other added with ⟨former, hget, -⟩ | ⟨-, hroom, -⟩ | ⟨-, -, hput⟩
  · rw [hmissing] at hget
    cases hget
  · rw [hentries, List.length_cons] at hroom
    omega
  · rw [hput, hentries, List.drop_one, List.tail_cons]
    exact hgone

/-- Inserting another key adds no entry for this one. -/
theorem get?_put_of_eq_none (hget : cache.get? key = none) (hne : other ≠ key) (added : ν) :
    (cache.put other added).get? key = none := by
  rw [get?_eq_none_iff] at hget ⊢
  intro hmem
  obtain ⟨entry, hentry, rfl⟩ := List.mem_map.1 hmem
  rcases mem_entries_put hentry with rfl | hold
  · exact hne rfl
  · exact hget (List.mem_map_of_mem hold)

/-! ## Histories -/

/-- What can be done with a cache. -/
inductive Use (κ ν : Type)
  | insert (key : κ) (value : ν)
  | get (key : κ)

namespace Use

/-- The key that a use inserts. -/
def insertedKey? : Use κ ν → Option κ
  | .insert key _ => some key
  | .get _ => none

/-- Whether a use is an insertion. -/
def isInsertion : Use κ ν → Bool
  | .insert _ _ => true
  | .get _ => false

end Use

/-- What is heard after a use: the entry that had to go, or the value that was found. -/
inductive Reply (κ ν : Type)
  | gone (entry : Option (κ × ν))
  | found (value : Option ν)

/-- The keys that were inserted, in this order. -/
def inserted (uses : List (Use κ ν)) : List κ := uses.filterMap Use.insertedKey?

/-- Uses a cache once. -/
def use (cache : BoundedCache κ ν) : Use κ ν → BoundedCache κ ν × Reply κ ν
  | .insert key value => ((cache.insert key value).1, .gone (cache.insert key value).2)
  | .get key => (cache, .found (cache.get? key))

/-- The cache after it was used. -/
def after (cache : BoundedCache κ ν) (uses : List (Use κ ν)) : BoundedCache κ ν :=
  uses.foldl (fun cache next => (cache.use next).1) cache

/-- What is heard while the cache is used. -/
def replies (cache : BoundedCache κ ν) : List (Use κ ν) → List (Reply κ ν)
  | [] => []
  | next :: later => (cache.use next).2 :: replies (cache.use next).1 later

/-- Of the entries that are present, one was inserted longest ago: all other keys that are present
were inserted after its last insertion. -/
def IsOldest (history : List (Use κ ν)) (cache : BoundedCache κ ν) (entry : κ × ν) : Prop :=
  cache.get? entry.1 = some entry.2 ∧
  ∃ earlier later, history = earlier ++ .insert entry.1 entry.2 :: later ∧
    entry.1 ∉ inserted later ∧ ∀ key ∈ cache.present, key ≠ entry.1 → key ∈ inserted later

variable {later history : List (Use κ ν)}

/-- Uses one after another act one after the other. -/
theorem after_append (cache : BoundedCache κ ν) (earlier later : List (Use κ ν)) :
    cache.after (earlier ++ later) = (cache.after earlier).after later :=
  List.foldl_append

/-- An insertion acts before the later uses. -/
theorem after_insert (cache : BoundedCache κ ν) (key : κ) (value : ν) (later : List (Use κ ν)) :
    cache.after (.insert key value :: later) = (cache.put key value).after later := rfl

omit [DecidableEq κ] in
/-- The key of an insertion comes before those of the later ones. -/
theorem inserted_insert (key : κ) (value : ν) (later : List (Use κ ν)) :
    inserted (.insert key value :: later) = key :: inserted later := rfl

/-- Uses leave the limit. -/
theorem limit_after (cache : BoundedCache κ ν) (uses : List (Use κ ν)) :
    (cache.after uses).limit = cache.limit := by
  induction uses generalizing cache with
  | nil => rfl
  | cons next later ih =>
    cases next with
    | get key => exact ih cache
    | insert key value => exact (ih _).trans (limit_put cache key value)

/-- Uses keep the entries apart and within the limit. -/
theorem Kept.after (h : cache.Kept) (uses : List (Use κ ν)) : (cache.after uses).Kept := by
  induction uses generalizing cache with
  | nil => exact h
  | cons next later ih =>
    cases next with
    | get key => exact ih h
    | insert key value => exact ih (h.put key value)

omit [DecidableEq κ] in
/-- Nothing is wrong with a cache without entries. -/
theorem kept_empty (capacity : Nat) : (⟨capacity, []⟩ : BoundedCache κ ν).Kept :=
  ⟨List.nodup_nil, Nat.zero_le _⟩

/-- An entry stays through uses that do not insert its key, as long as there is room for it and all
that are inserted after it. -/
theorem Stands.after (h : cache.Stands key value newer) (hkey : key ∉ inserted later)
    (hroom : (newer ∪ (inserted later).toFinset).card < cache.limit) :
    (cache.after later).Stands key value (newer ∪ (inserted later).toFinset) := by
  induction later generalizing cache newer with
  | nil =>
    rw [inserted, List.filterMap_nil, List.toFinset_nil, Finset.union_empty]
    exact h
  | cons next later ih =>
    cases next with
    | get looked => exact ih h hkey hroom
    | insert other added =>
      rw [inserted_insert, List.mem_cons, not_or] at hkey
      have hunion : newer ∪ (inserted (.insert other added :: later)).toFinset =
          (newer ∪ {other}) ∪ (inserted later).toFinset := by
        rw [inserted_insert, List.toFinset_cons, Finset.insert_eq, Finset.union_assoc]
      rw [hunion] at hroom ⊢
      have hfirst : (newer ∪ {other}).card < cache.limit :=
        Nat.lt_of_le_of_lt (Finset.card_le_card Finset.subset_union_left) hroom
      rw [after_insert]
      apply ih (h.put (Ne.symm hkey.1) hfirst added) hkey.2
      rw [limit_put]
      exact hroom

/-- A key that is not inserted is not found later. -/
theorem get?_after_of_eq_none (hget : cache.get? key = none) (hkey : key ∉ inserted later) :
    (cache.after later).get? key = none := by
  induction later generalizing cache with
  | nil => exact hget
  | cons next later ih =>
    cases next with
    | get looked => exact ih hget hkey
    | insert other added =>
      rw [inserted_insert, List.mem_cons, not_or] at hkey
      exact ih (get?_put_of_eq_none hget (Ne.symm hkey.1) added) hkey.2

/-- An entry has gone when there was no room for it and all that were inserted after it. -/
theorem Stands.get?_after_eq_none (h : cache.Stands key value newer) (hkept : cache.Kept)
    (hkey : key ∉ inserted later)
    (hfull : cache.limit ≤ (newer ∪ (inserted later).toFinset).card) :
    (cache.after later).get? key = none := by
  induction later generalizing cache newer with
  | nil =>
    -- Nothing was inserted, and the entry with all newer ones is there.
    obtain ⟨front, back, hentries, -, -, hnodup, rfl⟩ := h
    have hlength := hkept.length_le
    rw [hentries, List.length_append, List.length_cons] at hlength
    rw [inserted, List.filterMap_nil, List.toFinset_nil, Finset.union_empty,
      List.toFinset_card_of_nodup hnodup, List.length_map] at hfull
    omega
  | cons next later ih =>
    cases next with
    | get looked => exact ih h hkept hkey hfull
    | insert other added =>
      rw [inserted_insert, List.mem_cons, not_or] at hkey
      rw [inserted_insert, List.toFinset_cons, Finset.insert_eq, ← Finset.union_assoc] at hfull
      rw [after_insert]
      by_cases hroom : (newer ∪ {other}).card < cache.limit
      · apply ih (h.put (Ne.symm hkey.1) hroom added) (hkept.put other added) hkey.2
        rw [limit_put]
        exact hfull
      · apply get?_after_of_eq_none _ hkey.2
        exact h.get?_put_eq_none hkept (Ne.symm hkey.1) (Nat.le_of_not_lt hroom) added

/-- A key that was inserted has a last insertion. -/
theorem exists_last_insert (hkey : key ∈ inserted history) :
    ∃ earlier value later, history = earlier ++ .insert key value :: later ∧
      key ∉ inserted later := by
  induction history with
  | nil => cases hkey
  | cons next rest ih =>
    by_cases hrest : key ∈ inserted rest
    · obtain ⟨earlier, value, later, rfl, hlast⟩ := ih hrest
      exact ⟨next :: earlier, value, later, rfl, hlast⟩
    · cases next with
      | get looked => exact absurd hkey hrest
      | insert other value =>
        rw [inserted_insert, List.mem_cons] at hkey
        obtain rfl := hkey.resolve_right hrest
        exact ⟨[], value, rest, rfl, hrest⟩

/-- After its last insertion an entry stands before those that were inserted since, or it has
gone. -/
theorem stands_or_gone (hkept : cache.Kept) (earlier : List (Use κ ν)) (key : κ) (value : ν)
    (hkey : key ∉ inserted later) :
    let last := cache.after (earlier ++ .insert key value :: later)
    (inserted later).toFinset.card < cache.limit ∧
        last.Stands key value (inserted later).toFinset ∨
      cache.limit ≤ (inserted later).toFinset.card ∧ last.get? key = none := by
  have hstands := stands_put_self (cache.after earlier) key value
  have hlimit : ((cache.after earlier).put key value).limit = cache.limit := by
    rw [limit_put, limit_after]
  dsimp only
  rw [after_append, after_insert]
  rcases Nat.lt_or_ge (inserted later).toFinset.card cache.limit with hroom | hfull
  · left
    refine ⟨hroom, ?_⟩
    have hlast := hstands.after hkey
    rw [Finset.empty_union, hlimit] at hlast
    exact hlast hroom
  · right
    refine ⟨hfull, hstands.get?_after_eq_none ((hkept.after earlier).put key value) hkey ?_⟩
    rw [Finset.empty_union, hlimit]
    exact hfull

/-- Only insertions matter for what is kept. -/
theorem after_filter_isInsertion (cache : BoundedCache κ ν) (uses : List (Use κ ν)) :
    cache.after (uses.filter Use.isInsertion) = cache.after uses := by
  induction uses generalizing cache with
  | nil => rfl
  | cons next later ih =>
    cases next with
    | get key => exact ih cache
    | insert key value => exact ih (cache.put key value)

/-- The first entry of a cache is the oldest one. -/
theorem isOldest_of_head? (hkept : cache.Kept) (hempty : cache.entries = []) {entry : κ × ν}
    (hhead : (cache.after history).entries.head? = some entry) :
    IsOldest history (cache.after history) entry := by
  obtain ⟨first, stored⟩ := entry
  obtain ⟨rest, hentries⟩ := List.head?_eq_some_iff.1 hhead
  have hpresent : (cache.after history).get? first ≠ none := by
    rw [ne_eq, get?_eq_none_iff, hentries]
    simp
  have hinserted : first ∈ inserted history := by
    by_contra hnever
    apply hpresent
    apply get?_after_of_eq_none _ hnever
    rw [get?_eq_none_iff, hempty]
    simp
  obtain ⟨earlier, value, later, rfl, hlast⟩ := exists_last_insert hinserted
  rcases stands_or_gone hkept earlier first value hlast with ⟨-, hstands⟩ | ⟨-, hgone⟩
  · have hget := hstands.get?_eq
    obtain ⟨front, back, hparts, hfront, -, -, hback⟩ := hstands
    cases front with
    | nil =>
      rw [hentries, List.nil_append, List.cons.injEq, Prod.mk.injEq] at hparts
      obtain ⟨⟨-, rfl⟩, rfl⟩ := hparts
      refine ⟨hget, earlier, later, rfl, hlast, ?_⟩
      intro key hkey hne
      rw [← List.mem_toFinset, ← hback, List.mem_toFinset]
      rw [present, List.mem_toFinset, hentries, List.map_cons, List.mem_cons] at hkey
      exact hkey.resolve_left hne
    | cons oldest front =>
      rw [hentries, List.cons_append, List.cons.injEq] at hparts
      apply absurd _ hfront
      rw [← hparts.1]
      exact List.mem_cons_self
  · exact absurd hgone hpresent

/-- **A cache forgets in the order of insertion.** Take any capacity, raised to one if it is zero,
and any history of insertions and lookups. A key that was never inserted is missed. A key that was
inserted has the value of its last insertion if fewer other keys than the capacity were inserted
after that, and is missed otherwise. No lookup of the history makes a difference to anything that is
heard later. No more keys than the capacity are present. An insertion gives the former entry of its
key; for a key that is not present it gives the entry that was inserted longest ago if the cache is
full, and nothing if it is not. -/
theorem evicts_in_insertion_order (capacity : Nat) (history : List (Use κ ν)) :
    let start : BoundedCache κ ν := ⟨capacity, []⟩
    let cache := start.after history
    let most := max capacity 1
    (∀ key, key ∉ inserted history → cache.get? key = none) ∧
    (∀ earlier key value later, history = earlier ++ .insert key value :: later →
      key ∉ inserted later →
      cache.get? key = if (inserted later).toFinset.card < most then some value else none) ∧
    (∀ later, cache.replies later = (start.after (history.filter Use.isInsertion)).replies later) ∧
    cache.present.card ≤ most ∧
    (∀ key value former, cache.get? key = some former →
      (cache.insert key value).2 = some (key, former)) ∧
    (∀ key value, cache.get? key = none → cache.present.card = most →
      ∃ oldest, IsOldest history cache oldest ∧ (cache.insert key value).2 = some oldest) ∧
    (∀ key value, cache.get? key = none → cache.present.card < most →
      (cache.insert key value).2 = none) := by
  intro start cache most
  have hkept : cache.Kept := (kept_empty capacity).after history
  have hlimit : cache.limit = most := limit_after start history
  refine ⟨?_, ?_, ?_, ?_, ?_, ?_, ?_⟩
  · intro key hnever
    exact get?_after_of_eq_none rfl hnever
  · rintro earlier key value later rfl hlast
    have hmost : start.limit = most := rfl
    rw [← hmost]
    rcases stands_or_gone (kept_empty capacity) earlier key value hlast with
      ⟨hroom, hstands⟩ | ⟨hfull, hgone⟩
    · rw [if_pos hroom]
      exact hstands.get?_eq
    · rw [if_neg (Nat.not_lt_of_le hfull)]
      exact hgone
  · intro later
    rw [after_filter_isInsertion]
  · rw [hkept.card_present, ← hlimit]
    exact hkept.length_le
  · intro key value former hget
    rw [insert, hget]
  · intro key value hget hfull
    rw [hkept.card_present] at hfull
    have hroom : ¬ cache.entries.length < cache.limit := by omega
    have hgone : (cache.insert key value).2 = cache.entries.head? := by
      rw [insert, hget]
      simp [hroom]
    cases hhead : cache.entries.head? with
    | none =>
      have hpos := cache.one_le_limit
      rw [List.head?_eq_none_iff] at hhead
      rw [hhead, List.length_nil] at hroom
      omega
    | some oldest =>
      exact ⟨oldest, isOldest_of_head? (kept_empty capacity) rfl hhead, hgone.trans hhead⟩
  · intro key value hget hroom
    rw [hkept.card_present, ← hlimit] at hroom
    rw [insert, hget]
    simp [hroom]

/-- Two keys are inserted, the first one is looked up and inserted again, and then a third one. -/
def refreshed : List (Use Nat String) :=
  [.insert 1 "one", .insert 2 "two", .get 2, .insert 1 "uno", .insert 3 "three"]

/-- With room for two, the second key is forgotten although it was looked up, the first one has its
new value, and it is the next one to go. -/
theorem evicts_in_insertion_order_refreshed :
    let cache := (⟨2, []⟩ : BoundedCache Nat String).after refreshed
    cache.get? 1 = some "uno" ∧ cache.get? 2 = none ∧ cache.present.card = 2 ∧
    ∃ oldest, IsOldest refreshed cache oldest ∧ (cache.insert 4 "four").2 = some oldest ∧
      oldest = (1, "uno") := by
  intro cache
  obtain ⟨-, hget, -, -, -, hoverflow, -⟩ := evicts_in_insertion_order 2 refreshed
  have hfirst : cache.get? 1 = some "uno" :=
    hget [.insert 1 "one", .insert 2 "two", .get 2] 1 "uno" [.insert 3 "three"] rfl (by decide)
  have hsecond : cache.get? 2 = none :=
    hget [.insert 1 "one"] 2 "two" [.get 2, .insert 1 "uno", .insert 3 "three"] rfl (by decide)
  have hfull : cache.present.card = 2 := by decide
  obtain ⟨oldest, hoverflow, hgone⟩ := hoverflow 4 "four" (by decide) hfull
  refine ⟨hfirst, hsecond, hfull, oldest, hoverflow, hgone, ?_⟩
  exact Option.some.inj (hgone.symm.trans (by decide))

end FluentAssist.BoundedCache
