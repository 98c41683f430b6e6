import FluentAssist.Resolution.Cache

/-!
# Entries of bounded caches

What an insertion does to the entries of a cache: the new entry is there, under its key, and no
other entry was not there before. This holds for every capacity, so it is all that an argument about
the contents of a cache has to know about eviction.
-/

set_option autoImplicit false

namespace FluentAssist.BoundedCache

variable {κ ν : Type} [DecidableEq κ]

/-- A value that is found under a key stands in an entry with that key. -/
theorem mem_entries_of_get? {cache : BoundedCache κ ν} {key : κ} {value : ν}
    (hget : cache.get? key = some value) : (key, value) ∈ cache.entries := by
  unfold get? at hget
  obtain ⟨entry, hfind, hvalue⟩ := Option.map_eq_some_iff.mp hget
  have hmem := List.mem_of_find?_eq_some hfind
  have hkey : entry.1 = key := by simpa using List.find?_some hfind
  rw [← hkey, ← hvalue]
  exact hmem

/-- A key that is not found has no entry. -/
theorem ne_of_get?_eq_none {cache : BoundedCache κ ν} {key : κ} (hget : cache.get? key = none)
    {entry : κ × ν} (hmem : entry ∈ cache.entries) : entry.1 ≠ key := by
  unfold get? at hget
  rw [Option.map_eq_none_iff, List.find?_eq_none] at hget
  simpa using hget entry hmem

/-- What an insertion does: the key becomes the newest one, in place of its former entry, in free
room, or in place of the oldest entry. -/
theorem put_cases (cache : BoundedCache κ ν) (key : κ) (value : ν) :
    (∃ former, cache.get? key = some former ∧
      (cache.put key value).entries = cache.without key ++ [(key, value)]) ∨
    (cache.get? key = none ∧ cache.entries.length < cache.limit ∧
      (cache.put key value).entries = cache.entries ++ [(key, value)]) ∨
    (cache.get? key = none ∧ cache.limit ≤ cache.entries.length ∧
      (cache.put key value).entries = cache.entries.drop 1 ++ [(key, value)]) := by
  unfold put insert
  cases hget : cache.get? key with
  | some former => exact Or.inl ⟨former, rfl, rfl⟩
  | none =>
    by_cases hroom : cache.entries.length < cache.limit
    · exact Or.inr (Or.inl ⟨rfl, hroom, by simp [hroom]⟩)
    · exact Or.inr (Or.inr ⟨rfl, Nat.le_of_not_lt hroom, by simp [hroom]⟩)

/-- An insertion appends its entry to entries that were there before, none of which has its key. -/
theorem exists_entries_put (cache : BoundedCache κ ν) (key : κ) (value : ν) :
    ∃ older : List (κ × ν), (cache.put key value).entries = older ++ [(key, value)] ∧
      (∀ entry ∈ older, entry ∈ cache.entries ∧ entry.1 ≠ key) := by
  rcases cache.put_cases key value with ⟨former, -, hput⟩ | ⟨hget, -, hput⟩ | ⟨hget, -, hput⟩
  · refine ⟨cache.without key, hput, ?_⟩
    intro entry hmem
    simpa [without] using hmem
  · refine ⟨cache.entries, hput, ?_⟩
    intro entry hmem
    exact ⟨hmem, ne_of_get?_eq_none hget hmem⟩
  · refine ⟨cache.entries.drop 1, hput, ?_⟩
    intro entry hmem
    have hold := List.mem_of_mem_drop hmem
    exact ⟨hold, ne_of_get?_eq_none hget hold⟩

/-- After an insertion every entry is the new one or an old one. -/
theorem mem_entries_put {cache : BoundedCache κ ν} {key : κ} {value : ν} {entry : κ × ν}
    (hmem : entry ∈ (cache.put key value).entries) :
    entry = (key, value) ∨ entry ∈ cache.entries := by
  obtain ⟨older, hput, holder⟩ := exists_entries_put cache key value
  rw [hput, List.mem_append, List.mem_singleton] at hmem
  rcases hmem with hold | hnew
  · exact Or.inr (holder entry hold).1
  · exact Or.inl hnew

/-- A value that was just inserted is found under its key, whatever the capacity. -/
theorem get?_put_self (cache : BoundedCache κ ν) (key : κ) (value : ν) :
    (cache.put key value).get? key = some value := by
  obtain ⟨older, hput, holder⟩ := exists_entries_put cache key value
  have hnone : older.find? (fun entry => decide (entry.1 = key)) = none := by
    rw [List.find?_eq_none]
    intro entry hmem
    simpa using (holder entry hmem).2
  unfold get?
  rw [hput, List.find?_append, hnone]
  simp

/-- A property of all entries survives the insertion of an entry that has it. -/
theorem forall_entries_put {cache : BoundedCache κ ν} {holds : κ × ν → Prop} {key : κ} {value : ν}
    (hold : ∀ entry ∈ cache.entries, holds entry) (hnew : holds (key, value)) :
    ∀ entry ∈ (cache.put key value).entries, holds entry := by
  intro entry hmem
  rcases mem_entries_put hmem with hentry | hentry
  · rw [hentry]
    exact hnew
  · exact hold entry hentry

end FluentAssist.BoundedCache
