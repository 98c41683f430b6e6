import FluentAssist.Json.Value

/-!
# Tables

Values under names. The order of the names is shown, so a table is a list, but a name stands in it
once and has one value. `Table.ofList` makes a table of any list: of a repeated name the first place
and the last value count.
-/

set_option autoImplicit false

namespace FluentAssist

/-- Values under names. Each name stands once. -/
structure Table (α : Type) where
  entries : List (String × α) := []
  nodup : (entries.map Prod.fst).Nodup := by exact List.nodup_nil
  deriving Repr

namespace Table

variable {α β : Type}

instance [BEq α] : BEq (Table α) := ⟨fun table other => table.entries == other.entries⟩

/-- The table of a list, whose entries are set one after another. -/
def ofList (entries : List (String × α)) : Table α :=
  ⟨Json.distinct entries, Json.nodup_distinct entries⟩

/-- The value under a name. -/
def get? (table : Table α) (name : String) : Option α := table.entries.lookup name

/-- The names in their order. -/
def names (table : Table α) : List String := table.entries.map Prod.fst

/-- The number of names. -/
def size (table : Table α) : Nat := table.entries.length

/-- A table with each value replaced. -/
def map (f : α → β) (table : Table α) : Table β where
  entries := table.entries.map fun entry => (entry.1, f entry.2)
  nodup := by
    rw [List.map_map]
    exact table.nodup

/-- The entries whose value is kept. -/
def filter (keep : α → Bool) (table : Table α) : Table α where
  entries := table.entries.filter fun entry => keep entry.2
  nodup := table.nodup.sublist (List.filter_sublist.map Prod.fst)

/-- Filtering keeps some of the entries. -/
theorem entries_filter (keep : α → Bool) (table : Table α) :
    (table.filter keep).entries = table.entries.filter fun entry => keep entry.2 := rfl

/-- A value is found under a name exactly if it stands there. -/
theorem get?_eq_some_iff {table : Table α} {name : String} {value : α} :
    table.get? name = some value ↔ (name, value) ∈ table.entries := by
  obtain ⟨entries, hnodup⟩ := table
  unfold get?
  dsimp only
  induction entries with
  | nil => simp
  | cons entry rest ih =>
    obtain ⟨first, found⟩ := entry
    rw [List.map_cons, List.nodup_cons] at hnodup
    rw [List.lookup_cons, List.mem_cons, Prod.mk.injEq]
    by_cases hname : name = first
    · subst hname
      have hfresh : (name, value) ∉ rest := by
        intro hmem
        exact hnodup.1 (List.mem_map.2 ⟨_, hmem, rfl⟩)
      simp only [beq_self_eq_true, Option.some.injEq, true_and, hfresh, or_false]
      exact eq_comm
    · have hne : (name == first) = false := beq_false_of_ne hname
      simp only [hne, hname, false_and, false_or]
      exact ih hnodup.2

/-- Under each name stands the new value. -/
theorem get?_map (f : α → β) (table : Table α) (name : String) :
    (table.map f).get? name = (table.get? name).map f := by
  unfold get? map
  dsimp only
  induction table.entries with
  | nil => rfl
  | cons entry rest ih =>
    rw [List.map_cons, List.lookup_cons, List.lookup_cons, ih]
    cases name == entry.1 <;> rfl

/-- What is found under a name is filtered. -/
theorem get?_filter (keep : α → Bool) (table : Table α) (name : String) :
    (table.filter keep).get? name = (table.get? name).filter keep := by
  apply Option.ext
  intro value
  rw [get?_eq_some_iff, Option.filter_eq_some_iff, get?_eq_some_iff, entries_filter,
    List.mem_filter]

end Table

end FluentAssist
