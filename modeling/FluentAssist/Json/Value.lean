import FluentAssist.Text.Basic
import FluentAssist.WordSize

/-!
# JSON values

Objects keep the order of their members. Numbers are either integers of at most 64 bits or
floating-point numbers, held by their bits so that values can be compared.
-/

set_option autoImplicit false

namespace FluentAssist

/-- A JSON number. -/
inductive Json.Number
  | int (value : Int)
  | real (bits : UInt64)
  deriving DecidableEq, Repr

/-- A JSON value. -/
inductive Json
  | null
  | bool (value : Bool)
  | num (value : Json.Number)
  | str (value : String)
  | arr (items : List Json)
  | obj (members : List (String × Json))
  deriving Repr, Inhabited, BEq

namespace Json

/-- An integer as a value. -/
def ofNat (n : Nat) : Json := .num (.int n)

/-- A signed integer as a value. -/
def ofInt (i : Int) : Json := .num (.int i)

/-- A text as a value. -/
def ofText (text : Text) : Json := .str (String.ofList text)

/-- A value or `null`. -/
def ofOption {α : Type} (f : α → Json) : Option α → Json
  | none => .null
  | some a => f a

/-- A list of strings as a value. -/
def ofStrings (items : List String) : Json := .arr (items.map .str)

/-- Sets a member: a key that is present keeps its place and takes the new value. -/
def put {α : Type} (key : String) (value : α) : List (String × α) → List (String × α)
  | [] => [(key, value)]
  | (k, v) :: rest => if k = key then (k, value) :: rest else (k, v) :: put key value rest

/-- Members with every key once, at its first place and with its last value. -/
def distinct {α : Type} (members : List (String × α)) : List (String × α) :=
  members.foldl (fun done (key, value) => put key value done) []

/-- Setting a member adds its key behind the others, if it is new. -/
theorem keys_put {α : Type} (key : String) (value : α) (members : List (String × α)) :
    (put key value members).map Prod.fst = members.map Prod.fst ∨
      key ∉ members.map Prod.fst ∧
        (put key value members).map Prod.fst = members.map Prod.fst ++ [key] := by
  induction members with
  | nil => exact Or.inr ⟨by simp, rfl⟩
  | cons member rest ih =>
    obtain ⟨k, v⟩ := member
    unfold put
    split
    · exact Or.inl rfl
    · next hne =>
      rcases ih with hsame | ⟨hfresh, hadded⟩
      · exact Or.inl (by simp [hsame])
      · refine Or.inr ⟨?_, by simp [hadded]⟩
        rw [List.map_cons, List.mem_cons]
        rintro (heq | hmem)
        · exact hne heq.symm
        · exact hfresh hmem

/-- Setting a member keeps every key at one place. -/
theorem nodup_put {α : Type} (key : String) (value : α) {members : List (String × α)}
    (hnodup : (members.map Prod.fst).Nodup) : ((put key value members).map Prod.fst).Nodup := by
  obtain hsame | ⟨hfresh, hadded⟩ := keys_put key value members
  · rw [hsame]
    exact hnodup
  · rw [hadded, List.nodup_append]
    refine ⟨hnodup, by simp, ?_⟩
    rintro a ha b hb rfl
    exact hfresh (List.mem_singleton.1 hb ▸ ha)

/-- Distinct members have every key once. -/
theorem nodup_distinct {α : Type} (members : List (String × α)) :
    ((distinct members).map Prod.fst).Nodup := by
  have hfold : ∀ done : List (String × α), (done.map Prod.fst).Nodup →
      ((members.foldl (fun done member => put member.1 member.2 done) done).map
        Prod.fst).Nodup := by
    induction members with
    | nil => exact fun done hdone => hdone
    | cons member later ih => exact fun done hdone => ih _ (nodup_put member.1 member.2 hdone)
  exact hfold [] List.nodup_nil

/-- The member of an object with the given key. -/
def get? : Json → String → Option Json
  | .obj members, key => members.lookup key
  | _, _ => none

/-- The text of a string value. -/
def string? : Json → Option String
  | .str s => some s
  | _ => none

/-- The items of an array. -/
def items? : Json → Option (List Json)
  | .arr items => some items
  | _ => none

/-- The members of an object. -/
def members? : Json → Option (List (String × Json))
  | .obj members => some members
  | _ => none

/-- The value of a boolean. -/
def bool? : Json → Option Bool
  | .bool b => some b
  | _ => none

/-- An integer in the range of 64 signed bits. -/
def int64? : Json → Option Int
  | .num (.int i) => if -(wordSize63 : Int) ≤ i ∧ i < wordSize63 then some i else none
  | _ => none

/-- A natural number below a bound. -/
def natBelow? (bound : Nat) : Json → Option Nat
  | .num (.int i) => if 0 ≤ i ∧ i < bound then some i.toNat else none
  | _ => none

/-- A value that may be absent or `null`. The outer none means that it has the wrong type. -/
def optional? {α : Type} (read : Json → Option α) : Option Json → Option (Option α)
  | none => some none
  | some .null => some none
  | some value => (read value).map some

/-- Whether a value is `null`. -/
def isNull : Json → Bool
  | .null => true
  | _ => false

end Json

end FluentAssist
