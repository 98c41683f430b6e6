/-!
# Bounded caches

A cache holds a bounded number of entries and drops the one that was inserted longest ago.
Reading does not change it. Entries stand in the order of their insertion, the oldest first, and
inserting a key again makes its entry the newest.
-/

set_option autoImplicit false

namespace FluentAssist

/-- A cache with its entries, the oldest first. -/
structure BoundedCache (κ ν : Type) where
  capacity : Nat
  entries : List (κ × ν) := []
  deriving Repr

namespace BoundedCache

variable {κ ν : Type} [DecidableEq κ]

/-- The number of entries a cache may hold; at least one. -/
def limit (cache : BoundedCache κ ν) : Nat := max cache.capacity 1

/-- The value of a key. -/
def get? (cache : BoundedCache κ ν) (key : κ) : Option ν :=
  (cache.entries.find? fun entry => entry.1 = key).map Prod.snd

/-- The entries with other keys. -/
def without (cache : BoundedCache κ ν) (key : κ) : List (κ × ν) :=
  cache.entries.filter fun entry => entry.1 ≠ key

/-- Makes an entry the newest. The second part is the entry that had to go: the former entry of
the key, else the oldest one of a full cache. -/
def insert (cache : BoundedCache κ ν) (key : κ) (value : ν) :
    BoundedCache κ ν × Option (κ × ν) :=
  match cache.get? key with
  | some former =>
    ({ cache with entries := cache.without key ++ [(key, value)] }, some (key, former))
  | none =>
    if cache.entries.length < cache.limit then
      ({ cache with entries := cache.entries ++ [(key, value)] }, none)
    else ({ cache with entries := cache.entries.drop 1 ++ [(key, value)] }, cache.entries.head?)

/-- The cache after an insertion. -/
def put (cache : BoundedCache κ ν) (key : κ) (value : ν) : BoundedCache κ ν :=
  (cache.insert key value).1

end BoundedCache

end FluentAssist
