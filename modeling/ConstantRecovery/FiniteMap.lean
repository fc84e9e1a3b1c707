/-!
# Finite maps

A finite map is a list of pairs with at most one pair for a key that was put in
by `set`. Writing to a key that is present replaces its value in place. The view
of a map is `get?`; `get?_set` says what a write does to it.
-/

namespace ConstantRecovery

/-- A map with finitely many keys. -/
structure FiniteMap (Key Value : Type) where
  /-- The pairs, in the order in which their keys were first written. -/
  entries : List (Key × Value)
deriving DecidableEq

namespace FiniteMap

variable {Key Value : Type}

/-- No keys. -/
def empty : FiniteMap Key Value := ⟨[]⟩

/-- How many keys there are. -/
def size (map : FiniteMap Key Value) : Nat := map.entries.length

variable [DecidableEq Key]

/-- The first value paired with a key. -/
def find (key : Key) : List (Key × Value) → Option Value
  | [] => none
  | (k, value) :: rest => if k = key then some value else find key rest

/-- Pairs a key with a value: in the place of its pair, or behind all others. -/
def write (key : Key) (value : Value) : List (Key × Value) → List (Key × Value)
  | [] => [(key, value)]
  | (k, old) :: rest =>
    if k = key then (k, value) :: rest else (k, old) :: write key value rest

/-- The value of a key. -/
def get? (map : FiniteMap Key Value) (key : Key) : Option Value :=
  find key map.entries

/-- Gives a key a value. -/
def set (map : FiniteMap Key Value) (key : Key) (value : Value) : FiniteMap Key Value :=
  ⟨write key value map.entries⟩

/-- Nothing has a value in the empty map. -/
@[simp] theorem get?_empty (key : Key) : (empty : FiniteMap Key Value).get? key = none := rfl

/-- A key that is written has the new value, and every other has the value it had. -/
theorem find_write (key other : Key) (value : Value) (entries : List (Key × Value)) :
    find other (write key value entries) =
      if key = other then some value else find other entries := by
  induction entries with
  | nil => simp [write, find]
  | cons entry rest ih =>
    obtain ⟨k, old⟩ := entry
    by_cases same : k = key
    · subst same
      by_cases hit : k = other <;> simp [write, find, hit]
    · by_cases hit : k = other
      · subst hit
        simp [write, find, same, Ne.symm same]
      · simp [write, find, same, hit, ih]

/-- After a write the key has the new value, and every other key what it had. -/
theorem get?_set (map : FiniteMap Key Value) (key other : Key) (value : Value) :
    (map.set key value).get? other = if key = other then some value else map.get? other :=
  find_write key other value map.entries

end FiniteMap

end ConstantRecovery
