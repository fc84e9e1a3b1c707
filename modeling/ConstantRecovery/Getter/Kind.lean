/-!
# Kinds of constants

A getter has one decode path for each kind of constant. While a getter is probed,
each path is stood in for by a number of its own, its sentinel.
-/

namespace ConstantRecovery

/-- What a decode path yields. -/
inductive ConstantKind where
  /-- A number read from the blob. -/
  | number
  /-- An object built from the blob. -/
  | object
  /-- A text read from the blob. -/
  | string
  /-- The default value of a type, without a look at the blob. -/
  | default
deriving DecidableEq

namespace ConstantKind

/-- Every kind. -/
def all : List ConstantKind := [number, object, string, default]

/-- A kind in words. -/
def name : ConstantKind → String
  | number => "Number"
  | object => "Object"
  | string => "String"
  | default => "Default"

/-- The number that stands for a decode path. -/
def sentinel : ConstantKind → Int32
  | number => 0xAA
  | object => 0xBB
  | string => 0xCC
  | default => 0xDD

/-- The kind a sentinel stands for. -/
def ofSentinel? (value : Int32) : Option ConstantKind :=
  all.find? (·.sentinel = value)

/-- A sentinel stands for its kind only. -/
theorem ofSentinel?_eq_some_iff (value : Int32) (kind : ConstantKind) :
    ofSentinel? value = some kind ↔ value = kind.sentinel := by
  constructor
  · intro found
    have hit := List.find?_some found
    exact (of_decide_eq_true hit).symm
  · rintro rfl
    cases kind <;> decide

end ConstantKind

end ConstantRecovery
