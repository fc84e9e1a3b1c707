/-!
# Interning

The same text is usually decoded at many call sites. An interner hands out one
allocation for each distinct text: the one made when the text was first seen.
-/

namespace ConstantRecovery

/-- A text in memory. Two allocations are the same when their numbers are. -/
structure Allocation where
  /-- The number of the allocation. -/
  number : Nat
  /-- The text in it. -/
  text : String
deriving DecidableEq

/-- The allocations handed out so far. -/
structure Interner where
  /-- One allocation for each distinct text, oldest first. -/
  stored : List Allocation
deriving DecidableEq

namespace Interner

/-- Nothing handed out. -/
def empty : Interner := ⟨[]⟩

/-- The number of distinct texts. -/
def size (interner : Interner) : Nat := interner.stored.length

/-- The allocation of a text that has been seen. -/
def find? (interner : Interner) (text : String) : Option Allocation :=
  interner.stored.find? (·.text = text)

/-- Hands out the allocation of a text that is offered one. The offer is stored only if the text
has none yet: what is stored is never replaced. -/
def offer (interner : Interner) (fresh : Allocation) : Allocation × Interner :=
  match interner.find? fresh.text with
  | some allocation => (allocation, interner)
  | none => (fresh, ⟨interner.stored ++ [fresh]⟩)

/-- The allocation of a text, made now if the text is new. Looking and offering are two steps, so
that several workers may take turns between them. -/
def intern (interner : Interner) (text : String) : Allocation × Interner :=
  match interner.find? text with
  | some allocation => (allocation, interner)
  | none => interner.offer ⟨interner.size, text⟩

/-- What is found has the text that was looked for. -/
theorem text_of_find? {interner : Interner} {text : String} {allocation : Allocation}
    (found : interner.find? text = some allocation) : allocation.text = text := by
  unfold find? at found
  simpa using List.find?_some found

/-- The text that is handed out is the one offered. -/
theorem text_offer (interner : Interner) (fresh : Allocation) :
    (interner.offer fresh).1.text = fresh.text := by
  unfold offer
  split
  · exact text_of_find? (by assumption)
  · rfl

/-- A text that has been offered is found again, in the allocation that was handed out. -/
theorem find?_offer (interner : Interner) (fresh : Allocation) :
    (interner.offer fresh).2.find? fresh.text = some (interner.offer fresh).1 := by
  unfold offer
  split
  · assumption
  · rename_i missing
    unfold find? at missing ⊢
    simp [List.find?_append, missing]

/-- The text that is handed out is the one asked for. -/
theorem text_intern (interner : Interner) (text : String) :
    (interner.intern text).1.text = text := by
  unfold intern
  split
  · exact text_of_find? (by assumption)
  · exact text_offer _ _

/-- A text that has been handed out is found again, in the same allocation. -/
theorem find?_intern (interner : Interner) (text : String) :
    (interner.intern text).2.find? text = some (interner.intern text).1 := by
  unfold intern
  split
  · assumption
  · exact find?_offer interner ⟨interner.size, text⟩

end Interner

end ConstantRecovery
