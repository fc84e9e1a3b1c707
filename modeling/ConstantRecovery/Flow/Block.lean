import ConstantRecovery.Code.Layout

/-!
# Basic blocks

A block is a straight run of instructions that is entered only at its front. In a
block view each block is numbered by its position, and its edges name the positions
that control can go to from its last instruction.
-/

namespace ConstantRecovery

/-- A straight run of instructions. -/
structure BasicBlock where
  /-- Its position in the view it belongs to. -/
  id : Nat
  /-- Where its first instruction stood when the view was built. -/
  offset : Nat
  /-- Its instructions. -/
  instructions : List Instruction
  /-- The positions that control can go to at its end. -/
  successors : List Nat
deriving DecidableEq

namespace BasicBlock

/-- The encoded bytes of a block. -/
def size (block : BasicBlock) : Nat := codeSize block.instructions

/-- The instruction that ends the block. -/
def last? (block : BasicBlock) : Option Instruction := block.instructions.getLast?

end BasicBlock

/-- The position of the last entry equal to `offset`. Where two entries share an offset the
later one hides the earlier. -/
def lastPosition? (offset : Nat) : List Nat → Option Nat
  | [] => none
  | first :: rest =>
    match lastPosition? offset rest with
    | some position => some (position + 1)
    | none => if first = offset then some 0 else none

/-- An entry is found exactly when it is in the list. -/
theorem lastPosition?_isSome (offset : Nat) (starts : List Nat) :
    (lastPosition? offset starts).isSome = true ↔ offset ∈ starts := by
  induction starts with
  | nil => simp [lastPosition?]
  | cons first rest ih =>
    simp only [lastPosition?]
    cases found : lastPosition? offset rest with
    | some position =>
      have member := ih.1 (by simp [found])
      simp [member]
    | none =>
      have absent : offset ∉ rest := fun member => by simp [found] at ih; exact ih member
      by_cases same : first = offset
      · simp [same]
      · simp [same, absent, Ne.symm same]

/-- A position that is found holds the entry looked for. -/
theorem getElem?_of_lastPosition? {offset position : Nat} {starts : List Nat}
    (found : lastPosition? offset starts = some position) :
    starts[position]? = some offset := by
  induction starts generalizing position with
  | nil => simp [lastPosition?] at found
  | cons first rest ih =>
    simp only [lastPosition?] at found
    cases behind : lastPosition? offset rest with
    | some earlier =>
      simp only [behind, Option.some.injEq] at found
      subst found
      simpa using ih behind
    | none =>
      simp only [behind] at found
      split at found
      · injection found with found
        subst found
        simp_all
      · cases found

end ConstantRecovery
