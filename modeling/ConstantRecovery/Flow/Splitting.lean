import ConstantRecovery.Flow.Block

/-!
# Splitting a stream into blocks

A block starts at the front of the stream, wherever a jump lands and behind every
instruction that ends a straight run. Its edges follow from its last instruction:
the blocks its jumps go to, each named once, and the next block where control can
go on. A jump to an offset where no instruction starts splits nothing and gives no
edge.
-/

namespace ConstantRecovery

/-- The positions of a stream that some jump lands on. -/
def landingPositions (code : List Instruction) : List Nat :=
  (code.flatMap (·.targets)).filterMap (lastPosition? · (offsets code))

/-- A block starts at this position. -/
def isLeader (code : List Instruction) (landings : List Nat) : Nat → Bool
  | 0 => true
  | position + 1 =>
    landings.contains (position + 1) || (code[position]?.any (·.isTerminal))

/-- Cuts a list in front of every marked position behind its first one; `position` is the
position of the first. -/
def cutAt {α : Type} (marked : Nat → Bool) (position : Nat) : List α → List (List α)
  | [] => []
  | first :: rest =>
    match cutAt marked (position + 1) rest with
    | [] => [[first]]
    | run :: runs =>
      if marked (position + 1) then [first] :: run :: runs else (first :: run) :: runs

/-- Cutting loses nothing and changes no order. -/
@[simp] theorem flatten_cutAt {α : Type} (marked : Nat → Bool) (position : Nat) (items : List α) :
    (cutAt marked position items).flatten = items := by
  induction items generalizing position with
  | nil => rfl
  | cons first rest ih =>
    have rebuilt := ih (position + 1)
    simp only [cutAt]
    split
    · rename_i none
      simp only [none, List.flatten_nil] at rebuilt
      simp [← rebuilt]
    · rename_i run runs cut
      simp only [cut, List.flatten_cons] at rebuilt
      split <;> simp [← rebuilt]

/-- Cutting leaves no empty run. -/
theorem ne_nil_of_mem_cutAt {α : Type} (marked : Nat → Bool) (position : Nat) (items : List α)
    {run : List α} (member : run ∈ cutAt marked position items) : run ≠ [] := by
  induction items generalizing position run with
  | nil => simp [cutAt] at member
  | cons first rest ih =>
    simp only [cutAt] at member
    split at member
    · simp_all
    · rename_i head runs cut
      have tail : ∀ other ∈ runs, other ≠ [] := fun other inside =>
        ih (position + 1) (by rw [cut]; exact List.mem_cons_of_mem _ inside)
      split at member
      · rcases List.mem_cons.1 member with rfl | member
        · simp
        · rcases List.mem_cons.1 member with rfl | member
          · exact ih (position + 1) (by rw [cut]; exact List.mem_cons_self)
          · exact tail _ member
      · rcases List.mem_cons.1 member with rfl | member
        · simp
        · exact tail _ member

/-- The edges of a block whose last instruction is `last`, in a view whose blocks start at
`starts`; `next` is the position of the block behind it, if there is one. -/
def edges (starts : List Nat) (next : Option Nat) (last : Instruction) : List Nat :=
  let jumps := (last.targets.filterMap (lastPosition? · starts)).eraseDups
  match last.flow with
  | .unconditional | .leave => jumps
  | .conditional | .switch => jumps ++ next.toList.filter (!jumps.contains ·)
  | .returns | .throws | .endFinally => []
  | .sequential | .call => next.toList

/-- The block at a position of a view, from its run of instructions. -/
def blockOfRun (starts : List Nat) (run : List Instruction) (position : Nat) : BasicBlock :=
  let next := if position + 1 < starts.length then some (position + 1) else none
  { id := position
    offset := (run.head?.map (·.offset)).getD 0
    instructions := run
    successors := (run.getLast?.map (edges starts next)).getD [] }

/-- The block view of a stream. -/
def buildBlocks (code : List Instruction) : List BasicBlock :=
  let landings := landingPositions code
  let runs := cutAt (isLeader code landings) 0 code
  let starts := runs.map fun run => (run.head?.map (·.offset)).getD 0
  runs.zipIdx.map fun (run, position) => blockOfRun starts run position

end ConstantRecovery
