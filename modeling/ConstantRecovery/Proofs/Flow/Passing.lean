import ConstantRecovery.Proofs.Flow.Graph
import ConstantRecovery.Proofs.Flow.Rearranging

/-!
# Control flow, instruction by instruction

Where control can pass from one instruction to another can be said without blocks. A path of edges
between blocks is then a path between the instructions at their fronts: it runs through a block to
its last instruction and takes the edge there. In the view of a stream the converse holds as well,
since a block is left only from its last instruction and entered only at its front. So what a
search over blocks reaches does not depend on how finely the stream was cut.
-/

namespace ConstantRecovery

/-- Control can pass from one instruction of a stream to another: where it jumps, or on to the
next. -/
def Passes (code : List Instruction) (source target : Nat) : Prop :=
  ∃ instruction other, code[source]? = some instruction ∧ code[target]? = some other ∧
    (other.offset ∈ instruction.targets ∨
      instruction.flow.continues = true ∧ target = source + 1)

/-- What jumps ends a straight run. -/
theorem Instruction.isTerminal_of_mem_targets {instruction : Instruction} {target : Nat}
    (aims : target ∈ instruction.targets) : instruction.isTerminal = true := by
  by_contra straight
  have still : (instruction.isBranch || instruction.isLeave) = false := by
    unfold isTerminal at straight
    unfold isBranch isLeave
    cases flow : instruction.flow <;> rw [flow] at straight <;>
      first | rfl | exact absurd rfl straight
  rw [targets_eq_nil still] at aims
  cases aims

/-! ## From blocks to instructions -/

/-- Only the last instruction of a block ends a straight run. -/
def Straight (blocks : List BasicBlock) : Prop :=
  ∀ block ∈ blocks, ∀ inner ∈ block.instructions.dropLast, inner.isTerminal = false

/-- The blocks of a stream are straight: only their last instructions end a run. -/
theorem straight_buildBlocks (code : List Instruction) : Straight (buildBlocks code) := by
  intro block member inner within
  obtain ⟨position, here⟩ := List.mem_iff_getElem?.1 member
  exact isTerminal_of_mem_dropLast here within

/-- Pruning keeps blocks straight. -/
theorem Straight.of_prune? {blocks kept : List BasicBlock} (straight : Straight blocks)
    (done : prune? blocks = some kept) : Straight kept := by
  intro block member inner within
  obtain ⟨index, here⟩ := List.mem_iff_getElem?.1 member
  obtain ⟨position, original, -, there, content, -⟩ := exists_survivor_of_prune? done here
  obtain ⟨-, instructions⟩ := Prod.mk.inj content
  rw [instructions] at within
  exact straight original (List.mem_of_getElem? there) inner within

section Views

variable {blocks : List BasicBlock} {index inner : Nat} {block : BasicBlock}

/-- An instruction of a block that ends a straight run is its last one. -/
theorem Straight.last?_eq (straight : Straight blocks) (here : blocks[index]? = some block)
    {instruction : Instruction} (place : block.instructions[inner]? = some instruction)
    (terminal : instruction.isTerminal = true) :
    inner + 1 = block.instructions.length ∧ block.last? = some instruction := by
  obtain ⟨bound, -⟩ := List.getElem?_eq_some_iff.1 place
  have full : inner + 1 = block.instructions.length := by
    by_contra other
    have within : instruction ∈ block.instructions.dropLast := by
      apply List.mem_of_getElem? (i := inner)
      rw [List.getElem?_dropLast, if_pos (by omega), place]
    rw [straight block (List.mem_of_getElem? here) instruction within] at terminal
    cases terminal
  refine ⟨full, ?_⟩
  rw [BasicBlock.last?, List.getLast?_eq_getElem?, ← full, Nat.add_sub_cancel, place]

end Views

/-! ## From instructions to blocks -/

section Streams

variable {code : List Instruction}

/-- The instruction stands in a block that a path of edges leads to from the first one. -/
def ReachedAt (code : List Instruction) (place : Nat) : Prop :=
  ∃ index block inner, (buildBlocks code)[index]? = some block ∧
    inner < block.instructions.length ∧ place = placeIn (buildBlocks code) index inner ∧
    Relation.ReflTransGen (Leads (buildBlocks code)) 0 index

/-- Where control passes from a reached block, it stays in one. -/
theorem ReachedAt.passes (ascending : Ascending code) {source target : Nat}
    (reached : ReachedAt code source) (passes : Passes code source target) :
    ReachedAt code target := by
  obtain ⟨index, block, inner, here, within, rfl, path⟩ := reached
  obtain ⟨instruction, other, at_, there, way⟩ := passes
  have whole := joined_buildBlocks code
  have inhabited := (headed_buildBlocks code).inhabited
  have place : block.instructions[inner]? = some instruction := by
    rw [← getElem?_joined_placeIn here within, whole, at_]
  have straight := straight_buildBlocks code
  rcases way with aims | ⟨continues, rfl⟩
  · -- A jump is taken from the end of a block and lands at the front of one.
    obtain ⟨-, ends⟩ := straight.last?_eq here place (Instruction.isTerminal_of_mem_targets aims)
    obtain ⟨next, member, starts⟩ := exists_block_of_aimed ascending there
      ⟨instruction, List.mem_of_getElem? at_, aims⟩
    obtain ⟨landing, found⟩ := List.mem_iff_getElem?.1 member
    obtain ⟨head, -, same, front⟩ := (headed_buildBlocks code).getElem?_joined found
    have edge := (mem_successors_iff ascending here ends landing).2
      (.inl ⟨next, found, by rw [starts]; exact aims⟩)
    have leads := leads_of_successor here edge (List.getElem?_eq_some_iff.1 found).1
    refine ⟨landing, next, 0, found, List.length_pos_iff.2 (inhabited next member), ?_,
      path.tail leads⟩
    rw [whole] at front
    have first := ascending.lastPosition? front
    rw [same, starts, ascending.lastPosition? there] at first
    exact Option.some.inj first
  · by_cases more : inner + 1 < block.instructions.length
    · exact ⟨index, block, inner + 1, here, more, rfl, path⟩
    · -- Control runs on from the end of a block to the front of the next.
      have full : inner + 1 = block.instructions.length := by omega
      have ends : block.last? = some instruction := by
        rw [BasicBlock.last?, List.getLast?_eq_getElem?, ← full, Nat.add_sub_cancel, place]
      have next : placeIn (buildBlocks code) index inner + 1 =
          placeIn (buildBlocks code) (index + 1) 0 := by
        rw [placeIn_succ here, ← full]
        rfl
      have inside : index + 1 < (buildBlocks code).length := by
        by_contra last
        rw [next, placeIn_of_length_le (Nat.not_lt.1 last), whole,
          List.getElem?_eq_none (Nat.le_refl _)] at there
        cases there
      have behind := List.getElem?_eq_getElem inside
      exact ⟨index + 1, _, 0, behind,
        List.length_pos_iff.2 (inhabited _ (List.mem_of_getElem? behind)), next,
        path.tail (leads_of_continues here ends continues inside)⟩

/-- Wherever control runs from a reached block, it stays in one. -/
theorem ReachedAt.run (ascending : Ascending code) {source target : Nat}
    (reached : ReachedAt code source) (path : Relation.ReflTransGen (Passes code) source target) :
    ReachedAt code target := by
  induction path with
  | refl => exact reached
  | tail _ passes ih => exact ih.passes ascending passes

end Streams

end ConstantRecovery
