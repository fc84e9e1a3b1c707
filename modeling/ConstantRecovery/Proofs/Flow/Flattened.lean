import ConstantRecovery.Proofs.Code.Slots
import ConstantRecovery.Proofs.Flow.Joining

/-!
# Places in a joined view

An instruction of a joined view is named by its block and by its place in the block. Going
on leads to the next place of the block or to the front of the next block, and a jump leads
to the front of a block, since no other offset can be a slot of a joined view.
-/

namespace ConstantRecovery

/-- The number that the instruction at a place of a block has in the joined stream. -/
def placeIn (blocks : List BasicBlock) (index inner : Nat) : Nat :=
  (joined (blocks.take index)).length + inner

/-- Where a slot of a joined view goes. -/
def slotMove (blocks : List BasicBlock) (target : Nat) : Nat :=
  (newStart? blocks target).getD target

/-- No block of a view is empty. -/
def Inhabited (blocks : List BasicBlock) : Prop := ∀ block ∈ blocks, block.instructions ≠ []

/-- A block of a headed view is not empty. -/
theorem Headed.inhabited {blocks : List BasicBlock} (headed : Headed blocks) :
    Inhabited blocks := by
  intro block member none
  have first := headed block member
  rw [none] at first
  cases first

section Places

variable {blocks : List BasicBlock} {index inner : Nat} {block : BasicBlock}

/-- The instruction at a place of a block. -/
theorem getElem?_joined_placeIn (here : blocks[index]? = some block)
    (within : inner < block.instructions.length) :
    (joined blocks)[placeIn blocks index inner]? = block.instructions[inner]? := by
  rw [placeIn, joined_around here, List.getElem?_append_right (Nat.le_add_right _ _),
    Nat.add_sub_cancel_left, List.getElem?_append_left within]

/-- Places behind the first block are places of the others. -/
theorem placeIn_cons_succ (first : BasicBlock) (rest : List BasicBlock) (index inner : Nat) :
    placeIn (first :: rest) (index + 1) inner =
      first.instructions.length + placeIn rest index inner := by
  show (first.instructions ++ joined (rest.take index)).length + inner = _
  rw [List.length_append, Nat.add_assoc]
  rfl

/-- Behind the last place of a block is the front of the next block. -/
theorem placeIn_succ (here : blocks[index]? = some block) :
    placeIn blocks (index + 1) 0 = placeIn blocks index block.instructions.length := by
  have single : joined [block] = block.instructions := List.flatMap_singleton _ _
  rw [placeIn, placeIn, List.take_add_one, here, Option.toList_some, joined_append, single,
    List.length_append, Nat.add_zero]

/-- Behind the last block is the end of the stream. -/
theorem placeIn_of_length_le (behind : blocks.length ≤ index) :
    placeIn blocks index 0 = (joined blocks).length := by
  rw [placeIn, List.take_of_length_le behind, Nat.add_zero]

/-- Blocks start in order. -/
theorem placeIn_mono {first second : Nat} (le : first ≤ second) :
    placeIn blocks first 0 ≤ placeIn blocks second 0 := by
  have split : blocks.take second = blocks.take first ++ (blocks.take second).drop first := by
    have cut := List.take_append_drop first (blocks.take second)
    rwa [List.take_take, Nat.min_eq_left le, eq_comm] at cut
  rw [placeIn, placeIn, split, joined_append, List.length_append]
  omega

/-- A place of a block is in front of every place of a later one. -/
theorem placeIn_lt_placeIn (here : blocks[index]? = some block)
    (within : inner < block.instructions.length) {later : Nat} (behind : index < later)
    (other : Nat) : placeIn blocks index inner < placeIn blocks later other := by
  have next := placeIn_succ here
  have order := @placeIn_mono blocks (index + 1) later behind
  simp only [placeIn] at next order ⊢
  omega

/-- Every number in a joined stream is that of a place. -/
theorem exists_placeIn {number : Nat} (inside : number < (joined blocks).length) :
    ∃ index block inner, blocks[index]? = some block ∧ inner < block.instructions.length ∧
      number = placeIn blocks index inner := by
  induction blocks generalizing number with
  | nil => cases inside
  | cons first rest ih =>
    by_cases front : number < first.instructions.length
    · exact ⟨0, first, number, rfl, front, (Nat.zero_add number).symm⟩
    · have bound : number - first.instructions.length < (joined rest).length := by
        have whole : (joined (first :: rest)).length =
            first.instructions.length + (joined rest).length := List.length_append
        omega
      obtain ⟨index, block, inner, here, within, place⟩ := ih bound
      refine ⟨index + 1, block, inner, here, within, ?_⟩
      rw [placeIn_cons_succ]
      omega

/-- The stream in front of a block. -/
theorem take_joined_placeIn (blocks : List BasicBlock) (index : Nat) :
    (joined blocks).take (placeIn blocks index 0) = joined (blocks.take index) := by
  have split : joined blocks = joined (blocks.take index) ++ joined (blocks.drop index) := by
    rw [← joined_append, List.take_append_drop]
  rw [split, placeIn, Nat.add_zero, List.take_left]

end Places

section Flattened

variable {blocks : List BasicBlock} {code : List Instruction}

/-- Each instruction of a joined view stands behind those in front of it, with its slots moved. -/
theorem getElem?_of_flattenBlocks (done : flattenBlocks blocks = .ok code) (number : Nat) :
    code[number]? = (joined blocks)[number]?.map fun instruction =>
      (instruction.mapSlots (slotMove blocks)).placedAt
        (codeSize ((joined blocks).take number)) := by
  obtain ⟨-, rfl⟩ := flattenBlocks_eq_ok_iff.1 done
  rw [List.getElem?_map, getElem?_settle, Nat.zero_add, Option.map_map]
  congr 1
  funext instruction
  exact (Instruction.placedAt_mapSlots _ instruction _).symm

/-- Joining keeps the number of instructions. -/
theorem length_of_flattenBlocks (done : flattenBlocks blocks = .ok code) :
    code.length = (joined blocks).length := by
  obtain ⟨-, rfl⟩ := flattenBlocks_eq_ok_iff.1 done
  rw [List.length_map, length_settle]

/-- A slot of a joined view goes to the front of the block that it names. -/
theorem exists_front_of_flattenBlocks (done : flattenBlocks blocks = .ok code)
    (inhabited : Inhabited blocks) {instruction : Instruction}
    (member : instruction ∈ joined blocks) {target : Nat} (slot : target ∈ instruction.jumpSlots) :
    ∃ index block, lastPosition? target (blocks.map (·.offset)) = some index ∧
      blocks[index]? = some block ∧
      (offsets code)[placeIn blocks index 0]? = some (slotMove blocks target) := by
  obtain ⟨start, moves⟩ := Option.isSome_iff_exists.1
    ((flattenBlocks_eq_ok_iff.1 done).1 instruction member target slot)
  obtain ⟨index, found, rfl⟩ := newStart?_eq_some_iff.1 moves
  have named := getElem?_of_lastPosition? found
  rw [List.getElem?_map] at named
  obtain ⟨block, here, -⟩ := Option.map_eq_some_iff.1 named
  refine ⟨index, block, found, here, ?_⟩
  have positive : 0 < block.instructions.length :=
    List.length_pos_iff.2 (inhabited block (List.mem_of_getElem? here))
  rw [offsets, List.getElem?_map, getElem?_of_flattenBlocks done,
    getElem?_joined_placeIn here positive, List.getElem?_eq_getElem positive,
    take_joined_placeIn, slotMove, moves]
  rfl

end Flattened

end ConstantRecovery
