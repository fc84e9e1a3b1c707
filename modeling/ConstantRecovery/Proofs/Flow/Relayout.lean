import ConstantRecovery.Proofs.Flow.Cutting

/-!
# Two ways to lay a stream out anew

A stream can be split into blocks and joined again, or renumbered as it is. Joining looks a
slot up among the starts of the blocks and moves it behind the blocks in front; renumbering
moves it behind the instructions that start in front of it. Where every jump goes to an
instruction, each slot names the start of a block, since blocks start wherever a jump lands,
and both ways give the stream in which every slot follows its instruction.
-/

namespace ConstantRecovery

section Slots

variable {instruction : Instruction} {code : List Instruction}

/-- A slot is a target, where only a `switch` has a jump table. -/
theorem mem_targets_of_mem_jumpSlots
    (tables : ∀ entries, instruction.operand = .table entries → instruction.flow = .switch)
    {target : Nat} (slot : target ∈ instruction.jumpSlots) : target ∈ instruction.targets := by
  unfold Instruction.jumpSlots at slot
  split at slot
  · rename_i jumps
    cases works : instruction.operand with
    | target place =>
      simp only [works, List.mem_singleton] at slot
      rw [slot, Instruction.targets, works]
      simp only [Instruction.target?, works, if_pos jumps, Option.toList_some, List.mem_singleton]
    | table entries =>
      simp only [works] at slot
      rw [Instruction.targets, works]
      simp only [if_pos (tables entries works)]
      exact slot
    | _ => simp only [works, List.not_mem_nil] at slot
  · cases slot

/-- In an ascending stream the offset of an instruction lands where the instruction settles. -/
theorem landing_eq_settledOffset (ascending : Ascending code) {offset : Nat}
    (named : offset ∈ offsets code) :
    landing code (settle 0 code) offset = settledOffset code offset := by
  obtain ⟨instruction, member, rfl⟩ := List.mem_map.1 named
  obtain ⟨position, here⟩ := List.mem_iff_getElem?.1 member
  rw [ascending.landing_offset here, settledOffset_of_getElem? ascending here]

/-- Where every slot of an ascending stream is the offset of an instruction, renumbering moves each
instruction to its settled place, and each slot with the instruction it names. -/
theorem renumber_eq_map_settled (ascending : Ascending code)
    (aims : ∀ instruction ∈ code, ∀ target ∈ instruction.jumpSlots, target ∈ offsets code) :
    renumber code = code.map (·.moved (settledOffset code)) := by
  rw [ascending.renumber_eq_map_moved]
  apply List.map_congr_left
  intro instruction member
  have place := landing_eq_settledOffset ascending (List.mem_map_of_mem member)
  have agree : ∀ target ∈ instruction.jumpSlots,
      landing code (settle 0 code) target = settledOffset code target := fun target slot =>
    landing_eq_settledOffset ascending (aims instruction member target slot)
  rw [Instruction.moved, mapSlots_congr agree, place, Instruction.moved]

end Slots

section Views

variable {code : List Instruction} {position : Nat} {instruction : Instruction}

/-- An instruction of an ascending stream that a jump goes to starts a block. -/
theorem exists_block_of_aimed (ascending : Ascending code)
    (here : code[position]? = some instruction) (aimed : Aimed code instruction.offset) :
    ∃ block ∈ buildBlocks code, block.offset = instruction.offset := by
  have whole := joined_buildBlocks code
  have inside : position < (joined (buildBlocks code)).length := by
    rw [whole]
    exact (List.getElem?_eq_some_iff.1 here).1
  obtain ⟨index, block, inner, there, within, rfl⟩ := exists_placeIn inside
  have member := List.mem_of_getElem? there
  cases inner with
  | zero =>
    obtain ⟨head, -, starts, first⟩ := (headed_buildBlocks code).getElem?_joined there
    rw [whole] at first
    have same : instruction = head := Option.some.inj (here.symm.trans first)
    exact ⟨block, member, by rw [same, starts]⟩
  | succ inner =>
    -- A mark inside a block would have cut it.
    have unmarked := (cutAt_buildBlocks code).inside there within
    rw [Nat.zero_add] at unmarked
    have landing := (mem_landingPositions_iff ascending here).2 aimed
    have marked : isLeader code (landingPositions code)
        (placeIn (buildBlocks code) index (inner + 1)) = true := by
      rw [placeIn, ← Nat.add_assoc, isLeader, Bool.or_eq_true, List.contains_iff_mem]
      exact .inl landing
    rw [marked] at unmarked
    cases unmarked

/-- Splitting a stream into blocks and joining them renumbers the stream, where every jump of it
goes to an instruction of it. -/
theorem flattenBlocks_buildBlocks (ascending : Ascending code)
    (tables : ∀ instruction ∈ code, ∀ entries,
      instruction.operand = .table entries → instruction.flow = .switch)
    (aims : ∀ instruction ∈ code, ∀ target ∈ instruction.targets, target ∈ offsets code) :
    flattenBlocks (buildBlocks code) = .ok (renumber code) := by
  have whole := joined_buildBlocks code
  have slots : ∀ instruction ∈ code, ∀ target ∈ instruction.jumpSlots,
      target ∈ instruction.targets := fun instruction member _ slot =>
    mem_targets_of_mem_jumpSlots (tables instruction member) slot
  have named : ∀ instruction ∈ code, ∀ target ∈ instruction.jumpSlots, target ∈ offsets code :=
    fun instruction member target slot =>
      aims instruction member target (slots instruction member target slot)
  have bound : ∀ instruction ∈ joined (buildBlocks code), ∀ target ∈ instruction.jumpSlots,
      (newStart? (buildBlocks code) target).isSome := by
    rw [whole]
    intro jump member target slot
    obtain ⟨instruction, inside, rfl⟩ := List.mem_map.1 (named jump member target slot)
    obtain ⟨position, here⟩ := List.mem_iff_getElem?.1 inside
    obtain ⟨block, known, starts⟩ := exists_block_of_aimed ascending here
      ⟨jump, member, slots jump member _ slot⟩
    have found : instruction.offset ∈ (buildBlocks code).map (·.offset) :=
      List.mem_map.2 ⟨block, known, starts⟩
    obtain ⟨index, place⟩ := Option.isSome_iff_exists.1 ((lastPosition?_isSome _ _).2 found)
    exact Option.isSome_iff_exists.2 ⟨_, newStart?_eq_some_iff.2 ⟨index, place, rfl⟩⟩
  have done := flattenBlocks_eq_ok_iff.2 ⟨bound, rfl⟩
  have moved := (headed_buildBlocks code).eq_moved_of_flattenBlocks (by rwa [whole]) done
  rw [done, moved, whole, renumber_eq_map_settled ascending named]

/-- A loop with a `switch` and a `leave`, in a stream with gaps: both ways give the same stream. -/
theorem flattenBlocks_buildBlocks_switching :
    let code : List Instruction := [Instruction.nop.placedAt 3,
      (Instruction.switch [3, 40, 20]).placedAt 7, (Instruction.branch 0xDE 40).placedAt 20,
      (Instruction.branch 0x2B 7).placedAt 31, Instruction.ret.placedAt 40]
    Ascending code ∧ flattenBlocks (buildBlocks code) = .ok (renumber code) ∧
      renumber code = settle 0 [.nop, .switch [0, 22, 18], .branch 0xDE 22, .branch 0x2B 1,
        .ret] := by
  intro code
  have ascending : Ascending code := by
    unfold Ascending
    decide
  refine ⟨ascending, flattenBlocks_buildBlocks ascending ?_ ?_, by decide +kernel⟩
  · intro instruction member entries table
    simp only [code, List.mem_cons, List.not_mem_nil, or_false] at member
    rcases member with rfl | rfl | rfl | rfl | rfl <;> first | rfl | cases table
  · decide +kernel

end Views

end ConstantRecovery
