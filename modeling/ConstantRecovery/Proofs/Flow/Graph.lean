import ConstantRecovery.Proofs.Flow.Reaching
import ConstantRecovery.Proofs.Flow.Relayout

/-!
# The view of a stream is its control-flow graph

A view is made in three passes: leaders are marked, the stream is cut in front of them, and edges
are read off the last instructions. What they come to is said here without the passes: which
instructions a block has, where blocks start, and which blocks control can go to from each.
-/

namespace ConstantRecovery

/-- The blocks of a stream, with the edges that control can take between them. -/
structure IsFlowGraph (code : List Instruction) (blocks : List BasicBlock) : Prop where
  /-- No block is empty. -/
  inhabited : ∀ block ∈ blocks, block.instructions ≠ []
  /-- The blocks have the instructions of the stream, in order. -/
  whole : blocks.flatMap (·.instructions) = code
  /-- A block is numbered by its position. -/
  numbered : ∀ (position : Nat) (block : BasicBlock), blocks[position]? = some block → block.id = position
  /-- A block starts where its first instruction does. -/
  headed : ∀ block ∈ blocks, block.instructions.head?.map (·.offset) = some block.offset
  /-- Only the last instruction of a block ends a straight run. -/
  straight : ∀ block ∈ blocks, ∀ inner ∈ block.instructions.dropLast, inner.isTerminal = false
  /-- A jump that goes to an instruction goes to the start of a block. -/
  aimed : ∀ jump ∈ code, ∀ target ∈ jump.jumpSlots, target ∈ offsets code →
    ∃ block ∈ blocks, block.offset = target
  /-- A block starts at the front of the stream, where a jump goes, or behind an instruction that
  ends a straight run. -/
  started : ∀ (position : Nat) (block : BasicBlock), blocks[position]? = some block →
    let front := (blocks.take position).flatMap (·.instructions)
    front = [] ∨ (∃ jump ∈ code, block.offset ∈ jump.jumpSlots) ∨
      ∃ before, front.getLast? = some before ∧ before.isTerminal = true
  /-- No edge is named twice. -/
  distinct : ∀ block ∈ blocks, block.successors.Nodup
  /-- Edges lead to where the last instruction of a block jumps, and to the next block where control
  can go on. -/
  edges : ∀ (position : Nat) (block : BasicBlock) (last : Instruction),
    blocks[position]? = some block → block.instructions.getLast? = some last → ∀ successor : Nat,
      successor ∈ block.successors ↔
        (∃ other, blocks[successor]? = some other ∧ other.offset ∈ last.jumpSlots) ∨
          (last.flow.continues = true ∧ successor = position + 1 ∧ successor < blocks.length)

/-- A target is in a slot. -/
theorem mem_jumpSlots_of_mem_targets {instruction : Instruction} {target : Nat}
    (aims : target ∈ instruction.targets) : target ∈ instruction.jumpSlots := by
  obtain ⟨offset, size, opcode, lead, mnemonic, flow, operand⟩ := instruction
  cases operand <;> cases flow <;> first | exact aims | cases aims

/-- Slots and targets are the same where only a `switch` has a jump table. -/
theorem mem_jumpSlots_iff {instruction : Instruction}
    (tables : ∀ entries, instruction.operand = .table entries → instruction.flow = .switch)
    (target : Nat) : target ∈ instruction.jumpSlots ↔ target ∈ instruction.targets :=
  ⟨mem_targets_of_mem_jumpSlots tables, mem_jumpSlots_of_mem_targets⟩

section Views

variable {code : List Instruction} {position : Nat} {block : BasicBlock}

/-- Only the last instruction of a block ends a straight run. -/
theorem isTerminal_of_mem_dropLast (here : (buildBlocks code)[position]? = some block)
    {inner : Instruction} (member : inner ∈ block.instructions.dropLast) :
    inner.isTerminal = false := by
  obtain ⟨step, there⟩ := List.mem_iff_getElem?.1 member
  rw [List.getElem?_dropLast] at there
  split at there
  · rename_i within
    have behind : step + 1 < block.instructions.length := by omega
    have unmarked := (cutAt_buildBlocks code).inside here behind
    have place := getElem?_joined_placeIn here (Nat.lt_of_succ_lt behind)
    rw [joined_buildBlocks, there] at place
    rw [Nat.zero_add, placeIn, ← Nat.add_assoc, isLeader, Bool.or_eq_false_iff] at unmarked
    rw [← placeIn, place] at unmarked
    exact unmarked.2
  · cases there

/-- A block behind the first starts where a jump goes, or behind an instruction that ends a
straight run. -/
theorem aimed_or_isTerminal_of_block (ascending : Ascending code)
    (here : (buildBlocks code)[position + 1]? = some block) :
    Aimed code block.offset ∨ ∃ before,
      (joined ((buildBlocks code).take (position + 1))).getLast? = some before ∧
        before.isTerminal = true := by
  obtain ⟨bound, -⟩ := List.getElem?_eq_some_iff.1 here
  have marked := (cutAt_buildBlocks code).front bound
  have front := take_joined_placeIn (buildBlocks code) (position + 1)
  obtain ⟨head, -, starts, first⟩ := (headed_buildBlocks code).getElem?_joined here
  have behind : 0 < placeIn (buildBlocks code) (position + 1) 0 := by
    have inhabited := (headed_buildBlocks code).inhabited
    have zero : (buildBlocks code)[0]? = some (buildBlocks code)[0] :=
      List.getElem?_eq_getElem (by omega)
    have some := List.length_pos_iff.2 (inhabited _ (List.mem_of_getElem? zero))
    exact Nat.zero_lt_of_lt (placeIn_lt_placeIn zero some (Nat.succ_pos position) 0)
  have size : (joined ((buildBlocks code).take (position + 1))).length =
      placeIn (buildBlocks code) (position + 1) 0 := rfl
  rw [size, joined_buildBlocks] at first
  rw [joined_buildBlocks] at front
  rw [← front]
  generalize placeIn (buildBlocks code) (position + 1) 0 = place at marked first behind
  obtain ⟨before, rfl⟩ : ∃ before, place = before + 1 := ⟨place - 1, by omega⟩
  have inside : before < code.length := by
    have limit := (List.getElem?_eq_some_iff.1 first).1
    omega
  have previous := List.getElem?_eq_getElem inside
  rw [Nat.zero_add, isLeader_iff ascending previous first, starts] at marked
  refine marked.imp_right fun ends => ⟨_, ?_, ends⟩
  rw [List.take_add_one, previous, Option.toList_some, List.getLast?_concat]

/-- An edge leads to where the last instruction of a block jumps, or to the next block where control
can go on, and each of these has an edge. -/
theorem mem_successors_iff (ascending : Ascending code)
    (here : (buildBlocks code)[position]? = some block) {last : Instruction}
    (ends : block.last? = some last) (successor : Nat) :
    successor ∈ block.successors ↔
      (∃ other, (buildBlocks code)[successor]? = some other ∧ other.offset ∈ last.targets) ∨
        (last.flow.continues = true ∧ successor = position + 1 ∧
          successor < (buildBlocks code).length) := by
  have ordered : ((buildBlocks code).map (·.offset)).Pairwise (· < ·) :=
    (headed_buildBlocks code).starts_pairwise (by rwa [joined_buildBlocks])
  have jumps : successor ∈ last.targets.filterMap
        (lastPosition? · ((buildBlocks code).map (·.offset))) ↔
      ∃ other, (buildBlocks code)[successor]? = some other ∧ other.offset ∈ last.targets := by
    rw [List.mem_filterMap]
    constructor
    · rintro ⟨target, aims, found⟩
      have start := getElem?_of_lastPosition? found
      rw [List.getElem?_map] at start
      obtain ⟨other, there, rfl⟩ := Option.map_eq_some_iff.1 start
      exact ⟨other, there, aims⟩
    · rintro ⟨other, there, aims⟩
      refine ⟨other.offset, aims, lastPosition?_of_ascending ordered ?_⟩
      rw [List.getElem?_map, there, Option.map_some]
  have falls : successor ∈ (if last.flow.continues then
        (behind? (buildBlocks code) position).toList else []) ↔
      last.flow.continues = true ∧ successor = position + 1 ∧
        successor < (buildBlocks code).length := by
    unfold behind?
    cases last.flow.continues with
    | false => simp
    | true =>
      by_cases more : position + 1 < (buildBlocks code).length
      · rw [if_pos rfl, if_pos more, Option.mem_toList, Option.some_inj]
        exact ⟨fun next => ⟨rfl, next.symm, next ▸ more⟩, fun next => next.2.1.symm⟩
      · rw [if_pos rfl, if_neg more, Option.mem_toList]
        exact ⟨nofun, fun next => absurd (next.2.1 ▸ next.2.2) more⟩
  rw [wired_buildBlocks code position block here, ruledEdges_eq here ends, edges_eq_eraseDups,
    List.mem_eraseDups, List.mem_append, jumps, falls]

/-- The edges of a block are edges of its last instruction. -/
theorem exists_edges_of_block (here : (buildBlocks code)[position]? = some block) :
    ∃ last, block.last? = some last ∧
      block.successors = edges ((buildBlocks code).map (·.offset))
        (behind? (buildBlocks code) position) last := by
  have inhabited := (headed_buildBlocks code).inhabited block (List.mem_of_getElem? here)
  have ends : block.last? = some (block.instructions.getLast inhabited) :=
    List.getLast?_eq_getLast_of_ne_nil inhabited
  exact ⟨_, ends, (wired_buildBlocks code position block here).trans (ruledEdges_eq here ends)⟩

/-- The view of an ascending stream whose jump tables belong to `switch` is its control-flow graph,
whether or not its jumps go to instructions. -/
theorem isFlowGraph_buildBlocks (ascending : Ascending code)
    (tables : ∀ instruction ∈ code, ∀ entries,
      instruction.operand = .table entries → instruction.flow = .switch) :
    IsFlowGraph code (buildBlocks code) := by
  have headed := headed_buildBlocks code
  have member {position : Nat} {block : BasicBlock} {instruction : Instruction}
      (here : (buildBlocks code)[position]? = some block)
      (inside : instruction ∈ block.instructions) : instruction ∈ code := by
    rw [← joined_buildBlocks code]
    exact List.mem_flatMap.2 ⟨block, List.mem_of_getElem? here, inside⟩
  refine ⟨headed.inhabited, joined_buildBlocks code, fun _ _ => id_of_buildBlocks, headed, ?_, ?_,
    ?_, ?_, ?_⟩
  · intro block known inner within
    obtain ⟨position, here⟩ := List.mem_iff_getElem?.1 known
    exact isTerminal_of_mem_dropLast here within
  · intro jump inside target slot named
    obtain ⟨instruction, there, rfl⟩ := List.mem_map.1 named
    obtain ⟨position, place⟩ := List.mem_iff_getElem?.1 there
    have aims := (mem_jumpSlots_iff (tables jump inside) _).1 slot
    exact exists_block_of_aimed ascending place ⟨jump, inside, aims⟩
  · intro position block here front
    cases position with
    | zero => exact .inl rfl
    | succ position =>
      refine .inr ((aimed_or_isTerminal_of_block ascending here).imp_left ?_)
      rintro ⟨jump, inside, aims⟩
      exact ⟨jump, inside, (mem_jumpSlots_iff (tables jump inside) _).2 aims⟩
  · intro block known
    obtain ⟨position, here⟩ := List.mem_iff_getElem?.1 known
    obtain ⟨last, -, shape⟩ := exists_edges_of_block here
    rw [shape, edges_eq_eraseDups]
    exact nodup_eraseDups _
  · intro position block last here ends successor
    have inside := member here (List.mem_of_getLast? ends)
    rw [mem_successors_iff ascending here ends]
    simp only [mem_jumpSlots_iff (tables last inside)]

/-- A jump to itself, a table with a repeated and a dangling entry, and a last block that goes on to
nothing. -/
theorem isFlowGraph_buildBlocks_of_table :
    let code := settle 0 [.branch 0x2D 0, .switch [21, 21, 1000], .branch 0xDE 2, .nop]
    Ascending code ∧
      (∀ instruction ∈ code, ∀ entries,
        instruction.operand = .table entries → instruction.flow = .switch) ∧
      IsFlowGraph code (buildBlocks code) ∧
      (buildBlocks code).map (·.successors) = [[0, 1], [3, 2], [1], []] := by
  intro code
  have ascending : Ascending code := ascending_settle 0 _ (by decide)
  have tables : ∀ instruction ∈ code, ∀ entries,
      instruction.operand = .table entries → instruction.flow = .switch := by
    intro instruction inside entries table
    simp only [code, settle, List.mem_cons, List.not_mem_nil, or_false] at inside
    rcases inside with rfl | rfl | rfl | rfl <;> first | rfl | cases table
  refine ⟨ascending, tables, isFlowGraph_buildBlocks ascending tables, ?_⟩
  decide +kernel

end Views

end ConstantRecovery
