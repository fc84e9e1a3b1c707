import ConstantRecovery.Flow.Flattening
import ConstantRecovery.Proofs.Code.Positions
import ConstantRecovery.Proofs.Machine.Relocation

/-!
# Joined blocks

The blocks of a view are joined into a stream if every jump slot names the start of one
of them. The stream is then the instructions of the blocks, settled, and each slot moves
to where its block starts now. When the blocks still stand where the view says, slots
and instructions move by one map.
-/

namespace ConstantRecovery

/-- The instructions of the blocks of a view, one block behind the other. -/
def joined (blocks : List BasicBlock) : List Instruction := blocks.flatMap (·.instructions)

/-- Two views in a row have the instructions of both. -/
@[simp] theorem joined_append (front back : List BasicBlock) :
    joined (front ++ back) = joined front ++ joined back :=
  List.flatMap_append

/-- A computation that succeeds does so part by part. -/
theorem exists_of_bind_eq_ok {α β ε : Type} {first : Except ε α} {rest : α → Except ε β}
    {result : β} (done : (first >>= rest) = .ok result) :
    ∃ value, first = .ok value ∧ rest value = .ok result := by
  cases first with
  | error fault => cases done
  | ok value => exact ⟨value, rfl, done⟩

/-- What succeeds with its fault renamed succeeds. -/
theorem of_mapError_eq_ok {α ε ε' : Type} {first : Except ε α} {rename : ε → ε'} {result : α}
    (done : first.mapError rename = .ok result) : first = .ok result := by
  cases first with
  | error fault => cases done
  | ok value =>
    cases done
    rfl

/-- A partial map over a list succeeds where it agrees with a total one on every entry. -/
theorem mapM_eq_ok_iff {α β ε : Type} {partialMap : α → Except ε β} {total : α → β}
    (agrees : ∀ item result, partialMap item = .ok result → result = total item)
    (items : List α) (results : List β) :
    items.mapM partialMap = .ok results ↔
      (∀ item ∈ items, partialMap item = .ok (total item)) ∧ results = items.map total := by
  induction items generalizing results with
  | nil =>
    rw [List.mapM_nil]
    constructor
    · intro done
      cases done
      exact ⟨by simp, rfl⟩
    · rintro ⟨-, rfl⟩
      rfl
  | cons item rest ih =>
    rw [List.mapM_cons]
    constructor
    · intro done
      obtain ⟨result, first, done⟩ := exists_of_bind_eq_ok done
      obtain ⟨tail, others, done⟩ := exists_of_bind_eq_ok done
      cases done
      obtain ⟨each, same⟩ := (ih tail).1 others
      have head := agrees item result first
      rw [head] at first
      refine ⟨?_, by rw [head, same]; rfl⟩
      intro other member
      rcases List.mem_cons.1 member with rfl | member
      · exact first
      · exact each other member
    · rintro ⟨each, rfl⟩
      have others := (ih _).2 ⟨fun other member => each other (List.mem_cons_of_mem _ member), rfl⟩
      rw [each item List.mem_cons_self, others]
      rfl

/-- The instructions of settled blocks are the settled instructions of the blocks. -/
theorem joined_settleBlocks (start : Nat) (blocks : List BasicBlock) :
    joined (settleBlocks start blocks) = settle start (joined blocks) := by
  induction blocks generalizing start with
  | nil => rfl
  | cons block rest ih =>
    show settle start block.instructions ++ joined (settleBlocks (start + block.size) rest) = _
    rw [ih]
    exact (settle_append start block.instructions (joined rest)).symm

/-- A settled block starts behind the blocks in front of it. -/
theorem getElem?_settleBlocks (start : Nat) (blocks : List BasicBlock) (position : Nat) :
    (settleBlocks start blocks)[position]?.map (·.offset) =
      if position < blocks.length then
        some (start + codeSize (joined (blocks.take position))) else none := by
  induction blocks generalizing start position with
  | nil => simp [settleBlocks]
  | cons block rest ih =>
    cases position with
    | zero => simp [settleBlocks, joined]
    | succ position =>
      simp only [settleBlocks, List.getElem?_cons_succ, ih, List.take_succ_cons,
        List.length_cons, Nat.add_lt_add_iff_right]
      have split : codeSize (joined (block :: rest.take position)) =
          block.size + codeSize (joined (rest.take position)) := by
        show codeSize (block.instructions ++ joined (rest.take position)) = _
        rw [codeSize_append]
        rfl
      rw [split, Nat.add_assoc]

/-- Where a jump slot moves when a view is joined: to the new start of the block that used to
start at the offset in it. -/
def newStart? (blocks : List BasicBlock) (target : Nat) : Option Nat :=
  relocation? blocks (settleBlocks 0 blocks) target

/-- A slot that moves names the start of a block, and moves behind the blocks in front of it. -/
theorem newStart?_eq_some_iff {blocks : List BasicBlock} {target start : Nat} :
    newStart? blocks target = some start ↔
      ∃ position, lastPosition? target (blocks.map (·.offset)) = some position ∧
        start = codeSize (joined (blocks.take position)) := by
  unfold newStart? relocation?
  cases found : lastPosition? target (blocks.map (·.offset)) with
  | none => simp
  | some position =>
    have here := getElem?_of_lastPosition? found
    have inside : position < blocks.length := by
      have bound := (List.getElem?_eq_some_iff.1 here).1
      rwa [List.length_map] at bound
    rw [Option.bind_some, getElem?_settleBlocks, if_pos inside, Nat.zero_add]
    constructor
    · intro same
      exact ⟨position, rfl, (Option.some.inj same).symm⟩
    · rintro ⟨other, same, rfl⟩
      rw [Option.some.inj same]

/-- Slots that hold the start of a block move, and no others. -/
theorem isSome_newStart?_iff {blocks : List BasicBlock} {target : Nat} :
    (newStart? blocks target).isSome = true ↔ target ∈ blocks.map (·.offset) := by
  rw [← lastPosition?_isSome, Option.isSome_iff_exists, Option.isSome_iff_exists]
  constructor
  · rintro ⟨start, moves⟩
    obtain ⟨position, found, -⟩ := newStart?_eq_some_iff.1 moves
    exact ⟨position, found⟩
  · rintro ⟨position, found⟩
    exact ⟨_, newStart?_eq_some_iff.2 ⟨position, found, rfl⟩⟩

/-- An instruction is relocated exactly when each of its slots moves. -/
theorem relocate_eq_ok_iff {move? : Nat → Option Nat} {block : Nat}
    {instruction result : Instruction} :
    relocate move? block instruction = .ok result ↔
      (∀ target ∈ instruction.jumpSlots, (move? target).isSome) ∧
      result = instruction.mapSlots fun target => (move? target).getD target := by
  unfold relocate
  cases stray : instruction.jumpSlots.find? (fun target => (move? target).isNone) with
  | none =>
    have bound : ∀ target ∈ instruction.jumpSlots, (move? target).isSome := by
      intro target member
      have known := List.find?_eq_none.1 stray target member
      simpa [Option.isSome_iff_ne_none] using known
    constructor
    · intro done
      cases done
      exact ⟨bound, rfl⟩
    · rintro ⟨-, rfl⟩
      rfl
  | some target =>
    constructor
    · intro done
      cases done
    · rintro ⟨bound, -⟩
      have known := bound target (List.mem_of_find?_eq_some stray)
      have unknown := List.find?_some stray
      simp_all

/-- Settling changes no slot: what holds of the slots of a stream holds of its settled form. -/
theorem forall_mem_settle_iff {holds : Nat → Prop} (start : Nat) (code : List Instruction) :
    (∀ instruction ∈ settle start code, ∀ target ∈ instruction.jumpSlots, holds target) ↔
      ∀ instruction ∈ code, ∀ target ∈ instruction.jumpSlots, holds target := by
  induction code generalizing start with
  | nil => simp [settle]
  | cons first rest ih =>
    simp only [settle, List.forall_mem_cons, ih]
    exact Iff.rfl

/-- Joining succeeds exactly when every slot names the start of a block; instructions are then
settled, and their slots move. -/
theorem flattenBlocks_eq_ok_iff {blocks : List BasicBlock} {code : List Instruction} :
    flattenBlocks blocks = .ok code ↔
      (∀ instruction ∈ joined blocks, ∀ target ∈ instruction.jumpSlots,
        (newStart? blocks target).isSome) ∧
      code = (settle 0 (joined blocks)).map
        (·.mapSlots fun target => (newStart? blocks target).getD target) := by
  let total (instruction : Instruction) : Instruction :=
    instruction.mapSlots fun target => (newStart? blocks target).getD target
  let relocated (block : BasicBlock) : Except Malformed (List Instruction) :=
    block.instructions.mapM (relocate (newStart? blocks) block.id)
  have inner (block : BasicBlock) (results : List Instruction) :
      relocated block = .ok results ↔
        (∀ instruction ∈ block.instructions,
          relocate (newStart? blocks) block.id instruction = .ok (total instruction)) ∧
        results = block.instructions.map total :=
    mapM_eq_ok_iff (fun _ _ done => (relocate_eq_ok_iff.1 done).2) _ _
  have outer (results : List (List Instruction)) :
      (settleBlocks 0 blocks).mapM relocated = .ok results ↔
        (∀ block ∈ settleBlocks 0 blocks,
          relocated block = .ok (block.instructions.map total)) ∧
        results = (settleBlocks 0 blocks).map fun block => block.instructions.map total :=
    mapM_eq_ok_iff (fun block results done => ((inner block results).1 done).2) _ _
  have slots : (∀ block ∈ settleBlocks 0 blocks,
        relocated block = .ok (block.instructions.map total)) ↔
      ∀ instruction ∈ joined blocks, ∀ target ∈ instruction.jumpSlots,
        (newStart? blocks target).isSome := by
    have moved : (∀ instruction ∈ joined (settleBlocks 0 blocks),
        ∀ target ∈ instruction.jumpSlots, (newStart? blocks target).isSome) ↔
        ∀ instruction ∈ joined blocks, ∀ target ∈ instruction.jumpSlots,
          (newStart? blocks target).isSome := by
      rw [joined_settleBlocks]
      exact forall_mem_settle_iff 0 (joined blocks)
    rw [← moved]
    constructor
    · intro each instruction member
      obtain ⟨block, inside, here⟩ := List.mem_flatMap.1 member
      exact (relocate_eq_ok_iff.1 (((inner block _).1 (each block inside)).1 instruction here)).1
    · intro each block inside
      refine (inner block _).2 ⟨fun instruction here => ?_, rfl⟩
      exact relocate_eq_ok_iff.2
        ⟨each instruction (List.mem_flatMap.2 ⟨block, inside, here⟩), rfl⟩
  have flat : ((settleBlocks 0 blocks).map fun block => block.instructions.map total).flatten =
      (settle 0 (joined blocks)).map total := by
    rw [← joined_settleBlocks, joined, List.map_flatMap, List.flatMap]
  show ((settleBlocks 0 blocks).mapM relocated).map List.flatten = .ok code ↔ _
  rw [← slots]
  constructor
  · intro done
    cases results : (settleBlocks 0 blocks).mapM relocated with
    | error fault =>
      rw [results] at done
      cases done
    | ok runs =>
      rw [results] at done
      cases done
      obtain ⟨each, rfl⟩ := (outer runs).1 results
      exact ⟨each, flat⟩
  · rintro ⟨each, rfl⟩
    rw [(outer _).2 ⟨each, rfl⟩, ← flat]
    rfl

/-- A computation over a list that fails does so on one of its entries. -/
theorem exists_of_mapM_eq_error {α β ε : Type} {partialMap : α → Except ε β} {items : List α}
    {fault : ε} (failed : items.mapM partialMap = .error fault) :
    ∃ item ∈ items, partialMap item = .error fault := by
  induction items with
  | nil => cases failed
  | cons item rest ih =>
    rw [List.mapM_cons] at failed
    cases first : partialMap item with
    | error stop =>
      rw [first] at failed
      cases failed
      exact ⟨item, List.mem_cons_self, first⟩
    | ok result =>
      rw [first] at failed
      cases others : rest.mapM partialMap with
      | error stop =>
        rw [others] at failed
        cases failed
        obtain ⟨other, member, stops⟩ := ih others
        exact ⟨other, List.mem_cons_of_mem item member, stops⟩
      | ok results =>
        rw [others] at failed
        cases failed

/-- An instruction that is not relocated has a slot that does not move. -/
theorem exists_of_relocate_eq_error {move? : Nat → Option Nat} {block : Nat}
    {instruction : Instruction} {fault : Malformed}
    (failed : relocate move? block instruction = .error fault) :
    ∃ target ∈ instruction.jumpSlots, move? target = none ∧
      fault = .strayJump instruction.offset block target := by
  unfold relocate at failed
  cases stray : instruction.jumpSlots.find? (fun target => (move? target).isNone) with
  | none =>
    rw [stray] at failed
    cases failed
  | some target =>
    rw [stray] at failed
    cases failed
    have unknown := List.find?_some stray
    exact ⟨target, List.mem_of_find?_eq_some stray, Option.isNone_iff_eq_none.1 unknown, rfl⟩

/-- Where joining fails, a slot names no start of a block, and the complaint names the slot. -/
theorem exists_of_flattenBlocks_eq_error {blocks : List BasicBlock} {fault : Malformed}
    (failed : flattenBlocks blocks = .error fault) :
    ∃ instruction ∈ joined blocks, ∃ target ∈ instruction.jumpSlots,
      target ∉ blocks.map (·.offset) ∧ ∃ offset block, fault = .strayJump offset block target := by
  let relocated (block : BasicBlock) : Except Malformed (List Instruction) :=
    block.instructions.mapM (relocate (newStart? blocks) block.id)
  change ((settleBlocks 0 blocks).mapM relocated).map List.flatten = _ at failed
  cases stops : (settleBlocks 0 blocks).mapM relocated with
  | ok runs =>
    rw [stops] at failed
    cases failed
  | error stop =>
    rw [stops] at failed
    cases failed
    obtain ⟨block, inside, stops⟩ := exists_of_mapM_eq_error stops
    obtain ⟨settled, member, stops⟩ := exists_of_mapM_eq_error stops
    obtain ⟨target, slot, unknown, rfl⟩ := exists_of_relocate_eq_error stops
    have flat := List.mem_flatMap.2 ⟨block, inside, member⟩
    change settled ∈ joined (settleBlocks 0 blocks) at flat
    rw [joined_settleBlocks] at flat
    obtain ⟨number, here⟩ := List.mem_iff_getElem?.1 flat
    rw [getElem?_settle] at here
    obtain ⟨instruction, there, rfl⟩ := Option.map_eq_some_iff.1 here
    refine ⟨instruction, List.mem_of_getElem? there, target, slot, ?_, _, _, rfl⟩
    rw [← isSome_newStart?_iff, unknown]
    exact Bool.false_ne_true

/-- Where an offset goes when a stream settles: with the instruction that starts there. An
offset at which none starts stays. -/
def settledOffset (code : List Instruction) (offset : Nat) : Nat :=
  match lastPosition? offset (offsets code) with
  | some position => codeSize (code.take position)
  | none => offset

/-- When an ascending stream settles, an instruction goes behind the sizes in front of it. -/
theorem settledOffset_of_getElem? {code : List Instruction} (ascending : Ascending code)
    {position : Nat} {instruction : Instruction} (here : code[position]? = some instruction) :
    settledOffset code instruction.offset = codeSize (code.take position) := by
  unfold settledOffset
  rw [ascending.lastPosition? here]

/-- Every block of a view still stands where its first instruction does. -/
def Headed (blocks : List BasicBlock) : Prop :=
  ∀ block ∈ blocks, block.instructions.head?.map (·.offset) = some block.offset

/-- The stream of a view around one of its blocks. -/
theorem joined_around {blocks : List BasicBlock} {position : Nat} {block : BasicBlock}
    (here : blocks[position]? = some block) :
    joined blocks = joined (blocks.take position) ++
      (block.instructions ++ joined (blocks.drop (position + 1))) := by
  have split : blocks = blocks.take position ++ block :: blocks.drop (position + 1) := by
    obtain ⟨inside, rfl⟩ := List.getElem?_eq_some_iff.1 here
    rw [List.getElem_cons_drop, List.take_append_drop]
  exact (congrArg joined split).trans (joined_append _ _)

/-- A headed block starts in the stream behind the blocks in front of it. -/
theorem Headed.getElem?_joined {blocks : List BasicBlock} (headed : Headed blocks) {position : Nat}
    {block : BasicBlock} (here : blocks[position]? = some block) :
    ∃ head, block.instructions.head? = some head ∧ head.offset = block.offset ∧
      (joined blocks)[(joined (blocks.take position)).length]? = some head := by
  have first := headed block (List.mem_of_getElem? here)
  obtain ⟨head, isHead, starts⟩ := Option.map_eq_some_iff.1 first
  refine ⟨head, isHead, starts, ?_⟩
  obtain ⟨rest, shape⟩ := List.head?_eq_some_iff.1 isHead
  rw [joined_around here, List.getElem?_append_right (Nat.le_refl _), Nat.sub_self, shape]
  rfl

/-- In a headed view whose stream ascends, slots move as instructions do. -/
theorem Headed.settledOffset_eq {blocks : List BasicBlock} (headed : Headed blocks)
    (ascending : Ascending (joined blocks)) {target start : Nat}
    (moves : newStart? blocks target = some start) :
    settledOffset (joined blocks) target = start := by
  obtain ⟨position, found, rfl⟩ := newStart?_eq_some_iff.1 moves
  have named := getElem?_of_lastPosition? found
  rw [List.getElem?_map] at named
  obtain ⟨block, here, rfl⟩ := Option.map_eq_some_iff.1 named
  obtain ⟨head, -, same, place⟩ := headed.getElem?_joined here
  rw [← same, settledOffset_of_getElem? ascending place]
  have front : (joined blocks).take (joined (blocks.take position)).length =
      joined (blocks.take position) := by
    have split :
        joined blocks = joined (blocks.take position) ++ joined (blocks.drop position) := by
      rw [← joined_append, List.take_append_drop]
    rw [split, List.take_left]
  rw [front]

/-- The target of a jump is in one of its slots. -/
theorem mem_jumpSlots_of_target? {instruction : Instruction} {target : Nat}
    (aims : instruction.target? = some target) : target ∈ instruction.jumpSlots := by
  obtain ⟨offset, size, opcode, lead, mnemonic, flow, operand⟩ := instruction
  cases operand with
  | target place =>
    simp only [Instruction.target?] at aims
    split at aims
    · rename_i jumps
      cases aims
      rw [Instruction.jumpSlots, if_pos jumps]
      exact List.mem_singleton.2 rfl
    · cases aims
  | _ => cases aims

/-- Maps that agree on the slots of an instruction move it alike. -/
theorem mapSlots_congr {instruction : Instruction} {first second : Nat → Nat}
    (agree : ∀ target ∈ instruction.jumpSlots, first target = second target) :
    instruction.mapSlots first = instruction.mapSlots second := by
  unfold Instruction.jumpSlots at agree
  unfold Instruction.mapSlots
  split
  · rename_i jumps
    rw [if_pos jumps] at agree
    split
    · rename_i target shape
      rw [shape] at agree
      rw [agree target List.mem_cons_self]
    · rename_i targets shape
      rw [shape] at agree
      rw [List.map_congr_left agree]
    · rfl
  · rfl

/-- Joining a headed view whose stream ascends moves each instruction to its settled place, and
its slots with it. -/
theorem Headed.eq_moved_of_flattenBlocks {blocks : List BasicBlock} (headed : Headed blocks)
    (ascending : Ascending (joined blocks)) {code : List Instruction}
    (done : flattenBlocks blocks = .ok code) :
    code = (joined blocks).map (·.moved (settledOffset (joined blocks))) := by
  obtain ⟨bound, rfl⟩ := flattenBlocks_eq_ok_iff.1 done
  refine List.ext_getElem? fun position => ?_
  rw [List.getElem?_map, List.getElem?_map, getElem?_settle, Nat.zero_add]
  cases here : (joined blocks)[position]? with
  | none => rfl
  | some instruction =>
    have agree : ∀ target ∈ instruction.jumpSlots,
        (newStart? blocks target).getD target = settledOffset (joined blocks) target := by
      intro target slot
      obtain ⟨start, moves⟩ := Option.isSome_iff_exists.1
        (bound instruction (List.mem_of_getElem? here) target slot)
      rw [headed.settledOffset_eq ascending moves, moves, Option.getD_some]
    have place := settledOffset_of_getElem? ascending here
    simp only [Option.map_some, Option.some.injEq, Instruction.moved, place,
      ← mapSlots_congr agree]
    obtain ⟨offset, size, opcode, lead, mnemonic, flow, operand⟩ := instruction
    cases flow <;> cases operand <;> rfl

/-- In a view that can be joined every slot names a block. -/
theorem exists_block_of_flattenBlocks {blocks : List BasicBlock} {code : List Instruction}
    (done : flattenBlocks blocks = .ok code) {instruction : Instruction}
    (member : instruction ∈ joined blocks) {target : Nat} (slot : target ∈ instruction.jumpSlots) :
    ∃ block ∈ blocks, block.offset = target := by
  have moves := (flattenBlocks_eq_ok_iff.1 done).1 instruction member target slot
  exact List.mem_map.1 (isSome_newStart?_iff.1 moves)

/-- A joined stream without empty instructions ascends. -/
theorem ascending_of_flattenBlocks {blocks : List BasicBlock} {code : List Instruction}
    (done : flattenBlocks blocks = .ok code)
    (positive : ∀ instruction ∈ joined blocks, 0 < instruction.size) : Ascending code := by
  obtain ⟨-, rfl⟩ := flattenBlocks_eq_ok_iff.1 done
  have stay (move : Nat → Nat) (instruction : Instruction) :
      (instruction.mapSlots move).offset = instruction.offset := by
    obtain ⟨operand, same⟩ := instruction.mapSlots_frame move
    rw [same]
  have settled := ascending_settle 0 (joined blocks) positive
  simp only [Ascending, offsets, List.map_map, Function.comp_def, stay] at settled ⊢
  exact settled

end ConstantRecovery
