import ConstantRecovery.Proofs.Code.Renumbered
import ConstantRecovery.Proofs.Flow.Edges
import Mathlib.Data.List.Find

/-!
# Streams in other words

A stream may be told in other words: each instruction is replaced by one that stands where
a renaming of offsets says, ends a straight run where it did, and jumps where it did, under
the new names. The replacement has the same blocks, and the same of them are reached. Where
two views differ in names only, they join to the same stream, or fail at the same jump.
-/

namespace ConstantRecovery

/-- Cutting looks at positions only. -/
theorem cutAt_map {α β : Type} (rename : α → β) (marked : Nat → Bool) (position : Nat)
    (items : List α) :
    cutAt marked position (items.map rename) =
      (cutAt marked position items).map (List.map rename) := by
  induction items generalizing position with
  | nil => rfl
  | cons first rest ih =>
    rw [List.map_cons, cutAt, cutAt, ih]
    cases cutAt marked (position + 1) rest with
    | nil => rfl
    | cons run runs =>
      by_cases mark : marked (position + 1) = true
      · simp only [List.map_cons, List.map_nil, if_pos mark]
      · simp only [List.map_cons, if_neg mark]

/-- A renaming that takes no other entry to a name finds the name where it finds the entry. -/
theorem lastPosition?_map {move : Nat → Nat} {target : Nat} {starts : List Nat}
    (injective : ∀ start ∈ starts, move start = move target → start = target) :
    lastPosition? (move target) (starts.map move) = lastPosition? target starts := by
  induction starts with
  | nil => rfl
  | cons first rest ih =>
    obtain ⟨here, later⟩ := List.forall_mem_cons.1 injective
    have same : move first = move target ↔ first = target := ⟨here, congrArg move⟩
    rw [List.map_cons, lastPosition?, lastPosition?, ih later]
    simp only [same]

/-- Each instruction of a stream is replaced by one that plays its part under other offsets. -/
structure Renames (code : List Instruction) (rename : Instruction → Instruction)
    (move : Nat → Nat) : Prop where
  /-- The new offsets tell the old ones apart. -/
  injective : ∀ first ∈ offsets code, ∀ second ∈ offsets code,
    move first = move second → first = second
  /-- Jumps go to instructions. -/
  aims : ∀ instruction ∈ code, ∀ target ∈ instruction.targets, target ∈ offsets code
  /-- Instructions stand where the renaming says. -/
  offset : ∀ instruction ∈ code, (rename instruction).offset = move instruction.offset
  /-- Instructions jump where the renaming says. -/
  targets : ∀ instruction ∈ code, (rename instruction).targets = instruction.targets.map move
  /-- Instructions end a straight run where they did. -/
  terminal : ∀ instruction ∈ code, (rename instruction).isTerminal = instruction.isTerminal
  /-- Control goes on behind instructions where it did. -/
  continues : ∀ instruction ∈ code,
    (rename instruction).flow.continues = instruction.flow.continues

/-- The block in other words. -/
def BasicBlock.retold (rename : Instruction → Instruction) (move : Nat → Nat)
    (block : BasicBlock) : BasicBlock :=
  { block with
    offset := move block.offset
    instructions := block.instructions.map rename }

namespace Renames

variable {code : List Instruction} {rename : Instruction → Instruction} {move : Nat → Nat}

/-- In other words a stream has its offsets under their new names. -/
theorem offsets_eq (renames : Renames code rename move) :
    offsets (code.map rename) = (offsets code).map move := by
  rw [offsets, offsets, List.map_map, List.map_map]
  exact List.map_congr_left renames.offset

/-- A target is found under its new name where it was found. -/
theorem lastPosition?_eq (renames : Renames code rename move) {instruction : Instruction}
    (member : instruction ∈ code) {target : Nat} (aimed : target ∈ instruction.targets)
    {starts : List Nat} (part : ∀ start ∈ starts, start ∈ offsets code) :
    lastPosition? (move target) (starts.map move) = lastPosition? target starts :=
  have known := renames.aims instruction member target aimed
  lastPosition?_map fun start inside => renames.injective start (part start inside) target known

/-- In other words jumps go to the positions they went to. -/
theorem landingPositions_eq (renames : Renames code rename move) :
    landingPositions (code.map rename) = landingPositions code := by
  have targets : (code.map rename).flatMap (·.targets) =
      (code.flatMap (·.targets)).map move := by
    rw [List.flatMap_map, List.map_flatMap]
    exact List.flatMap_congr renames.targets
  rw [landingPositions, landingPositions, targets, renames.offsets_eq, List.filterMap_map]
  refine List.filterMap_congr fun target member => ?_
  obtain ⟨instruction, inside, aimed⟩ := List.mem_flatMap.1 member
  exact renames.lastPosition?_eq inside aimed fun _ => id

/-- Blocks start at the same positions. -/
theorem isLeader_eq (renames : Renames code rename move) (landings : List Nat) :
    isLeader (code.map rename) landings = isLeader code landings := by
  funext position
  cases position with
  | zero => rfl
  | succ position =>
    have ends : (code.map rename)[position]?.any (·.isTerminal) =
        code[position]?.any (·.isTerminal) := by
      rw [List.getElem?_map]
      cases here : code[position]? with
      | none => rfl
      | some instruction => exact renames.terminal instruction (List.mem_of_getElem? here)
    rw [isLeader, isLeader, ends]

/-- A last instruction gives its block the same edges. -/
theorem edges_eq (renames : Renames code rename move) {last : Instruction} (member : last ∈ code)
    {starts : List Nat} (part : ∀ start ∈ starts, start ∈ offsets code) (next : Option Nat) :
    edges (starts.map move) next (rename last) = edges starts next last := by
  have jumps : (rename last).targets.filterMap (lastPosition? · (starts.map move)) =
      last.targets.filterMap (lastPosition? · starts) := by
    rw [renames.targets last member, List.filterMap_map]
    exact List.filterMap_congr fun target aimed => renames.lastPosition?_eq member aimed part
  rw [edges_eq_eraseDups, edges_eq_eraseDups, jumps, renames.continues last member]

/-- A run of the stream becomes the same block in other words. -/
theorem blockOfRun_eq (renames : Renames code rename move) {run : List Instruction}
    (inhabited : run ≠ []) (inside : ∀ instruction ∈ run, instruction ∈ code) {starts : List Nat}
    (part : ∀ start ∈ starts, start ∈ offsets code) (position : Nat) :
    blockOfRun (starts.map move) (run.map rename) position =
      (blockOfRun starts run position).retold rename move := by
  obtain ⟨first, rest, rfl⟩ := List.exists_cons_of_ne_nil inhabited
  have head := renames.offset first (inside first List.mem_cons_self)
  have last := renames.edges_eq (inside _ (List.getLast_mem inhabited)) part
  simp only [blockOfRun, BasicBlock.retold, List.length_map, List.getLast?_map,
    List.getLast?_eq_getLast_of_ne_nil inhabited, Option.map_some, Option.getD_some, last]
  simp only [List.map_cons, List.head?_cons, Option.map_some, Option.getD_some, head]

/-- The view of a stream in other words is the view in other words. -/
theorem buildBlocks_eq (renames : Renames code rename move) :
    buildBlocks (code.map rename) = (buildBlocks code).map (·.retold rename move) := by
  let runs := cutAt (isLeader code (landingPositions code)) 0 code
  let start (run : List Instruction) : Nat := (run.head?.map (·.offset)).getD 0
  let known := runs.map start
  have inside : ∀ run ∈ runs, ∀ instruction ∈ run, instruction ∈ code := by
    intro run member instruction within
    rw [← flatten_cutAt (isLeader code (landingPositions code)) 0 code]
    exact List.mem_flatten.2 ⟨run, member, within⟩
  have inhabited : ∀ run ∈ runs, run ≠ [] := fun run member => ne_nil_of_mem_cutAt _ _ _ member
  have heads : ∀ run ∈ runs, ∃ first ∈ code, start run = first.offset ∧
      start (run.map rename) = move first.offset := by
    intro run member
    obtain ⟨first, rest, rfl⟩ := List.exists_cons_of_ne_nil (inhabited run member)
    have here := inside _ member first List.mem_cons_self
    exact ⟨first, here, rfl, renames.offset first here⟩
  have part : ∀ offset ∈ known, offset ∈ offsets code := by
    intro offset member
    obtain ⟨run, among, rfl⟩ := List.mem_map.1 member
    obtain ⟨first, here, same, -⟩ := heads run among
    rw [same]
    exact List.mem_map_of_mem here
  have starts : (runs.map (List.map rename)).map start = known.map move := by
    rw [List.map_map, List.map_map]
    refine List.map_congr_left fun run member => ?_
    obtain ⟨first, -, same, moved⟩ := heads run member
    rw [Function.comp_apply, Function.comp_apply, same, moved]
  have view : buildBlocks code =
      runs.zipIdx.map fun pair => blockOfRun known pair.1 pair.2 := rfl
  have again : buildBlocks (code.map rename) = (runs.map (List.map rename)).zipIdx.map fun pair =>
      blockOfRun ((runs.map (List.map rename)).map start) pair.1 pair.2 := by
    rw [buildBlocks, renames.landingPositions_eq, renames.isLeader_eq, cutAt_map]
  rw [again, starts, view]
  clear_value known
  rw [List.zipIdx_map, List.map_map, List.map_map]
  refine List.map_congr_left fun pair member => ?_
  have run := List.fst_mem_of_mem_zipIdx member
  exact renames.blockOfRun_eq (inhabited _ run) (inside _ run) part pair.2

end Renames

/-! ## Pruning -/

section Pruning

variable {rename : Instruction → Instruction} {move : Nat → Nat}
  {blocks kept others : List BasicBlock}

/-- In other words a view has its edges. -/
theorem edgesFrom_retold (blocks : List BasicBlock) :
    edgesFrom (blocks.map (·.retold rename move)) = edgesFrom blocks := by
  funext position
  rw [edgesFrom, edgesFrom, List.getElem?_map]
  cases blocks[position]? with
  | none => rfl
  | some block => rw [Option.map_some, List.length_map]; rfl

/-- The search follows edges only. -/
theorem explore_retold (blocks : List BasicBlock) (rounds : Nat) (seen frontier : List Nat) :
    explore (blocks.map (·.retold rename move)) rounds seen frontier =
      explore blocks rounds seen frontier := by
  induction rounds generalizing seen frontier with
  | zero => rfl
  | succ rounds ih => rw [explore, explore, edgesFrom_retold, ih]

/-- In other words the same positions stay. -/
theorem survivors_retold (blocks : List BasicBlock) :
    survivors (blocks.map (·.retold rename move)) = survivors blocks := by
  rw [survivors, survivors, reachable, reachable, explore_retold, List.length_map,
    List.isEmpty_map]

/-- The same blocks survive in other words. -/
theorem eq_retold_of_prune? (pruned : prune? blocks = some kept)
    (again : prune? (blocks.map (·.retold rename move)) = some others) :
    others = kept.map (·.retold rename move) := by
  have index : survivorIndex (blocks.map (·.retold rename move)) = survivorIndex blocks := by
    funext position
    rw [survivorIndex, survivorIndex, survivors_retold]
  have picked (positions : List Nat) :
      blocksAt (blocks.map (·.retold rename move)) positions =
        (blocksAt blocks positions).map (·.retold rename move) := by
    rw [blocksAt, blocksAt, List.map_filterMap]
    exact List.filterMap_congr fun position _ => List.getElem?_map
  rw [eq_map_of_prune? again, eq_map_of_prune? pruned, survivors_retold, index, picked,
    List.map_map, List.map_map]
  rfl

end Pruning

/-! ## Joining -/

/-- The complaint under another name of the target. -/
def Malformed.aimed (move : Nat → Nat) : Malformed → Malformed
  | strayJump offset block target => strayJump offset block (move target)
  | other => other

/-- Where each entry of a list is told in other words, and what is computed from it is that in
other words, the same holds of the list, also where it fails. -/
theorem mapM_retold {α β γ ζ ε δ : Type} {retell : α → β} {first : α → Except ε γ}
    {second : β → Except δ ζ} {result : γ → ζ} {rename : ε → δ} {items : List α}
    (agree : ∀ item ∈ items, second (retell item) = ((first item).map result).mapError rename) :
    (items.map retell).mapM second =
      ((items.mapM first).map (List.map result)).mapError rename := by
  induction items with
  | nil => rfl
  | cons item rest ih =>
    obtain ⟨here, later⟩ := List.forall_mem_cons.1 agree
    rw [List.map_cons, List.mapM_cons, List.mapM_cons, here, ih later]
    cases first item with
    | error fault => rfl
    | ok value => cases rest.mapM first <;> rfl

/-- Where each entry of a list is told in other words, and what is computed from it fails under
another name where it fails, so does the list. -/
theorem mapM_mapError {α β γ ε δ : Type} {retell : α → β} {first : α → Except ε γ}
    {second : β → Except δ γ} {rename : ε → δ} {items : List α}
    (agree : ∀ item ∈ items, second (retell item) = (first item).mapError rename) :
    (items.map retell).mapM second = (items.mapM first).mapError rename := by
  have same : ∀ item ∈ items, second (retell item) = ((first item).map id).mapError rename := by
    intro item member
    rw [Except.map_id]
    exact agree item member
  rw [mapM_retold same, List.map_id_fun, Except.map_id]
  rfl

/-- An instruction is relocated under other names as it was. -/
theorem relocate_mapSlots {move : Nat → Nat} {old new : Nat → Option Nat} {block : Nat}
    {instruction : Instruction}
    (agree : ∀ target ∈ instruction.jumpSlots, new (move target) = old target) :
    relocate new block (instruction.mapSlots move) =
      (relocate old block instruction).mapError (·.aimed move) := by
  have strays : (instruction.mapSlots move).jumpSlots.find? (fun target => (new target).isNone) =
      (instruction.jumpSlots.find? fun target => (old target).isNone).map move := by
    rw [Instruction.jumpSlots_mapSlots, List.find?_map]
    congr 1
    refine List.find?_congr fun target slot => ?_
    rw [Function.comp_apply, agree target slot]
  unfold relocate
  rw [strays, Instruction.offset_mapSlots]
  cases found : instruction.jumpSlots.find? fun target => (old target).isNone with
  | some target => rfl
  | none =>
    have known (target : Nat) (slot : target ∈ instruction.jumpSlots) :
        ((fun target => (new target).getD target) ∘ move) target = (old target).getD target := by
      have moves := List.find?_eq_none.1 found target slot
      rw [Function.comp_apply, agree target slot]
      cases here : old target with
      | none => rw [here] at moves; exact absurd rfl moves
      | some start => rfl
    show Except.ok _ = Except.ok _
    rw [Instruction.mapSlots_mapSlots, mapSlots_congr known]

/-- A block plays the part of another under other names: up to where they stand, its instructions
are those of the other with their slots moved. -/
structure BasicBlock.Echoes (move : Nat → Nat) (copy block : BasicBlock) : Prop where
  /-- The copy has the same number. -/
  id : copy.id = block.id
  /-- The copy starts under the new name. -/
  offset : copy.offset = move block.offset
  /-- The copy has the same edges. -/
  successors : copy.successors = block.successors
  /-- The copy has the same instructions under new names, up to where they stand. -/
  instructions : copy.instructions.map (·.placedAt 0) = block.instructions.map (·.laid move 0)

section Joining

variable {move : Nat → Nat} {copies blocks : List BasicBlock}

/-- Settled, the copy of a block is the block with its slots moved. -/
theorem BasicBlock.Echoes.settle_eq {copy block : BasicBlock} (echoes : copy.Echoes move block)
    (start : Nat) :
    settle start copy.instructions = (settle start block.instructions).map (·.mapSlots move) := by
  have copies := settle_map_placedAt start copy.instructions fun _ => 0
  have moves := settle_map_placedAt start (block.instructions.map (·.mapSlots move)) fun _ => 0
  rw [List.map_map] at moves
  calc settle start copy.instructions
      = settle start (copy.instructions.map (·.placedAt 0)) := copies.symm
    _ = settle start (block.instructions.map (·.laid move 0)) := by rw [echoes.instructions]
    _ = settle start (block.instructions.map (·.mapSlots move)) := moves
    _ = (settle start block.instructions).map (·.mapSlots move) := settle_map_mapSlots ..

/-- The copy of a block is as long as the block. -/
theorem BasicBlock.Echoes.size_eq {copy block : BasicBlock} (echoes : copy.Echoes move block) :
    copy.size = block.size := by
  rw [size, size, ← codeSize_settle 0, echoes.settle_eq, codeSize_map_mapSlots, codeSize_settle]

/-- The block with its slots moved. -/
def BasicBlock.withSlots (move : Nat → Nat) (block : BasicBlock) : BasicBlock :=
  { block with instructions := block.instructions.map (·.mapSlots move) }

/-- Settled copies are the settled blocks with their slots moved. -/
theorem settleBlocks_eq_of_echoes (echo : List.Forall₂ (BasicBlock.Echoes move) copies blocks)
    (start : Nat) :
    settleBlocks start copies = (settleBlocks start blocks).map (·.withSlots move) := by
  induction echo generalizing start with
  | nil => rfl
  | cons head _ ih =>
    rw [settleBlocks, settleBlocks, List.map_cons, ← ih, head.size_eq, head.settle_eq, head.id,
      head.successors]
    rfl

/-- A slot moves under its new name as it did. -/
theorem newStart?_eq_of_echoes (echo : List.Forall₂ (BasicBlock.Echoes move) copies blocks)
    {target : Nat} (injective : ∀ block ∈ blocks, move block.offset = move target →
      block.offset = target) :
    newStart? copies (move target) = newStart? blocks target := by
  have starts : copies.map (·.offset) = (blocks.map (·.offset)).map move := by
    rw [List.map_map, ← List.forall₂_eq_eq_eq, List.forall₂_map_left_iff,
      List.forall₂_map_right_iff]
    exact echo.imp fun _ _ echoes => echoes.offset
  have found : lastPosition? (move target) ((blocks.map (·.offset)).map move) =
      lastPosition? target (blocks.map (·.offset)) :=
    lastPosition?_map (List.forall_mem_map.2 injective)
  rw [newStart?, newStart?, relocation?, relocation?, starts, found, settleBlocks_eq_of_echoes echo]
  congr 1
  funext position
  rw [List.getElem?_map, Option.map_map]
  rfl

/-- Copies join to the stream that the blocks join to. Where the blocks fail at a jump, the copies
fail at the same one. -/
theorem flattenBlocks_eq_of_echoes (echo : List.Forall₂ (BasicBlock.Echoes move) copies blocks)
    (injective : ∀ block ∈ blocks, ∀ instruction ∈ joined blocks,
      ∀ target ∈ instruction.jumpSlots, move block.offset = move target → block.offset = target) :
    flattenBlocks copies = (flattenBlocks blocks).mapError (·.aimed move) := by
  have slots : ∀ block ∈ settleBlocks 0 blocks, ∀ instruction ∈ block.instructions,
      ∀ target ∈ instruction.jumpSlots,
        newStart? copies (move target) = newStart? blocks target := by
    intro block inside instruction member
    have settled : instruction ∈ settle 0 (joined blocks) := by
      rw [← joined_settleBlocks]
      exact List.mem_flatMap.2 ⟨block, inside, member⟩
    refine (forall_mem_settle_iff 0 (joined blocks)).2 ?_ instruction settled
    intro original within target slot
    exact newStart?_eq_of_echoes echo fun block known => injective block known original within
      target slot
  let run (view : List BasicBlock) (block : BasicBlock) : Except Malformed (List Instruction) :=
    block.instructions.mapM (relocate (newStart? view) block.id)
  have runs : ∀ block ∈ settleBlocks 0 blocks,
      run copies (block.withSlots move) = (run blocks block).mapError (·.aimed move) :=
    fun block inside => mapM_mapError fun instruction member =>
      relocate_mapSlots (slots block inside instruction member)
  have whole : (settleBlocks 0 copies).mapM (run copies) =
      ((settleBlocks 0 blocks).mapM (run blocks)).mapError (·.aimed move) := by
    rw [settleBlocks_eq_of_echoes echo]
    exact mapM_mapError runs
  show ((settleBlocks 0 copies).mapM (run copies)).map List.flatten =
    (((settleBlocks 0 blocks).mapM (run blocks)).map List.flatten).mapError (·.aimed move)
  rw [whole]
  cases (settleBlocks 0 blocks).mapM (run blocks) <;> rfl

end Joining

end ConstantRecovery
