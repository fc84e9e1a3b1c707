import ConstantRecovery.Proofs.Flow.Passing
import ConstantRecovery.Proofs.Flow.Pruning
import ConstantRecovery.Proofs.Getter.Reduction
import Mathlib.Data.Set.Card

/-!
# Which getters have no skeleton

A getter is turned down for two reasons: the number of decode blocks among its live blocks is not
three, or a live block that is no decode block jumps to where no instruction stands. Nothing else
counts. Dead blocks are gone before anything is looked at; decode blocks become stubs, whatever they
jumped to; and what a live block jumps to is live, so its front is still there when blocks are
joined.
-/

namespace ConstantRecovery

/-- A path of edges leads from the first block to the one at this position. -/
def LiveAt (blocks : List BasicBlock) (position : Nat) (block : BasicBlock) : Prop :=
  blocks[position]? = some block ∧ Relation.ReflTransGen (Names blocks) 0 position

/-- Where the live decode blocks of a stream are in its view. -/
def decodePositions (resolver : Resolver) (code : List Instruction) : Set Nat :=
  { position | ∃ block, LiveAt (buildBlocks code) position block ∧
    (block.kind? resolver).isSome = true }

/-- A live block that is no decode block ends in a jump to where no instruction stands. -/
def Strays (resolver : Resolver) (code : List Instruction) (target : Nat) : Prop :=
  ∃ position block last, LiveAt (buildBlocks code) position block ∧ block.kind? resolver = none ∧
    block.last? = some last ∧ last.isBranch = true ∧ target ∈ last.targets ∧ target ∉ offsets code

section Live

variable {code : List Instruction} {kept : List BasicBlock}

/-- What pruning keeps is live. -/
theorem exists_liveAt_of_mem (pruned : prune? (buildBlocks code) = some kept) {block : BasicBlock}
    (member : block ∈ kept) :
    ∃ position original, LiveAt (buildBlocks code) position original ∧
      block.content = original.content := by
  obtain ⟨index, here⟩ := List.mem_iff_getElem?.1 member
  obtain ⟨position, original, survives, there, content, -⟩ := exists_survivor_of_prune? pruned here
  have path := mem_survivors_iff_named.1 (List.mem_of_getElem? survives)
  exact ⟨position, original, ⟨there, path.2⟩, content⟩

/-- What is live is kept. -/
theorem LiveAt.exists_mem (pruned : prune? (buildBlocks code) = some kept) {position : Nat}
    {original : BasicBlock} (live : LiveAt (buildBlocks code) position original) :
    ∃ block ∈ kept, block.content = original.content := by
  have bound := (List.getElem?_eq_some_iff.1 live.1).1
  have survives := mem_survivors_iff_named.2 ⟨bound, live.2⟩
  have there := getElem?_of_prune? pruned (getElem?_survivorIndex survives) live.1
  exact ⟨_, List.mem_of_getElem? there, rfl⟩

/-- The instructions of a live block are those of the stream. -/
theorem LiveAt.mem_code {position : Nat} {block : BasicBlock}
    (live : LiveAt (buildBlocks code) position block) {instruction : Instruction}
    (within : instruction ∈ block.instructions) : instruction ∈ code := by
  rw [← joined_buildBlocks code]
  exact List.mem_flatMap.2 ⟨block, List.mem_of_getElem? live.1, within⟩

/-- What pruning keeps has instructions of the stream. -/
theorem mem_code_of_prune? (pruned : prune? (buildBlocks code) = some kept) {block : BasicBlock}
    (member : block ∈ kept) {instruction : Instruction}
    (within : instruction ∈ block.instructions) : instruction ∈ code := by
  obtain ⟨position, original, live, content⟩ := exists_liveAt_of_mem pruned member
  have instructions : block.instructions = original.instructions := congrArg Prod.snd content
  rw [instructions] at within
  exact live.mem_code within

/-- What pruning keeps starts at offsets of the stream. -/
theorem starts_subset_of_prune? (pruned : prune? (buildBlocks code) = some kept) :
    kept.map (·.offset) ⊆ offsets code := by
  have front := (headed_buildBlocks code).offsets_sublist
  rw [joined_buildBlocks] at front
  exact fun _ start => front.subset ((starts_sublist_of_prune? pruned).subset start)

/-- What a live block ends with jumps to the fronts of live blocks, as far as it jumps to
instructions. -/
theorem LiveAt.mem_starts_iff (ascending : Ascending code)
    (pruned : prune? (buildBlocks code) = some kept) {position : Nat} {original : BasicBlock}
    (live : LiveAt (buildBlocks code) position original) {last : Instruction}
    (ends : original.last? = some last) {target : Nat} (aims : target ∈ last.targets) :
    target ∈ kept.map (·.offset) ↔ target ∈ offsets code := by
  refine ⟨fun start => starts_subset_of_prune? pruned start, fun named => ?_⟩
  obtain ⟨instruction, inside, rfl⟩ := List.mem_map.1 named
  obtain ⟨number, there⟩ := List.mem_iff_getElem?.1 inside
  have member := live.mem_code (List.mem_of_getLast? ends)
  -- The splitter starts a block there, and the edge to it makes that block live.
  obtain ⟨next, known, starts⟩ := exists_block_of_aimed ascending there ⟨last, member, aims⟩
  obtain ⟨landing, found⟩ := List.mem_iff_getElem?.1 known
  rw [← starts] at aims
  have edge := (mem_successors_iff ascending live.1 ends landing).2 (.inl ⟨next, found, aims⟩)
  have reached : LiveAt (buildBlocks code) landing next :=
    ⟨found, live.2.tail ⟨original, live.1, edge⟩⟩
  obtain ⟨block, stays, content⟩ := reached.exists_mem pruned
  exact List.mem_map.2 ⟨block, stays, (congrArg Prod.fst content).trans starts⟩

/-- As many blocks are kept that are decode blocks as there are live ones. -/
theorem length_decodeKinds (pruned : prune? (buildBlocks code) = some kept) (resolver : Resolver) :
    (decodeKinds resolver kept).length = (decodePositions resolver code).ncard := by
  let decodes (position : Nat) : Option ConstantKind :=
    (buildBlocks code)[position]?.bind (·.kind? resolver)
  let found := (survivors (buildBlocks code)).filter fun position => (decodes position).isSome
  have same : decodePositions resolver code = found.toFinset := by
    ext position
    rw [List.coe_toFinset, Set.mem_ofPred_eq, List.mem_filter, mem_survivors_iff_named]
    constructor
    · rintro ⟨block, live, path⟩
      have known : decodes position = block.kind? resolver := by
        simp only [decodes, live.1, Option.bind_some]
      exact ⟨⟨(List.getElem?_eq_some_iff.1 live.1).1, live.2⟩, by rw [known]; exact path⟩
    · rintro ⟨⟨bound, path⟩, known⟩
      have here := List.getElem?_eq_getElem bound
      refine ⟨_, ⟨here, path⟩, ?_⟩
      simpa only [decodes, here, Option.bind_some] using known
  have nodup := survivors_nodup (buildBlocks code)
  have kinds : decodeKinds resolver kept = (survivors (buildBlocks code)).filterMap decodes := by
    rw [eq_map_of_prune? pruned, decodeKinds, blocksAt, List.filterMap_map,
      List.filterMap_filterMap]
    rfl
  rw [same, Set.ncard_coe_finset, List.toFinset_card_of_nodup (nodup.filter _), kinds,
    List.length_filterMap_eq_countP, List.countP_eq_length_filter]

end Live

/-! ## Slots of canonical blocks -/

section Slots

variable {resolver : Resolver} {block : BasicBlock} {instruction : Instruction}

/-- Where a slot is left in a canonical block, the block is no decode block, and the slot is one of
a jump of it. -/
theorem BasicBlock.jump_of_mem_jumpSlots_canonical
    (built : ∀ instruction ∈ block.instructions, instruction.IsBuilt)
    (member : instruction ∈ (block.canonical resolver).instructions) {target : Nat}
    (slot : target ∈ instruction.jumpSlots) :
    block.kind? resolver = none ∧ instruction ∈ block.instructions ∧
      instruction.isBranch = true := by
  cases path : block.kind? resolver with
  | some kind =>
    rw [instructions_canonical_of_kind? path] at member
    rcases mem_stub_iff.1 member with rfl | rfl
    · cases kind <;> cases slot
    · cases slot
  | none =>
    rw [instructions_canonical_of_no_kind path] at member
    obtain ⟨original, inside, rfl⟩ := List.mem_map.1 member
    by_cases drives : original.drivesDispatch = true
    · rw [Instruction.neutralized_of_drivesDispatch drives] at slot ⊢
      refine ⟨rfl, inside, ?_⟩
      have stays := (built original inside).not_escapes drives
      unfold Instruction.jumpSlots at slot
      split at slot
      · rename_i jumps
        refine (Bool.or_eq_true_iff.1 jumps).resolve_right fun leaves => ?_
        rw [of_decide_eq_true leaves] at stays
        cases stays
      · cases slot
    · rw [Instruction.neutralized, if_neg drives] at slot
      cases slot

/-- A jump stays in a canonical block that is no decode block. -/
theorem BasicBlock.mem_canonical_of_isBranch (other : block.kind? resolver = none)
    (member : instruction ∈ block.instructions) (jumps : instruction.isBranch = true) :
    instruction ∈ (block.canonical resolver).instructions := by
  have drives : instruction.drivesDispatch = true := by
    rw [Instruction.drivesDispatch, jumps, Bool.or_true]
  rw [instructions_canonical_of_no_kind other,
    ← Instruction.neutralized_of_drivesDispatch drives]
  exact List.mem_map_of_mem member

end Slots

/-! ## Outcomes -/

section Outcomes

variable {body : List Instruction} {kept : List BasicBlock} {resolver : Resolver}

/-- Where canonical blocks cannot be joined, a jump of a live block that is no decode block has a
slot that names no start of a live block, and the complaint names the slot. -/
theorem exists_jump_of_eq_error (built : ∀ instruction ∈ body, instruction.IsBuilt)
    (pruned : prune? (buildBlocks body) = some kept) {fault : Malformed}
    (failed : flattenBlocks (canonicalize resolver kept) = .error fault) :
    ∃ offset block target, fault = .strayJump offset block target ∧
      ∃ position original jump, LiveAt (buildBlocks body) position original ∧
        original.kind? resolver = none ∧ jump ∈ original.instructions ∧ jump.isBranch = true ∧
        target ∈ jump.jumpSlots ∧ target ∉ kept.map (·.offset) := by
  obtain ⟨jump, inside, target, slot, unknown, offset, number, rfl⟩ :=
    exists_of_flattenBlocks_eq_error failed
  refine ⟨offset, number, target, rfl, ?_⟩
  obtain ⟨canonical, known, member⟩ := List.mem_flatMap.1 inside
  obtain ⟨block, stays, rfl⟩ := List.mem_map.1 known
  obtain ⟨position, original, live, content⟩ := exists_liveAt_of_mem pruned stays
  have code : block.instructions = original.instructions := congrArg Prod.snd content
  have made : ∀ instruction ∈ block.instructions, instruction.IsBuilt :=
    fun instruction within => built instruction (mem_code_of_prune? pruned stays within)
  obtain ⟨other, within, jumps⟩ :=
    BasicBlock.jump_of_mem_jumpSlots_canonical made member slot
  rw [code] at within
  rw [starts_canonicalize] at unknown
  rw [BasicBlock.kind?, code] at other
  exact ⟨position, original, jump, live, other, within, jumps, slot, unknown⟩

/-- Where a live block jumps to the start of no live block, it ends with that jump, and no
instruction stands there. -/
theorem LiveAt.not_mem_offsets (ascending : Ascending body)
    (pruned : prune? (buildBlocks body) = some kept) {position : Nat} {block : BasicBlock}
    (live : LiveAt (buildBlocks body) position block) {jump : Instruction}
    (within : jump ∈ block.instructions) {target : Nat} (aims : target ∈ jump.targets)
    (unknown : target ∉ kept.map (·.offset)) :
    block.last? = some jump ∧ target ∉ offsets body := by
  obtain ⟨inner, place⟩ := List.mem_iff_getElem?.1 within
  have ends := ((straight_buildBlocks body).last?_eq live.1 place
    (Instruction.isTerminal_of_mem_targets aims)).2
  rw [live.mem_starts_iff ascending pruned ends aims] at unknown
  exact ⟨ends, unknown⟩

/-- Where canonical blocks cannot be joined, a live block strays, and the complaint names where
to. -/
theorem exists_strays_of_eq_error (built : ∀ instruction ∈ body, instruction.IsBuilt)
    (ascending : Ascending body)
    (tables : ∀ instruction ∈ body, ∀ entries,
      instruction.operand = .table entries → instruction.flow = .switch)
    (pruned : prune? (buildBlocks body) = some kept) {fault : Malformed}
    (failed : flattenBlocks (canonicalize resolver kept) = .error fault) :
    ∃ offset block target, fault = .strayJump offset block target ∧
      Strays resolver body target := by
  obtain ⟨offset, number, target, rfl, position, original, jump, live, other, within, jumps, slot,
    unknown⟩ := exists_jump_of_eq_error built pruned failed
  have aims := (mem_jumpSlots_iff (tables jump (live.mem_code within)) target).1 slot
  obtain ⟨ends, astray⟩ := live.not_mem_offsets ascending pruned within aims unknown
  exact ⟨offset, number, target, rfl, position, original, jump, live, other, ends, jumps, aims,
    astray⟩

/-- Where a live block strays, canonical blocks cannot be joined. -/
theorem Strays.not_eq_ok (ascending : Ascending body)
    (tables : ∀ instruction ∈ body, ∀ entries,
      instruction.operand = .table entries → instruction.flow = .switch)
    (pruned : prune? (buildBlocks body) = some kept) {target : Nat}
    (strays : Strays resolver body target) {flat : List Instruction} :
    flattenBlocks (canonicalize resolver kept) ≠ .ok flat := by
  intro joins
  obtain ⟨position, original, last, live, other, ends, jumps, aims, unknown⟩ := strays
  obtain ⟨block, stays, content⟩ := live.exists_mem pruned
  have code : block.instructions = original.instructions := congrArg Prod.snd content
  have within := List.mem_of_getLast? ends
  have slot := (mem_jumpSlots_iff (tables last (live.mem_code within)) target).2 aims
  rw [BasicBlock.kind?, ← code] at other
  rw [← code] at within
  have member : last ∈ joined (canonicalize resolver kept) := List.mem_flatMap.2
    ⟨_, List.mem_map_of_mem stays, BasicBlock.mem_canonical_of_isBranch other within jumps⟩
  have named := (flattenBlocks_eq_ok_iff.1 joins).1 last member target slot
  rw [isSome_newStart?_iff, starts_canonicalize,
    live.mem_starts_iff ascending pruned ends aims] at named
  exact unknown named

/-- A getter is turned down for the number of its decode blocks, or for a target of another block,
or it has a skeleton. -/
theorem dispatchSkeleton_cases (built : ∀ instruction ∈ body, instruction.IsBuilt)
    (ascending : Ascending body)
    (tables : ∀ instruction ∈ body, ∀ entries,
      instruction.operand = .table entries → instruction.flow = .switch)
    (resolver : Resolver) :
    let count := (decodePositions resolver body).ncard
    (count ≠ 3 ∧ dispatchSkeleton resolver body = .error (.malformedGetter (.decodeBlocks count))) ∨
    (count = 3 ∧ ∃ offset block target, Strays resolver body target ∧
      dispatchSkeleton resolver body = .error (.malformed (.strayJump offset block target))) ∨
    (count = 3 ∧ (¬ ∃ target, Strays resolver body target) ∧ ∃ skeleton,
      dispatchSkeleton resolver body = .ok skeleton ∧
        ∀ first, skeleton.head? = some first → first.isLocalLoad = true) := by
  intro count
  obtain ⟨kept, pruned⟩ := exists_prune?_buildBlocks body
  rw [dispatchSkeleton_eq pruned, length_decodeKinds pruned resolver]
  change count ≠ 3 ∧ (if count = 3 then _ else _) = _ ∨ count = 3 ∧ _ ∨ count = 3 ∧ _
  by_cases three : count = 3
  · rw [if_pos three]
    right
    cases joins : flattenBlocks (canonicalize resolver kept) with
    | error fault =>
      obtain ⟨offset, block, target, rfl, strays⟩ :=
        exists_strays_of_eq_error built ascending tables pruned joins
      exact .inl ⟨three, offset, block, target, strays, rfl⟩
    | ok flat =>
      refine .inr ⟨three, ?_, trim flat, rfl, fun _ => isLocalLoad_of_head?_trim⟩
      rintro ⟨target, strays⟩
      exact strays.not_eq_ok ascending tables pruned joins
  · rw [if_neg three]
    exact .inl ⟨three, rfl⟩

/-- A getter is turned down exactly when it should be. As malformed getter, if its live blocks are
not three decode blocks and others; the complaint counts them. As malformed code, if there are three
but another live block jumps to where no instruction stands; the complaint names such a target.
Every other getter has a skeleton, which is empty or starts with the load of a local variable. -/
theorem dispatchSkeleton_outcome (built : ∀ instruction ∈ body, instruction.IsBuilt)
    (ascending : Ascending body)
    (tables : ∀ instruction ∈ body, ∀ entries,
      instruction.operand = .table entries → instruction.flow = .switch)
    (resolver : Resolver) :
    let outcome := dispatchSkeleton resolver body
    let count := (decodePositions resolver body).ncard
    ((∃ defect, outcome = .error (.malformedGetter defect)) ↔ count ≠ 3) ∧
    (∀ defect, outcome = .error (.malformedGetter defect) → defect = .decodeBlocks count) ∧
    (count = 3 →
      ((∃ cause, outcome = .error (.malformed cause)) ↔ ∃ target, Strays resolver body target) ∧
      (∀ cause, outcome = .error (.malformed cause) → ∃ offset block target,
        cause = .strayJump offset block target ∧ Strays resolver body target) ∧
      ((¬ ∃ target, Strays resolver body target) → ∃ skeleton, outcome = .ok skeleton ∧
        ∀ first, skeleton.head? = some first → first.isLocalLoad = true)) := by
  intro outcome count
  rcases dispatchSkeleton_cases built ascending tables resolver with
    ⟨other, shape⟩ | ⟨three, offset, block, target, strays, shape⟩ |
    ⟨three, clean, skeleton, shape, head⟩
  · change outcome = _ at shape
    rw [shape]
    refine ⟨⟨fun _ => other, fun _ => ⟨_, rfl⟩⟩, ?_, fun three => absurd three other⟩
    rintro defect ⟨⟩
    rfl
  · change outcome = _ at shape
    rw [shape]
    refine ⟨⟨nofun, absurd three⟩, nofun, fun _ => ⟨⟨fun _ => ⟨target, strays⟩,
      fun _ => ⟨_, rfl⟩⟩, ?_, fun clean => absurd ⟨target, strays⟩ clean⟩⟩
    rintro cause ⟨⟩
    exact ⟨offset, block, target, rfl, strays⟩
  · change outcome = _ at shape
    rw [shape]
    exact ⟨⟨nofun, absurd three⟩, nofun, fun _ => ⟨⟨nofun, fun strays => absurd strays clean⟩,
      nofun, fun _ => ⟨skeleton, rfl, head⟩⟩⟩

/-- A dispatch over three paths and one more target. The last path ends in a jump to nowhere, and
a dead one follows. -/
def danglingGetter (target : Nat) : List Instruction :=
  settle 0 [.ldloc 0, .switch [22, 28, 34, target],
    .plain Opcode.Code.newarr (.token ⟨0x01000001⟩), .ret,
    .plain Opcode.Code.ldtoken (.token ⟨0x01000002⟩), .ret,
    .call ⟨0x0A000011⟩, .branch 0x2B 1000, .branch 0x2B 2000]

/-- Of the three jumps to nowhere only that of the dispatch counts. -/
theorem dispatchSkeleton_outcome_of_dangling :
    let body := danglingGetter 3000
    (∀ instruction ∈ body, instruction.IsBuilt) ∧ Ascending body ∧
      (∀ instruction ∈ body, ∀ entries,
        instruction.operand = .table entries → instruction.flow = .switch) ∧
      dispatchSkeleton escapingResolver body = .error (.malformed (.strayJump 1 0 3000)) ∧
      (decodePositions escapingResolver body).ncard = 3 ∧ Strays escapingResolver body 3000 ∧
      (dispatchSkeleton escapingResolver (danglingGetter 0)).isOk = true := by
  intro body
  have built : ∀ instruction ∈ body, instruction.IsBuilt := by decide +kernel
  have ascending : Ascending body := ascending_settle 0 _ (by decide +kernel)
  have tables : ∀ instruction ∈ body, ∀ entries,
      instruction.operand = .table entries → instruction.flow = .switch := by
    intro instruction member entries table
    simp only [body, danglingGetter, settle, List.mem_cons, List.not_mem_nil, or_false] at member
    rcases member with rfl | rfl | rfl | rfl | rfl | rfl | rfl | rfl | rfl <;>
      first | rfl | cases table
  have failed : dispatchSkeleton escapingResolver body =
      .error (.malformed (.strayJump 1 0 3000)) := by decide +kernel
  obtain ⟨counted, -, outcome⟩ :=
    dispatchSkeleton_outcome built ascending tables escapingResolver
  have three : (decodePositions escapingResolver body).ncard = 3 := by
    by_contra other
    obtain ⟨defect, same⟩ := counted.2 other
    rw [failed] at same
    cases same
  obtain ⟨offset, block, target, named, strays⟩ := (outcome three).2.1 _ failed
  cases named
  exact ⟨built, ascending, tables, failed, three, strays, by decide +kernel⟩

end Outcomes

end ConstantRecovery
