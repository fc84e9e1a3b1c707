import ConstantRecovery.Proofs.Flow.Renaming
import ConstantRecovery.Proofs.Getter.Rearrangement
import ConstantRecovery.Proofs.Getter.Rejection

/-!
# What a skeleton leaves out

An instruction that control passes, that does not drive the dispatch and that marks no path is
gone from the skeleton, and so is the room it took. The outline of a body is what is left when
such instructions become nops and offsets become positions. A body and its outline have the same
skeleton, so two bodies with one outline have one.
-/

namespace ConstantRecovery

/-! ## Outlines -/

namespace Instruction

/-- Control passes the instruction, it does not drive the dispatch, and it marks no path. -/
def isInert (resolver : Resolver) (instruction : Instruction) : Bool :=
  (instruction.flow = .sequential || instruction.flow = .call) && !instruction.drivesDispatch &&
    !instruction.isArrayAllocation && !instruction.isTokenLoad && !instruction.isUtf8Access resolver

/-- The instruction where a renaming puts it: as a `nop` if it is inert, else with its slots
moved. -/
def outlined (resolver : Resolver) (move : Nat → Nat) (instruction : Instruction) : Instruction :=
  if instruction.isInert resolver then nop.placedAt (move instruction.offset)
  else instruction.moved move

section Inert

variable {resolver : Resolver} {move : Nat → Nat} {instruction : Instruction}

/-- What it takes to be inert, one condition after the other. -/
theorem isInert_iff : instruction.isInert resolver = true ↔
    (instruction.flow = .sequential ∨ instruction.flow = .call) ∧
      instruction.drivesDispatch = false ∧ instruction.isArrayAllocation = false ∧
        instruction.isTokenLoad = false ∧ instruction.isUtf8Access resolver = false := by
  simp only [isInert, Bool.and_eq_true, Bool.or_eq_true, decide_eq_true_iff, Bool.not_eq_true',
    and_assoc]

/-- An inert instruction does not jump. -/
theorem not_jumping_of_isInert (inert : instruction.isInert resolver = true) :
    (instruction.isBranch || instruction.isLeave) = false := by
  rcases (isInert_iff.1 inert).1 with flow | flow <;> simp only [isBranch, isLeave, flow] <;> rfl

/-- An inert instruction marks no path. -/
theorem marks?_of_isInert (inert : instruction.isInert resolver = true) :
    instruction.marks? resolver = none := by
  obtain ⟨-, -, allocates, loads, asks⟩ := isInert_iff.1 inert
  simp only [marks?, allocates, loads, asks, Bool.false_eq_true, if_false]

variable (instruction)

/-- In an outline an instruction stands where the renaming puts it. -/
@[simp] theorem offset_outlined :
    (instruction.outlined resolver move).offset = move instruction.offset := by
  unfold outlined
  split <;> rfl

/-- In an outline an instruction goes where it went, under the new names. -/
theorem targets_outlined :
    (instruction.outlined resolver move).targets = instruction.targets.map move := by
  unfold outlined
  split
  · rename_i inert
    rw [targets_eq_nil (not_jumping_of_isInert inert)]
    rfl
  · exact instruction.targets_mapSlots move

/-- In an outline an instruction ends a block if it did. -/
theorem isTerminal_outlined :
    (instruction.outlined resolver move).isTerminal = instruction.isTerminal := by
  unfold outlined
  split
  · rename_i inert
    rcases (isInert_iff.1 inert).1 with flow | flow <;> simp only [isTerminal, flow] <;> rfl
  · show (instruction.mapSlots move).isTerminal = _
    rw [isTerminal, flow_mapSlots, isTerminal]

/-- In an outline control goes on behind an instruction if it did. -/
theorem continues_outlined :
    (instruction.outlined resolver move).flow.continues = instruction.flow.continues := by
  unfold outlined
  split
  · rename_i inert
    rcases (isInert_iff.1 inert).1 with flow | flow <;> rw [flow] <;> rfl
  · exact congrArg Flow.continues (instruction.flow_mapSlots move)

/-- What an instruction becomes in an outline marks what it marks. -/
theorem marks?_outlined :
    (instruction.outlined resolver move).marks? resolver = instruction.marks? resolver := by
  unfold outlined
  split
  · rename_i inert
    rw [marks?_of_isInert inert]
    rfl
  · exact instruction.marks?_moved move resolver

/-- Neutralized, what an instruction becomes in an outline is the instruction neutralized, up to
where it stands and jumps. -/
theorem neutralized_outlined :
    (instruction.outlined resolver move).neutralized.placedAt 0 =
      instruction.neutralized.laid move 0 := by
  unfold outlined
  split
  · rename_i inert
    have idle := (isInert_iff.1 inert).2.1
    rw [neutralized, neutralized, if_neg (Bool.eq_false_iff.1 idle)]
    rfl
  · obtain ⟨offset, same⟩ := instruction.exists_neutralized_moved move
    rw [same]
    rfl

end Inert

end Instruction

/-- The position of the instruction at an offset. -/
def positionOf (code : List Instruction) (offset : Nat) : Nat :=
  (lastPosition? offset (offsets code)).getD 0

/-- The stream without inert instructions, told in positions. -/
def outline (resolver : Resolver) (code : List Instruction) : List Instruction :=
  code.map (·.outlined resolver (positionOf code))

section Outlines

variable {resolver : Resolver} {code : List Instruction}

/-- An offset stands at its position. -/
theorem getElem?_positionOf {offset : Nat} (member : offset ∈ offsets code) :
    (offsets code)[positionOf code offset]? = some offset := by
  obtain ⟨position, found⟩ := Option.isSome_iff_exists.1 ((lastPosition?_isSome _ _).2 member)
  rw [positionOf, found]
  exact getElem?_of_lastPosition? found

/-- Positions tell offsets apart. -/
theorem positionOf_inj {first second : Nat} (one : first ∈ offsets code)
    (two : second ∈ offsets code) (same : positionOf code first = positionOf code second) :
    first = second := by
  have here := getElem?_positionOf one
  rw [same, getElem?_positionOf two] at here
  exact (Option.some.inj here).symm

/-- In an ascending stream an instruction has the position where it stands. -/
theorem Ascending.positionOf_eq (ascending : Ascending code) {position offset : Nat}
    (here : (offsets code)[position]? = some offset) : positionOf code offset = position := by
  rw [positionOf, lastPosition?_of_ascending ascending here, Option.getD_some]

/-- An outline is the stream in other words, if jumps go to instructions. -/
theorem renames_outlined
    (aims : ∀ instruction ∈ code, ∀ target ∈ instruction.jumpSlots, target ∈ offsets code) :
    Renames code (·.outlined resolver (positionOf code)) (positionOf code) where
  injective _ one _ two := positionOf_inj one two
  aims instruction member target aimed :=
    aims instruction member target (mem_jumpSlots_of_mem_targets aimed)
  offset instruction _ := instruction.offset_outlined
  targets instruction _ := instruction.targets_outlined
  terminal instruction _ := instruction.isTerminal_outlined
  continues instruction _ := instruction.continues_outlined

end Outlines

/-! ## Skeletons of outlines -/

section Canonical

variable {resolver : Resolver} {move : Nat → Nat}

/-- Outlined, a block is on the path it is on. -/
theorem kind?_retold (block : BasicBlock) :
    (block.retold (·.outlined resolver move) move).kind? resolver = block.kind? resolver := by
  rw [BasicBlock.kind?, BasicBlock.kind?, classify?, classify?, BasicBlock.retold,
    List.findSome?_map]
  congr 1
  funext instruction
  exact instruction.marks?_outlined

/-- Canonical, an outlined block is the canonical block under other names. -/
theorem echoes_canonical (block : BasicBlock) :
    ((block.retold (·.outlined resolver move) move).canonical resolver).Echoes move
      (block.canonical resolver) := by
  have path := @kind?_retold resolver move block
  rw [BasicBlock.canonical, BasicBlock.canonical, path]
  cases block.kind? resolver with
  | some kind =>
    refine ⟨rfl, rfl, rfl, ?_⟩
    cases kind <;> rfl
  | none =>
    refine ⟨rfl, rfl, rfl, ?_⟩
    show ((block.instructions.map (·.outlined resolver move)).map (·.neutralized)).map _ =
      (block.instructions.map (·.neutralized)).map _
    rw [List.map_map, List.map_map, List.map_map]
    exact List.map_congr_left fun instruction _ => instruction.neutralized_outlined

/-- Outlined, a view has the decode paths it has. -/
theorem decodeKinds_retold (blocks : List BasicBlock) :
    decodeKinds resolver (blocks.map (·.retold (·.outlined resolver move) move)) =
      decodeKinds resolver blocks := by
  rw [decodeKinds, List.filterMap_map]
  exact List.filterMap_congr fun block _ => kind?_retold block

end Canonical

/-- The error under another name of the target of a jump. -/
def Error.aimed (move : Nat → Nat) : Error → Error
  | malformed cause => malformed (cause.aimed move)
  | other => other

section Skeletons

variable {resolver : Resolver} {body : List Instruction}

/-- A body and its outline have the same skeleton, or are turned down alike. -/
theorem dispatchSkeleton_outline (built : ∀ instruction ∈ body, instruction.IsBuilt)
    (aims : ∀ instruction ∈ body, ∀ target ∈ instruction.jumpSlots, target ∈ offsets body) :
    dispatchSkeleton resolver (outline resolver body) =
      (dispatchSkeleton resolver body).mapError (·.aimed (positionOf body)) := by
  obtain ⟨kept, pruned⟩ := exists_prune?_buildBlocks body
  obtain ⟨others, again⟩ := exists_prune?_buildBlocks (outline resolver body)
  have view := again
  rw [outline, (renames_outlined aims).buildBlocks_eq] at view
  have shape := eq_retold_of_prune? pruned view
  have echo : List.Forall₂ (BasicBlock.Echoes (positionOf body)) (canonicalize resolver others)
      (canonicalize resolver kept) := by
    rw [shape, canonicalize, canonicalize, List.map_map, List.forall₂_map_left_iff,
      List.forall₂_map_right_iff]
    exact List.forall₂_same.2 fun block _ => echoes_canonical block
  have joins := flattenBlocks_eq_of_echoes echo ?_
  · rw [dispatchSkeleton_eq pruned, dispatchSkeleton_eq again, joins, shape, decodeKinds_retold]
    split
    · cases flattenBlocks (canonicalize resolver kept) <;> rfl
    · rfl
  -- starts and slots of canonical blocks are offsets of the body, which positions tell apart
  intro canonical known instruction member target slot
  obtain ⟨block, stays, rfl⟩ := List.mem_map.1 known
  obtain ⟨other, among, member⟩ := List.mem_flatMap.1 member
  obtain ⟨origin, keeps, rfl⟩ := List.mem_map.1 among
  have made : ∀ instruction ∈ origin.instructions, instruction.IsBuilt :=
    fun instruction within => built instruction (mem_code_of_prune? pruned keeps within)
  obtain ⟨-, inside, -⟩ := BasicBlock.jump_of_mem_jumpSlots_canonical made member slot
  rw [BasicBlock.offset_canonical]
  exact positionOf_inj (starts_subset_of_prune? pruned (List.mem_map_of_mem stays))
    (aims instruction (mem_code_of_prune? pruned keeps inside) target slot)

/-- Where jumps go to instructions, a body has a skeleton, or the number of its decode blocks is not
three, or a branch other than a `switch` carries a table, and one of its entries starts no block. -/
theorem dispatchSkeleton_cases_of_aims (resolver : Resolver)
    (built : ∀ instruction ∈ body, instruction.IsBuilt) (ascending : Ascending body)
    (aims : ∀ instruction ∈ body, ∀ target ∈ instruction.jumpSlots, target ∈ offsets body) :
    (∃ skeleton, dispatchSkeleton resolver body = .ok skeleton) ∨
    (∃ count, dispatchSkeleton resolver body = .error (.malformedGetter (.decodeBlocks count))) ∨
    ∃ offset block, ∃ target ∈ offsets body,
      dispatchSkeleton resolver body = .error (.malformed (.strayJump offset block target)) ∧
      ∃ jump ∈ body, jump.isBranch = true ∧ jump.flow ≠ .switch ∧
        ∃ entries, jump.operand = .table entries ∧ target ∈ entries := by
  obtain ⟨kept, pruned⟩ := exists_prune?_buildBlocks body
  rw [dispatchSkeleton_eq pruned]
  split
  · cases joins : flattenBlocks (canonicalize resolver kept) with
    | ok flat => exact .inl ⟨_, rfl⟩
    | error fault =>
      obtain ⟨offset, block, target, rfl, position, original, jump, live, -, within, jumps, slot,
        unknown⟩ := exists_jump_of_eq_error built pruned joins
      have member := live.mem_code within
      have known := aims jump member target slot
      refine .inr (.inr ⟨offset, block, target, known, rfl, jump, member, jumps, ?_⟩)
      by_contra none
      -- else the slot is a target, so a live block starts there
      have aimed : target ∈ jump.targets := by
        refine mem_targets_of_mem_jumpSlots (fun entries table => ?_) slot
        by_contra other
        rw [Instruction.jumpSlots, jumps, Bool.true_or, if_pos rfl, table] at slot
        exact none ⟨other, entries, table, slot⟩
      exact (live.not_mem_offsets ascending pruned within aimed unknown).2 known
  · exact .inr (.inl ⟨_, rfl⟩)

end Skeletons

/-! ## Two bodies -/

/-- Two bodies are as long, and at each position both have an inert instruction, or both have the
same one up to where it stands and where it jumps; and what jumps in both goes to the same
positions. -/
structure SameDispatch (resolver : Resolver) (first second : List Instruction) : Prop where
  length_eq : first.length = second.length
  /-- The instructions at one position are inert, or equal where no offset counts. -/
  agree : ∀ pair ∈ first.zip second,
    pair.1.isInert resolver = true ∧ pair.2.isInert resolver = true ∨
      pair.1.moved (fun _ => 0) = pair.2.moved (fun _ => 0)
  /-- The slots of both hold the offsets of instructions at one position. -/
  aims : ∀ pair ∈ first.zip second,
    pair.1.jumpSlots.zip pair.2.jumpSlots ⊆ (offsets first).zip (offsets second)

namespace Instruction

variable {one two : Instruction} {move again : Nat → Nat} {resolver : Resolver}

/-- Instructions that are equal where no offset counts have as many slots. -/
theorem length_jumpSlots_of_moved_eq (same : one.moved (fun _ => 0) = two.moved (fun _ => 0)) :
    one.jumpSlots.length = two.jumpSlots.length := by
  have slots := congrArg jumpSlots same
  change (one.mapSlots fun _ => 0).jumpSlots = (two.mapSlots fun _ => 0).jumpSlots at slots
  rw [jumpSlots_mapSlots, jumpSlots_mapSlots] at slots
  simpa using congrArg List.length slots

/-- Instructions that are equal where no offset counts are equal when they stand at one place and
their slots hold the same. -/
theorem moved_eq_moved (same : one.moved (fun _ => 0) = two.moved (fun _ => 0))
    (place : move one.offset = again two.offset)
    (slots : one.jumpSlots.map move = two.jumpSlots.map again) :
    one.moved move = two.moved again := by
  obtain ⟨offset, size, opcode, lead, mnemonic, flow, operand⟩ := one
  obtain ⟨offset', size', opcode', lead', mnemonic', flow', operand'⟩ := two
  simp only [moved, mapSlots_eq, placedAt, mk.injEq, true_and] at same ⊢
  obtain ⟨rfl, rfl, rfl, rfl, rfl, works⟩ := same
  refine ⟨place, rfl, rfl, rfl, rfl, rfl, ?_⟩
  -- whether they jump is a matter of their common flow
  have alike : (isBranch ⟨offset', size, opcode, lead, mnemonic, flow, operand'⟩ ||
      isLeave ⟨offset', size, opcode, lead, mnemonic, flow, operand'⟩) =
        (isBranch ⟨offset, size, opcode, lead, mnemonic, flow, operand⟩ ||
          isLeave ⟨offset, size, opcode, lead, mnemonic, flow, operand⟩) := rfl
  rw [alike] at works ⊢
  rw [jumpSlots, jumpSlots, alike] at slots
  split at works
  · rename_i jumps
    rw [if_pos jumps, if_pos jumps] at slots
    rw [if_pos jumps, if_pos jumps]
    cases operand <;> cases operand' <;> simp_all [Operand.retargeted]
  · rename_i still
    rw [if_neg still, if_neg still, works]

/-- Whether an instruction is inert does not depend on offsets. -/
theorem isInert_moved (resolver : Resolver) (move : Nat → Nat) (instruction : Instruction) :
    (instruction.moved move).isInert resolver = instruction.isInert resolver := by
  have drives : (instruction.moved move).drivesDispatch = instruction.drivesDispatch :=
    drivesDispatch_mapSlots move instruction
  have flow : (instruction.moved move).flow = instruction.flow := instruction.flow_mapSlots move
  simp only [isInert, isArrayAllocation, isTokenLoad, isUtf8Access, isPlain_moved, calls_moved,
    drives, flow]

end Instruction

section TwoBodies

variable {resolver : Resolver} {first second : List Instruction}

/-- What faces an entry of one list is faced by it. -/
theorem mem_zip_comm {α β : Type} {left : List α} {right : List β} {one : α} {two : β} :
    (one, two) ∈ left.zip right ↔ (two, one) ∈ right.zip left := by
  rw [← List.zip_swap right left, List.mem_map]
  constructor
  · rintro ⟨⟨two, one⟩, member, ⟨⟩⟩
    exact member
  · exact fun member => ⟨_, member, rfl⟩

/-- In lists of one length each entry of one faces an entry of the other. -/
theorem exists_mem_zip {α β : Type} {left : List α} {right : List β}
    (same : left.length = right.length) {one : α} (member : one ∈ left) :
    ∃ two, (one, two) ∈ left.zip right := by
  rw [← List.map_fst_zip (Nat.le_of_eq same)] at member
  obtain ⟨⟨one, two⟩, pair, rfl⟩ := List.mem_map.1 member
  exact ⟨two, pair⟩

/-- Maps that agree on what faces each other give the same from lists of one length. -/
theorem map_eq_map_of_zip {α β γ : Type} {left : List α} {right : List β} {first : α → γ}
    {second : β → γ} (same : left.length = right.length)
    (agree : ∀ one two, (one, two) ∈ left.zip right → first one = second two) :
    left.map first = right.map second := by
  rw [← List.forall₂_eq_eq_eq, List.forall₂_map_left_iff, List.forall₂_map_right_iff]
  exact List.forall₂_iff_zip.2 ⟨same, agree _ _⟩

/-- Offsets at one position have that position in both bodies. -/
theorem positionOf_eq_of_mem_zip (ascending : Ascending first) (ascends : Ascending second)
    {here there : Nat} (pair : (here, there) ∈ (offsets first).zip (offsets second)) :
    positionOf first here = positionOf second there := by
  obtain ⟨position, both⟩ := List.mem_iff_getElem?.1 pair
  obtain ⟨one, two⟩ := List.getElem?_zip_eq_some.1 both
  rw [ascending.positionOf_eq one, ascends.positionOf_eq two]

namespace SameDispatch

/-- Bodies dispatch alike in either order. -/
theorem symm (same : SameDispatch resolver first second) :
    SameDispatch resolver second first where
  length_eq := same.length_eq.symm
  agree := fun _ pair => (same.agree _ (mem_zip_comm.1 pair)).imp And.symm Eq.symm
  aims := fun _ pair _ slots =>
    mem_zip_comm.1 (same.aims _ (mem_zip_comm.1 pair) (mem_zip_comm.1 slots))

variable (same : SameDispatch resolver first second)
include same

/-- Instructions at one position have as many slots. -/
theorem length_jumpSlots {one two : Instruction} (pair : (one, two) ∈ first.zip second) :
    one.jumpSlots.length = two.jumpSlots.length := by
  rcases same.agree _ pair with ⟨inert, inert'⟩ | equal
  · rw [Instruction.jumpSlots, Instruction.jumpSlots, Instruction.not_jumping_of_isInert inert,
      Instruction.not_jumping_of_isInert inert']
    rfl
  · exact Instruction.length_jumpSlots_of_moved_eq equal

/-- Jumps go to instructions. -/
theorem mem_offsets : ∀ instruction ∈ first, ∀ target ∈ instruction.jumpSlots,
    target ∈ offsets first := by
  intro one member target slot
  obtain ⟨two, pair⟩ := exists_mem_zip same.length_eq member
  obtain ⟨other, slots⟩ := exists_mem_zip (same.length_jumpSlots pair) slot
  exact (List.of_mem_zip (same.aims _ pair slots)).1

/-- Instructions at one position become the same in the outlines. -/
theorem outlined_eq (ascending : Ascending first) (ascends : Ascending second)
    {one two : Instruction} (pair : (one, two) ∈ first.zip second) :
    one.outlined resolver (positionOf first) = two.outlined resolver (positionOf second) := by
  have place : positionOf first one.offset = positionOf second two.offset := by
    apply positionOf_eq_of_mem_zip ascending ascends
    rw [offsets, offsets, List.zip_map]
    exact List.mem_map_of_mem pair
  unfold Instruction.outlined
  rcases same.agree _ pair with ⟨inert, inert'⟩ | equal
  · rw [if_pos inert, if_pos inert', place]
  · have inert := congrArg (·.isInert resolver) equal
    simp only [Instruction.isInert_moved] at inert
    have slots : one.jumpSlots.map (positionOf first) = two.jumpSlots.map (positionOf second) :=
      map_eq_map_of_zip (same.length_jumpSlots pair) fun _ _ slots =>
        positionOf_eq_of_mem_zip ascending ascends (same.aims _ pair slots)
    rw [inert, place, Instruction.moved_eq_moved equal place slots]

/-- Bodies that dispatch alike have one outline. -/
theorem outline_eq (ascending : Ascending first) (ascends : Ascending second) :
    outline resolver first = outline resolver second :=
  map_eq_map_of_zip same.length_eq fun _ _ => same.outlined_eq ascending ascends

/-- Skeletons are the same up to the name of a target in a complaint. -/
theorem mapError_dispatchSkeleton_eq (built : ∀ instruction ∈ first, instruction.IsBuilt)
    (makes : ∀ instruction ∈ second, instruction.IsBuilt) (ascending : Ascending first)
    (ascends : Ascending second) :
    (dispatchSkeleton resolver first).mapError (·.aimed (positionOf first)) =
      (dispatchSkeleton resolver second).mapError (·.aimed (positionOf second)) := by
  rw [← dispatchSkeleton_outline built same.mem_offsets, same.outline_eq ascending ascends,
    dispatchSkeleton_outline makes same.symm.mem_offsets]

end SameDispatch

/-- Offsets of one position face each other. -/
theorem mem_zip_of_positionOf_eq {here there : Nat} (one : here ∈ offsets first)
    (two : there ∈ offsets second) (same : positionOf first here = positionOf second there) :
    (here, there) ∈ (offsets first).zip (offsets second) := by
  have place := getElem?_positionOf one
  rw [same] at place
  exact List.mem_of_getElem? (List.getElem?_zip_eq_some.2 ⟨place, getElem?_positionOf two⟩)

/-- A skeleton does not depend on inert code. Two bodies that dispatch alike have the same skeleton,
or the same wrong number of decode blocks, or a branch other than a `switch` carries a table with
an entry that starts no block, and the complaints differ in the name of the entry only. So probing
finds the same mapping. -/
theorem dispatchSkeleton_ignores_inert_code (built : ∀ instruction ∈ first, instruction.IsBuilt)
    (makes : ∀ instruction ∈ second, instruction.IsBuilt) (ascending : Ascending first)
    (ascends : Ascending second) (same : SameDispatch resolver first second) :
    ((∃ skeleton, dispatchSkeleton resolver first = .ok skeleton ∧
        dispatchSkeleton resolver second = .ok skeleton) ∨
      (∃ count, dispatchSkeleton resolver first = .error (.malformedGetter (.decodeBlocks count)) ∧
        dispatchSkeleton resolver second = .error (.malformedGetter (.decodeBlocks count))) ∨
      ∃ offset block here there, (here, there) ∈ (offsets first).zip (offsets second) ∧
        dispatchSkeleton resolver first = .error (.malformed (.strayJump offset block here)) ∧
        dispatchSkeleton resolver second = .error (.malformed (.strayJump offset block there)) ∧
        ∃ jump ∈ first, jump.isBranch = true ∧ jump.flow ≠ .switch ∧
          ∃ entries, jump.operand = .table entries ∧ here ∈ entries) ∧
    ∀ limits mapping,
      (dispatchSkeleton resolver first >>= GetterReader.probe ⟨resolver, limits⟩) = .ok mapping ↔
        (dispatchSkeleton resolver second >>= GetterReader.probe ⟨resolver, limits⟩) =
          .ok mapping := by
  have equal := same.mapError_dispatchSkeleton_eq built makes ascending ascends
  have others := dispatchSkeleton_cases_of_aims resolver makes ascends same.symm.mem_offsets
  rcases dispatchSkeleton_cases_of_aims resolver built ascending same.mem_offsets with
    ⟨skeleton, shape⟩ | ⟨count, shape⟩ | ⟨offset, block, here, known, shape, table⟩
  · rw [shape] at equal
    have other := of_mapError_eq_ok equal.symm
    exact ⟨.inl ⟨skeleton, shape, other⟩, fun _ _ => by rw [shape, other]⟩
  · rcases others with ⟨_, other⟩ | ⟨_, other⟩ | ⟨_, _, _, -, other, -⟩ <;>
      rw [shape, other] at equal <;> cases equal
    exact ⟨.inr (.inl ⟨count, shape, other⟩), fun _ _ => by rw [shape, other]⟩
  · rcases others with ⟨_, other⟩ | ⟨_, other⟩ | ⟨_, _, there, facing, other, -⟩ <;>
      rw [shape, other] at equal
    · cases equal
    · cases equal
    · obtain ⟨rfl, rfl, position⟩ := Malformed.strayJump.inj (Error.malformed.inj
        (Except.error.inj equal))
      have pair := mem_zip_of_positionOf_eq known facing position
      refine ⟨.inr (.inr ⟨offset, block, here, there, pair, shape, other, table⟩), fun _ _ => ?_⟩
      rw [shape, other]
      exact ⟨nofun, nofun⟩

end TwoBodies

/-- A getter that looks up three tags, with a fourth arm that no tag of a getter takes. It has an
inert instruction in front and one on the default path. -/
def lookupGetter (lead spacer last : Instruction) (number object string other : Nat) :
    List Instruction :=
  settle 0 [lead, .ldcI4 7, .nop, .ldcI4 9, .ldloc 0, .ldcI4 0, .branch 0x3B number, .ldloc 0,
    .ldcI4 1, .branch 0x3B object, .ldloc 0, .ldcI4 2, .branch 0x3B string, .ldloc 0, .ldcI4 7,
    .branch 0x3B other, spacer, .ldloc 1, .ret, .plain Opcode.Code.newarr (.token ⟨0x01000001⟩),
    .ret, .plain Opcode.Code.ldtoken (.token ⟨0x01000002⟩), .ret, .call ⟨0x0A000011⟩, .ret, last]

/-- A text and a call where another body has nops move everything behind them, and are gone from
the skeleton. -/
theorem dispatchSkeleton_ignores_inert_code_of_lookup :
    let first := lookupGetter .nop .nop (.branch 0x38 33) 36 42 48 54
    let second := lookupGetter (.ldstr "?") (.call ⟨0x0A000022⟩) (.branch 0x38 37) 44 50 56 62
    (∀ instruction ∈ first, instruction.IsBuilt) ∧ (∀ instruction ∈ second, instruction.IsBuilt) ∧
      Ascending first ∧ Ascending second ∧ SameDispatch escapingResolver first second ∧
      (∃ skeleton, dispatchSkeleton escapingResolver first = .ok skeleton ∧
        dispatchSkeleton escapingResolver second = .ok skeleton) ∧
      (dispatchSkeleton escapingResolver second >>=
          GetterReader.probe ⟨escapingResolver, .standard⟩) =
        .ok ⟨#v[.number, .object, .string, .default], by decide⟩ := by
  intro first second
  have built : ∀ instruction ∈ first, instruction.IsBuilt := by decide +kernel
  have makes : ∀ instruction ∈ second, instruction.IsBuilt := by decide +kernel
  have ascending : Ascending first := ascending_settle 0 _ (by decide +kernel)
  have ascends : Ascending second := ascending_settle 0 _ (by decide +kernel)
  have same : SameDispatch escapingResolver first second :=
    ⟨rfl, by decide +kernel, by decide +kernel⟩
  obtain ⟨outcome, probes⟩ :=
    dispatchSkeleton_ignores_inert_code built makes ascending ascends same
  have succeeds : (dispatchSkeleton escapingResolver first).isOk = true := by decide +kernel
  refine ⟨built, makes, ascending, ascends, same, ?_, ?_⟩
  · rcases outcome with found | ⟨_, failed, -⟩ | ⟨_, _, _, _, -, failed, -⟩
    · exact found
    · rw [failed] at succeeds
      cases succeeds
    · rw [failed] at succeeds
      cases succeeds
  · exact (probes .standard _).1 (by decide +kernel)

/-- A skeleton or a malformed getter is not all that two bodies that dispatch alike have in common:
where an unconditional branch carries a table, its entries make no blocks, but have to be starts of
blocks when the skeleton is joined. -/
theorem not_dispatchSkeleton_ignores_inert_code :
    ¬ ∀ (resolver : Resolver) (first second : List Instruction),
      (∀ instruction ∈ first, instruction.IsBuilt) → (∀ instruction ∈ second, instruction.IsBuilt) →
      Ascending first → Ascending second → SameDispatch resolver first second →
      (∃ skeleton, dispatchSkeleton resolver first = .ok skeleton ∧
        dispatchSkeleton resolver second = .ok skeleton) ∨
      ∃ defect defect', dispatchSkeleton resolver first = .error (.malformedGetter defect) ∧
        dispatchSkeleton resolver second = .error (.malformedGetter defect') := by
  intro claim
  let body := lookupGetter .nop .nop (.plain 0x38 (.table [6])) 36 42 48 54
  have built : ∀ instruction ∈ body, instruction.IsBuilt := by decide +kernel
  have ascending : Ascending body := ascending_settle 0 _ (by decide +kernel)
  have same : SameDispatch escapingResolver body body :=
    ⟨rfl, by decide +kernel, by decide +kernel⟩
  have failed : dispatchSkeleton escapingResolver body =
      .error (.malformed (.strayJump 54 8 6)) := by decide +kernel
  rcases claim escapingResolver body body built built ascending ascending same with
    ⟨_, shape, -⟩ | ⟨_, _, shape, -⟩ <;>
    rw [failed] at shape <;> cases shape

end ConstantRecovery
