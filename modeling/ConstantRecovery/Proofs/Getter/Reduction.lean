import ConstantRecovery.Proofs.Flow.Flattened
import ConstantRecovery.Proofs.Getter.Topology
import ConstantRecovery.Proofs.Machine.Execution

/-!
# What a skeleton is made of

A skeleton is the end of a joined canonical view: from the first load of a local variable
on. So each of its instructions is one of a canonical block, with its slots moved, and a
jump in it that finds its target lands at the front of a block.
-/

namespace ConstantRecovery

/-- The instruction may stand in a skeleton. -/
def Instruction.IsSkeletal (instruction : Instruction) : Prop :=
  instruction.IsBuilt ∧
    (instruction.drivesDispatch = true ∨ instruction.isPlain Opcode.Code.nop = true)

namespace Instruction

variable {instruction : Instruction}

/-- An instruction of a skeleton stays one when its slots move. -/
theorem IsSkeletal.mapSlots (skeletal : instruction.IsSkeletal) (move : Nat → Nat) :
    (instruction.mapSlots move).IsSkeletal := by
  obtain ⟨built, shape⟩ := skeletal
  refine ⟨built.mapSlots move, ?_⟩
  rwa [drivesDispatch_mapSlots, isPlain, lead_mapSlots, opcode_mapSlots]

/-- An instruction of a skeleton stays one elsewhere. -/
theorem IsSkeletal.placedAt (skeletal : instruction.IsSkeletal) (offset : Nat) :
    (instruction.placedAt offset).IsSkeletal :=
  ⟨skeletal.1.placedAt offset, skeletal.2⟩

/-- Neutralizing makes every built instruction fit for a skeleton. -/
theorem IsBuilt.isSkeletal_neutralized (built : instruction.IsBuilt) :
    instruction.neutralized.IsSkeletal := by
  by_cases drives : instruction.drivesDispatch = true
  · rw [neutralized_of_drivesDispatch drives]
    exact ⟨built, .inl drives⟩
  · rw [neutralized, if_neg drives]
    exact ⟨(isBuilt_plain Opcode.Code.nop .bare).placedAt _, .inr rfl⟩

/-- In a skeleton the machine finds operations of a dispatch. -/
theorem IsSkeletal.dispatches (skeletal : instruction.IsSkeletal) {operation : Operation}
    (known : Operation.ofOpcode? instruction.lead instruction.opcode = some operation) :
    operation.dispatches = true := by
  obtain ⟨built, drives | idle⟩ := skeletal
  · exact built.dispatches drives known
  · rw [operation_of_isPlain idle rfl] at known
    cases known
    rfl

end Instruction

/-! ## Skeletons and their blocks -/

/-- A skeleton is what trimming leaves of the joined canonical blocks of a live view. -/
structure Reduces (resolver : Resolver) (kept : List BasicBlock)
    (dropped skeleton : List Instruction) : Prop where
  /-- Constructors have made the live code. -/
  built : ∀ instruction ∈ joined kept, instruction.IsBuilt
  /-- No live block is empty. -/
  inhabited : Inhabited kept
  /-- The canonical blocks join to the dropped code and the skeleton. -/
  joins : flattenBlocks (canonicalize resolver kept) = .ok (dropped ++ skeleton)
  /-- What is dropped loads no local variable. -/
  silent : ∀ instruction ∈ dropped, instruction.isLocalLoad = false
  /-- The skeleton starts with a load of a local variable. -/
  head : ∀ first, skeleton.head? = some first → first.isLocalLoad = true

/-- What trimming leaves starts with a load of a local variable. -/
theorem isLocalLoad_of_head?_trim {code : List Instruction} {first : Instruction}
    (front : (trim code).head? = some first) : first.isLocalLoad = true := by
  have stops := List.head?_dropWhile_not (!·.isLocalLoad) code
  rw [trim] at front
  rw [front] at stops
  simpa using stops

/-- Trimming takes off what stands in front of the first load of a local variable. -/
theorem reduces_trim {resolver : Resolver} {kept : List BasicBlock} {flat : List Instruction}
    (built : ∀ instruction ∈ joined kept, instruction.IsBuilt) (inhabited : Inhabited kept)
    (joins : flattenBlocks (canonicalize resolver kept) = .ok flat) :
    Reduces resolver kept (flat.takeWhile (!·.isLocalLoad)) (trim flat) where
  built := built
  inhabited := inhabited
  joins := by
    rw [trim, List.takeWhile_append_dropWhile]
    exact joins
  silent := by
    intro instruction member
    have quiet := List.all_eq_true.1 List.all_takeWhile instruction member
    simpa using quiet
  head _ := isLocalLoad_of_head?_trim

/-- Live blocks are counted first, then joined, then trimmed. -/
theorem dispatchSkeleton_eq {resolver : Resolver} {body : List Instruction}
    {kept : List BasicBlock} (pruned : prune? (buildBlocks body) = some kept) :
    dispatchSkeleton resolver body =
      if (decodeKinds resolver kept).length = 3 then
        ((flattenBlocks (canonicalize resolver kept)).map trim).mapError .malformed
      else .error (.malformedGetter (.decodeBlocks (decodeKinds resolver kept).length)) := by
  unfold dispatchSkeleton checkedKinds
  rw [pruned]
  dsimp only
  by_cases three : (decodeKinds resolver kept).length = 3
  · rw [if_pos three, if_pos three]
    cases flattenBlocks (canonicalize resolver kept) <;> rfl
  · rw [if_neg three, if_neg three]
    rfl

/-- A getter has a skeleton if three of its live blocks are decode blocks and the canonical ones
can be joined. -/
theorem dispatchSkeleton_eq_ok_iff {resolver : Resolver} {body skeleton : List Instruction}
    {kept : List BasicBlock} (pruned : prune? (buildBlocks body) = some kept) :
    dispatchSkeleton resolver body = .ok skeleton ↔ (decodeKinds resolver kept).length = 3 ∧
      ∃ flat, flattenBlocks (canonicalize resolver kept) = .ok flat ∧ skeleton = trim flat := by
  rw [dispatchSkeleton_eq pruned]
  split
  · rename_i three
    rw [and_iff_right three]
    cases flattenBlocks (canonicalize resolver kept) with
    | error fault => exact ⟨nofun, fun ⟨_, joins, _⟩ => nomatch joins⟩
    | ok flat =>
      constructor
      · intro done
        cases done
        exact ⟨flat, rfl, rfl⟩
      · rintro ⟨_, joins, rfl⟩
        cases joins
        rfl
  · rename_i other
    exact ⟨nofun, fun found => absurd found.1 other⟩

/-- A getter that has a skeleton reduces to it. -/
theorem exists_reduces {resolver : Resolver} {body skeleton : List Instruction}
    {kept : List BasicBlock} (built : ∀ instruction ∈ body, instruction.IsBuilt)
    (pruned : prune? (buildBlocks body) = some kept)
    (done : dispatchSkeleton resolver body = .ok skeleton) :
    ∃ dropped, Reduces resolver kept dropped skeleton := by
  obtain ⟨-, flat, joins, rfl⟩ := (dispatchSkeleton_eq_ok_iff pruned).1 done
  refine ⟨_, reduces_trim ?_ ?_ joins⟩
  · intro instruction member
    rw [joined_of_prune? pruned] at member
    exact built instruction ((liveCode_sublist body).subset member)
  · exact (headed_of_prune? pruned (headed_buildBlocks body)).inhabited

/-- A stub loads the sentinel of its path and returns. -/
theorem mem_stub_iff {block : BasicBlock} {kind : ConstantKind} {instruction : Instruction} :
    instruction ∈ block.stub kind ↔
      instruction = (Instruction.ldcI4 kind.sentinel).placedAt block.offset ∨
        instruction = Instruction.ret.placedAt
          (block.offset + (Instruction.ldcI4 kind.sentinel).size) := by
  rw [BasicBlock.stub, List.mem_pair]

/-- The instructions of a stub may stand in a skeleton. -/
theorem isSkeletal_of_mem_stub {block : BasicBlock} {kind : ConstantKind}
    {instruction : Instruction} (member : instruction ∈ block.stub kind) :
    instruction.IsSkeletal := by
  rcases mem_stub_iff.1 member with rfl | rfl
  · have loads : (Instruction.ldcI4 kind.sentinel).drivesDispatch = true := by
      cases kind <;> decide
    exact ⟨(Instruction.isBuilt_ldcI4 _).placedAt _, .inl loads⟩
  · exact ⟨(Instruction.isBuilt_plain Opcode.Code.ret .bare).placedAt _, .inl rfl⟩

/-- No instruction of a stub loads a local variable. -/
theorem not_isLocalLoad_of_mem_stub {block : BasicBlock} {kind : ConstantKind}
    {instruction : Instruction} (member : instruction ∈ block.stub kind) :
    instruction.isLocalLoad = false := by
  rcases mem_stub_iff.1 member with rfl | rfl
  · cases kind <;> rfl
  · rfl

/-- A decode block becomes a stub. -/
theorem instructions_canonical_of_kind? {resolver : Resolver} {block : BasicBlock}
    {kind : ConstantKind} (path : block.kind? resolver = some kind) :
    (block.canonical resolver).instructions = block.stub kind := by
  rw [BasicBlock.canonical, path]

/-- Every other block is neutralized. -/
theorem instructions_canonical_of_no_kind {resolver : Resolver} {block : BasicBlock}
    (other : block.kind? resolver = none) :
    (block.canonical resolver).instructions = block.instructions.map (·.neutralized) := by
  rw [BasicBlock.canonical, other]

/-- The instructions of a canonical block may stand in a skeleton. -/
theorem isSkeletal_of_mem_canonical {resolver : Resolver} {block : BasicBlock}
    (built : ∀ instruction ∈ block.instructions, instruction.IsBuilt) {instruction : Instruction}
    (member : instruction ∈ (block.canonical resolver).instructions) :
    instruction.IsSkeletal := by
  cases path : block.kind? resolver with
  | some kind =>
    rw [instructions_canonical_of_kind? path] at member
    exact isSkeletal_of_mem_stub member
  | none =>
    rw [instructions_canonical_of_no_kind path] at member
    obtain ⟨original, inside, rfl⟩ := List.mem_map.1 member
    exact (built original inside).isSkeletal_neutralized

/-- No canonical block is empty. -/
theorem inhabited_canonicalize {resolver : Resolver} {blocks : List BasicBlock}
    (inhabited : Inhabited blocks) : Inhabited (canonicalize resolver blocks) := by
  intro canonical member
  obtain ⟨block, inside, rfl⟩ := List.mem_map.1 member
  cases path : block.kind? resolver with
  | some kind =>
    rw [instructions_canonical_of_kind? path]
    exact List.cons_ne_nil _ _
  | none =>
    rw [instructions_canonical_of_no_kind path]
    intro none
    exact inhabited block inside (List.map_eq_nil_iff.1 none)

/-- A canonical block is the canonical form of the block at its position. -/
theorem getElem?_canonicalize {resolver : Resolver} {blocks : List BasicBlock} {index : Nat}
    {block : BasicBlock} (here : (canonicalize resolver blocks)[index]? = some block) :
    ∃ original, blocks[index]? = some original ∧ block = original.canonical resolver := by
  rw [canonicalize, List.getElem?_map] at here
  obtain ⟨original, there, rfl⟩ := Option.map_eq_some_iff.1 here
  exact ⟨original, there, rfl⟩

/-- The block at a position has its canonical form there. -/
theorem getElem?_canonicalize_of_getElem? {resolver : Resolver} {blocks : List BasicBlock}
    {index : Nat} {block : BasicBlock} (here : blocks[index]? = some block) :
    (canonicalize resolver blocks)[index]? = some (block.canonical resolver) := by
  rw [canonicalize, List.getElem?_map, here, Option.map_some]

/-- A canonical block has an instruction. -/
theorem length_canonical_pos {resolver : Resolver} {blocks : List BasicBlock}
    (inhabited : Inhabited blocks) {index : Nat} {block : BasicBlock}
    (here : blocks[index]? = some block) : 0 < (block.canonical resolver).instructions.length := by
  apply List.length_pos_iff.2
  apply inhabited_canonicalize inhabited
  exact List.mem_of_getElem? (getElem?_canonicalize_of_getElem? here)

namespace Reduces

variable {resolver : Resolver} {kept : List BasicBlock} {dropped skeleton : List Instruction}

/-- Canonical blocks hold nothing but instructions of a skeleton. -/
theorem skeletal (reduces : Reduces resolver kept dropped skeleton) :
    ∀ instruction ∈ joined (canonicalize resolver kept), instruction.IsSkeletal := by
  intro instruction member
  obtain ⟨canonical, inside, member⟩ := List.mem_flatMap.1 member
  obtain ⟨block, origin, rfl⟩ := List.mem_map.1 inside
  apply isSkeletal_of_mem_canonical _ member
  intro original there
  exact reduces.built original (List.mem_flatMap.2 ⟨block, origin, there⟩)

/-- The skeleton ascends with the stream it is the end of. -/
theorem ascending (reduces : Reduces resolver kept dropped skeleton) :
    Ascending (dropped ++ skeleton) := by
  apply ascending_of_flattenBlocks reduces.joins
  intro instruction member
  exact (reduces.skeletal instruction member).1.size_pos

/-- Each instruction of the skeleton is one of a canonical block, with its slots moved. -/
theorem getElem?_skeleton (reduces : Reduces resolver kept dropped skeleton) (cursor : Nat) :
    ∃ offset, skeleton[cursor]? =
      (joined (canonicalize resolver kept))[dropped.length + cursor]?.map
        (·.laid (slotMove (canonicalize resolver kept)) offset) := by
  have whole := getElem?_of_flattenBlocks reduces.joins (dropped.length + cursor)
  rw [List.getElem?_append_right (Nat.le_add_right _ _), Nat.add_sub_cancel_left] at whole
  exact ⟨_, whole⟩

/-- What a slot holds is found in the skeleton at the front of the block that it names. -/
theorem lastPosition?_slot (reduces : Reduces resolver kept dropped skeleton)
    {instruction : Instruction} (member : instruction ∈ joined (canonicalize resolver kept))
    {target : Nat} (slot : target ∈ instruction.jumpSlots) {place : Nat} :
    lastPosition? (slotMove (canonicalize resolver kept) target) (offsets skeleton) = some place ↔
      ∃ index, lastPosition? target (kept.map (·.offset)) = some index ∧
        dropped.length + place = placeIn (canonicalize resolver kept) index 0 := by
  obtain ⟨index, block, named, inside, front⟩ := exists_front_of_flattenBlocks reduces.joins
    (inhabited_canonicalize reduces.inhabited) member slot
  rw [starts_canonicalize] at named
  have ordered := reduces.ascending
  have behind (place : Nat) : (offsets (dropped ++ skeleton))[dropped.length + place]? =
      (offsets skeleton)[place]? := by
    rw [offsets, List.getElem?_map, List.getElem?_append_right (Nat.le_add_right _ _),
      Nat.add_sub_cancel_left, offsets, List.getElem?_map]
  constructor
  · intro found
    refine ⟨index, named, ?_⟩
    have here := getElem?_of_lastPosition? found
    rw [← behind] at here
    exact (List.getElem?_inj (List.getElem?_eq_some_iff.1 here).1
      (ordered.imp Nat.ne_of_lt)).1 (here.trans front.symm)
  · rintro ⟨other, again, start⟩
    rw [named] at again
    cases again
    rw [← start, behind] at front
    have part : (offsets skeleton).Pairwise (· < ·) :=
      ordered.sublist (List.sublist_append_right dropped skeleton)
    exact lastPosition?_of_ascending part front

/-- The skeleton starts no later than at any load of a local variable. -/
theorem length_dropped_le (reduces : Reduces resolver kept dropped skeleton) {index inner : Nat}
    {block : BasicBlock} {instruction : Instruction} (here : kept[index]? = some block)
    (inside : (block.canonical resolver).instructions[inner]? = some instruction)
    (loads : instruction.isLocalLoad = true) :
    dropped.length ≤ placeIn (canonicalize resolver kept) index inner := by
  apply Nat.le_of_not_lt
  intro front
  have place := getElem?_of_flattenBlocks reduces.joins
    (placeIn (canonicalize resolver kept) index inner)
  rw [List.getElem?_append_left front, getElem?_joined_placeIn
    (getElem?_canonicalize_of_getElem? here) (List.getElem?_eq_some_iff.1 inside).1, inside,
    Option.map_some] at place
  have quiet := reduces.silent _ (List.mem_of_getElem? place)
  change (instruction.laid _ _).isLocalLoad = false at quiet
  rw [Instruction.isLocalLoad_laid, loads] at quiet
  cases quiet

/-- A view that loads a local variable has a skeleton that is not empty. -/
theorem ne_nil_of_isLocalLoad (reduces : Reduces resolver kept dropped skeleton)
    {index inner : Nat} {block : BasicBlock} {instruction : Instruction}
    (here : kept[index]? = some block)
    (inside : (block.canonical resolver).instructions[inner]? = some instruction)
    (loads : instruction.isLocalLoad = true) : skeleton ≠ [] := by
  intro empty
  have early := reduces.length_dropped_le here inside loads
  have size := length_of_flattenBlocks reduces.joins
  rw [empty, List.append_nil] at size
  have place := getElem?_joined_placeIn (@getElem?_canonicalize_of_getElem? resolver _ _ _ here)
    (List.getElem?_eq_some_iff.1 inside).1
  rw [inside] at place
  have bound := (List.getElem?_eq_some_iff.1 place).1
  omega

/-- A skeleton that is not empty starts at a load of a local variable. -/
theorem exists_start (reduces : Reduces resolver kept dropped skeleton)
    (inhabited : skeleton ≠ []) :
    ∃ index block inner instruction, kept[index]? = some block ∧
      (block.canonical resolver).instructions[inner]? = some instruction ∧
      instruction.isLocalLoad = true ∧
      dropped.length = placeIn (canonicalize resolver kept) index inner := by
  obtain ⟨first, rest, front⟩ := List.exists_cons_of_ne_nil inhabited
  have size := length_of_flattenBlocks reduces.joins
  have bound : dropped.length < (joined (canonicalize resolver kept)).length := by
    rw [List.length_append, front, List.length_cons] at size
    omega
  obtain ⟨index, canonical, inner, there, within, place⟩ := exists_placeIn bound
  obtain ⟨block, here, rfl⟩ := getElem?_canonicalize there
  have inside := List.getElem?_eq_getElem within
  refine ⟨index, block, inner, _, here, inside, ?_, place⟩
  obtain ⟨offset, shape⟩ := reduces.getElem?_skeleton 0
  rw [Nat.add_zero, place, getElem?_joined_placeIn there within, inside, front] at shape
  rw [List.getElem?_cons_zero, Option.map_some, Option.some.injEq] at shape
  have loads : first.isLocalLoad = true := reduces.head first (by rw [front]; rfl)
  rwa [shape, Instruction.isLocalLoad_laid] at loads

/-- The stub of a decode block stands in the skeleton where the block starts. -/
theorem stands_stub (reduces : Reduces resolver kept dropped skeleton) {cursor index : Nat}
    {block : BasicBlock} {kind : ConstantKind} (here : kept[index]? = some block)
    (path : block.kind? resolver = some kind)
    (place : dropped.length + cursor = placeIn (canonicalize resolver kept) index 0) :
    Stands skeleton cursor (block.stub kind) := by
  intro position instruction inside
  have stub := instructions_canonical_of_kind? path
  have still : instruction.mapSlots (slotMove (canonicalize resolver kept)) = instruction := by
    rcases mem_stub_iff.1 (List.mem_of_getElem? inside) with rfl | rfl
    · cases kind <;> rfl
    · rfl
  have within : position < (block.canonical resolver).instructions.length := by
    rw [stub]
    exact (List.getElem?_eq_some_iff.1 inside).1
  have inner : dropped.length + (cursor + position) =
      placeIn (canonicalize resolver kept) index position := by
    rw [← Nat.add_assoc, place]
    rfl
  obtain ⟨offset, shape⟩ := reduces.getElem?_skeleton (cursor + position)
  rw [inner, getElem?_joined_placeIn (getElem?_canonicalize_of_getElem? here) within, stub,
    inside, Option.map_some, Instruction.laid, still] at shape
  exact ⟨offset, shape⟩

end Reduces

end ConstantRecovery
