import ConstantRecovery.Getter.Skeleton
import ConstantRecovery.Proofs.Flow.SegmentBlocks
import Mathlib.Data.List.Forall2

/-!
# The skeleton of laid-out segments

The skeleton of a stream laid out from segments is laid out from segments again: each
one that a marker gives away becomes a sentinel and a return, in every other one what
drives no dispatch becomes a `nop`. A `nop` may be shorter than what it stands for, so
nothing keeps its offset; what lasts is which segment a branch goes to.
-/

namespace ConstantRecovery

namespace Instruction

variable {instruction : Instruction}

/-- What drives the dispatch stays as it is. -/
theorem neutralized_of_drivesDispatch (drives : instruction.drivesDispatch = true) :
    instruction.neutralized = instruction :=
  if_pos drives

/-- A load of a local variable stays in the skeleton. -/
theorem neutralized_of_isLocalLoad (loads : instruction.isLocalLoad = true) :
    instruction.neutralized = instruction := by
  apply neutralized_of_drivesDispatch
  simp only [drivesDispatch, loads, Bool.true_or]

/-- A load of a 32-bit number stays in the skeleton. -/
theorem neutralized_of_isInt32Load (loads : instruction.isInt32Load = true) :
    instruction.neutralized = instruction := by
  apply neutralized_of_drivesDispatch
  simp only [drivesDispatch, loads, Bool.or_true, Bool.true_or]

end Instruction

/-- Two streams have the same instructions, wherever these stand. -/
def SameCode (first second : List Instruction) : Prop :=
  first.map (·.placedAt 0) = second.map (·.placedAt 0)

namespace SameCode

variable {first second : List Instruction}

/-- Settling moves instructions and does nothing else. -/
theorem settle (start : Nat) (code : List Instruction) :
    SameCode (ConstantRecovery.settle start code) code := by
  induction code generalizing start with
  | nil => rfl
  | cons instruction rest ih => exact congrArg (instruction.placedAt 0 :: ·) (ih _)

/-- Settling forgets where instructions stood. -/
theorem settle_eq (same : SameCode first second) (start : Nat) :
    ConstantRecovery.settle start first = ConstantRecovery.settle start second := by
  have forgets (code : List Instruction) (start : Nat) :
      ConstantRecovery.settle start code =
        ConstantRecovery.settle start (code.map (·.placedAt 0)) := by
    induction code generalizing start with
    | nil => rfl
    | cons instruction rest ih => exact congrArg (instruction.placedAt start :: ·) (ih _)
  rw [forgets first, forgets second, same]

/-- Code that differs in places only has one size. -/
theorem codeSize_eq (same : SameCode first second) : codeSize first = codeSize second := by
  rw [← codeSize_settle 0 first, same.settle_eq 0, codeSize_settle]

/-- Code that differs in places only does so behind code that differs in places only. -/
theorem append {third fourth : List Instruction} (front : SameCode first second)
    (back : SameCode third fourth) : SameCode (first ++ third) (second ++ fourth) := by
  rw [SameCode, List.map_append, List.map_append, front, back]

/-- What a stream neutralizes to does not depend on where it stands. -/
theorem neutralized (same : SameCode first second) :
    SameCode (first.map (·.neutralized)) (second.map (·.neutralized)) := by
  have commutes (instruction : Instruction) : instruction.neutralized.placedAt 0 =
      (instruction.placedAt 0).neutralized := by
    show (if instruction.drivesDispatch then instruction else _).placedAt 0 =
      if instruction.drivesDispatch then instruction.placedAt 0 else _
    split <;> rfl
  have moved (code : List Instruction) : (code.map (·.neutralized)).map (·.placedAt 0) =
      (code.map (·.placedAt 0)).map (·.neutralized) := by
    rw [List.map_map, List.map_map]
    exact List.map_congr_left fun instruction _ => commutes instruction
  rw [SameCode, moved, moved, same]

/-- The path a stream belongs to does not depend on where it stands. -/
theorem classify?_eq (same : SameCode first second) (resolver : Resolver) :
    classify? resolver first = classify? resolver second := by
  have blind (code : List Instruction) :
      classify? resolver code = classify? resolver (code.map (·.placedAt 0)) := by
    rw [classify?, classify?, List.findSome?_map]
    rfl
  rw [blind first, blind second, same]

/-- An instruction of one stream has the slots of one of the other. -/
theorem exists_jumpSlots_eq (same : SameCode first second) {instruction : Instruction}
    (member : instruction ∈ first) :
    ∃ other ∈ second, instruction.jumpSlots = other.jumpSlots := by
  have moved : instruction.placedAt 0 ∈ second.map (·.placedAt 0) :=
    same ▸ List.mem_map_of_mem member
  obtain ⟨other, inside, equal⟩ := List.mem_map.1 moved
  exact ⟨other, inside, (congrArg Instruction.jumpSlots equal).symm⟩

end SameCode

/-- A segment without anything but dispatch. -/
def Segment.canonical (resolver : Resolver) (segment : Segment) : Segment :=
  match classify? resolver segment.straight with
  | some kind => ⟨[.ldcI4 kind.sentinel], .returns⟩
  | none => { segment with straight := segment.straight.map (·.neutralized) }

/-- Nothing that jumps marks a path. -/
theorem Exit.IsSound.marks? {count : Nat} {exit : Exit} (sound : exit.IsSound count)
    (starts : Nat → Nat) (resolver : Resolver) :
    (exit.instruction starts).marks? resolver = none := by
  cases exit with
  | returns => rfl
  | branch opcode segment =>
    have bytes := Instruction.build_bytes 0 opcode (.target (starts segment))
    have other {code : UInt8} (straight : (Opcode.lookup 0 code).map (·.flow) ≠ some .conditional) :
        (Instruction.branch opcode (starts segment)).isPlain code = false := by
      have differs : opcode ≠ code := fun equal => straight (equal ▸ sound.2)
      rw [Instruction.isPlain, Instruction.branch, Instruction.plain, bytes.2,
        decide_eq_false differs, Bool.and_false]
    have allocates := @other Opcode.Code.newarr (by decide)
    have loads := @other Opcode.Code.ldtoken (by decide)
    have calls := @other Opcode.Code.call (by decide)
    rw [instruction, Instruction.marks?, Instruction.isArrayAllocation, allocates,
      Instruction.isTokenLoad, loads, Instruction.isUtf8Access, Instruction.calls, calls]
    rfl

/-- Every way out drives the dispatch. -/
theorem Exit.IsSound.neutralized {count : Nat} {exit : Exit} (sound : exit.IsSound count)
    (starts : Nat → Nat) :
    (exit.instruction starts).neutralized = exit.instruction starts := by
  cases exit with
  | returns => rfl
  | branch opcode segment =>
    apply Instruction.neutralized_of_drivesDispatch
    rw [instruction, Instruction.drivesDispatch, Instruction.isBranch,
      Instruction.flow_branch sound.2, Bool.or_true]

namespace Segment

variable {count : Nat} {segment : Segment}

/-- A segment belongs to the path of its straight code. -/
theorem IsSound.classify?_code (sound : segment.IsSound count) (starts : Nat → Nat)
    (resolver : Resolver) :
    classify? resolver (segment.code starts) = classify? resolver segment.straight := by
  have exits := sound.exit.marks? starts resolver
  rw [classify?, code, List.findSome?_append, List.findSome?_singleton, exits, Option.or_none]
  rfl

/-- Straight code stays straight when it is neutralized. -/
theorem isStraight_neutralized {instruction : Instruction} (straight : instruction.IsStraight) :
    instruction.neutralized.IsStraight := by
  rw [Instruction.neutralized]
  split
  · exact straight
  · exact ⟨(Instruction.isBuilt_plain Opcode.Code.nop .bare).placedAt _, .inl rfl⟩

/-- A sentinel is loaded by straight code. -/
theorem isStraight_sentinel (kind : ConstantKind) :
    (Instruction.ldcI4 kind.sentinel).IsStraight := by
  refine ⟨Instruction.isBuilt_ldcI4 _, .inl ?_⟩
  cases kind <;> decide

/-- A segment that can be laid out can be once it is canonical. -/
theorem IsSound.canonical (sound : segment.IsSound count) (resolver : Resolver) :
    (segment.canonical resolver).IsSound count := by
  unfold Segment.canonical
  split
  · exact ⟨List.forall_mem_singleton.2 (isStraight_sentinel _), trivial⟩
  · refine ⟨fun instruction member => ?_, sound.exit⟩
    obtain ⟨original, inside, rfl⟩ := List.mem_map.1 member
    exact isStraight_neutralized (sound.straight original inside)

/-- A block that has the instructions of a segment becomes canonical as the segment does. -/
theorem IsSound.sameCode_canonical (sound : segment.IsSound count) {starts : Nat → Nat}
    {block : BasicBlock} (same : SameCode block.instructions (segment.code starts))
    (resolver : Resolver) :
    SameCode (block.canonical resolver).instructions
      ((segment.canonical resolver).code starts) := by
  have kind : block.kind? resolver = classify? resolver segment.straight :=
    (same.classify?_eq resolver).trans (sound.classify?_code starts resolver)
  rw [BasicBlock.canonical, kind, Segment.canonical]
  cases classify? resolver segment.straight with
  | some kind => rfl
  | none =>
    have neutral := same.neutralized
    rw [code, List.map_append, List.map_singleton, sound.exit.neutralized starts] at neutral
    exact neutral

end Segment

/-- Blocks that have the instructions of segments join to those of the segments. -/
theorem sameCode_joined {starts : Nat → Nat} {blocks : List BasicBlock} {segments : List Segment}
    (same : List.Forall₂ (fun block segment => SameCode block.instructions (segment.code starts))
      blocks segments) : SameCode (joined blocks) (codeOf starts segments) := by
  induction same with
  | nil => rfl
  | cons head _ ih => exact head.append ih

/-- The decode paths of a view are those of its segments. -/
theorem decodeKinds_eq {count : Nat} {starts : Nat → Nat} {segments : List Segment}
    {blocks : List BasicBlock} {resolver : Resolver}
    (same : List.Forall₂ (fun segment block => segment.IsSound count ∧
      SameCode block.instructions (segment.code starts)) segments blocks) :
    decodeKinds resolver blocks = segments.filterMap (classify? resolver ·.straight) := by
  induction same with
  | nil => rfl
  | @cons segment block _ _ head _ ih =>
    have kind : block.kind? resolver = classify? resolver segment.straight :=
      (head.2.classify?_eq resolver).trans (head.1.classify?_code starts resolver)
    rw [decodeKinds, List.filterMap_cons, List.filterMap_cons, kind, ← ih]
    rfl

/-- A canonical block stands where it stood. -/
theorem BasicBlock.offset_canonical (resolver : Resolver) (block : BasicBlock) :
    (block.canonical resolver).offset = block.offset := by
  unfold BasicBlock.canonical
  split <;> rfl

namespace Sound

variable {segments : List Segment} {old : Nat → Nat}

/-- Segments stay sound when they become canonical. -/
theorem canonical (sound : Sound segments) (resolver : Resolver) :
    Sound (segments.map (·.canonical resolver)) := by
  intro segment member
  obtain ⟨original, inside, rfl⟩ := List.mem_map.1 member
  rw [List.length_map]
  exact (sound original inside).canonical resolver

/-- The slots of sound segments are starts of segments. -/
theorem exists_of_mem_jumpSlots (sound : Sound segments) {instruction : Instruction}
    (member : instruction ∈ codeOf old segments) {target : Nat}
    (slot : target ∈ instruction.jumpSlots) : ∃ index < segments.length, target = old index := by
  obtain ⟨segment, inside, member⟩ := List.mem_flatMap.1 member
  rcases List.mem_append.1 member with straight | exit
  · have jumps := ((sound segment inside).straight instruction straight).not_jumping
    rw [Instruction.jumpSlots, jumps] at slot
    cases slot
  · rw [List.mem_singleton.1 exit] at slot
    have exits := (sound segment inside).exit
    cases way : segment.exit with
    | returns =>
      rw [way] at slot
      cases slot
    | branch opcode index =>
      rw [way] at slot exits
      rw [Exit.instruction, Instruction.jumpSlots_branch exits.2] at slot
      exact ⟨index, exits.1, List.mem_singleton.1 slot⟩

/-- Moving the slots of sound segments moves where segments start. -/
theorem map_mapSlots_codeOf (sound : Sound segments) {move new : Nat → Nat}
    (agree : ∀ index < segments.length, move (old index) = new index) :
    (codeOf old segments).map (·.mapSlots move) = codeOf new segments := by
  rw [codeOf, List.map_flatMap]
  refine List.flatMap_congr fun segment inside => ?_
  have still : segment.straight.map (·.mapSlots move) = segment.straight := by
    have fixed := List.map_congr_left fun instruction member =>
      ((sound segment inside).straight instruction member).mapSlots move
    rwa [List.map_id'] at fixed
  rw [Segment.code, List.map_append, still, List.map_singleton,
    (sound segment inside).exit.mapSlots agree]
  rfl

/-- Blocks that have the instructions of sound segments, and stand in order, join to the stream
laid out from the segments. -/
theorem flattenBlocks_eq (sound : Sound segments) {blocks : List BasicBlock}
    (same : List.Forall₂ (fun block segment => SameCode block.instructions (segment.code old))
      blocks segments)
    (found : ∀ index < segments.length,
      lastPosition? (old index) (blocks.map (·.offset)) = some index) :
    flattenBlocks blocks = .ok (assemble 0 segments) := by
  have moves : ∀ index < segments.length,
      newStart? blocks (old index) = some (startOf 0 segments index) := by
    intro index inside
    refine newStart?_eq_some_iff.2 ⟨index, found index inside, ?_⟩
    have front := sameCode_joined (List.forall₂_take index same)
    rw [startOf, Nat.zero_add, front.codeSize_eq]
    exact codeSize_congr (sizes_codeOf id old _)
  have whole := sameCode_joined same
  refine flattenBlocks_eq_ok_iff.2 ⟨?_, ?_⟩
  · intro instruction member target slot
    obtain ⟨other, inside, slots⟩ := whole.exists_jumpSlots_eq member
    rw [slots] at slot
    obtain ⟨index, bound, rfl⟩ := sound.exists_of_mem_jumpSlots inside slot
    rw [moves index bound]
    rfl
  · rw [whole.settle_eq 0, ← settle_map_mapSlots, sound.map_mapSlots_codeOf]
    · rfl
    · intro index bound
      rw [moves index bound]
      rfl

/-- The skeleton of laid-out segments, where control reaches each of them and three are decode
paths. -/
theorem dispatchSkeleton_assemble (sound : Sound segments) {resolver : Resolver}
    (reached : ∀ index < segments.length,
      Relation.ReflTransGen (Leads (buildBlocks (assemble 0 segments))) 0 index)
    (three : (segments.filterMap (classify? resolver ·.straight)).length = 3) :
    dispatchSkeleton resolver (assemble 0 segments) =
      .ok (trim (assemble 0 (segments.map (·.canonical resolver)))) := by
  obtain ⟨kept, pruned⟩ := exists_prune?_buildBlocks (assemble 0 segments)
  have all : ∀ index < (buildBlocks (assemble 0 segments)).length,
      Relation.ReflTransGen (Leads (buildBlocks (assemble 0 segments))) 0 index := by
    intro index inside
    rw [sound.length_buildBlocks 0] at inside
    exact reached index inside
  have content := (content_of_prune?_of_reached pruned all).trans (sound.content_buildBlocks 0)
  have offsets : kept.map (·.offset) = starts 0 segments := by
    have firsts := congrArg (List.map Prod.fst) content
    rw [List.map_map, List.map_map] at firsts
    exact firsts
  have same : List.Forall₂
      (fun block segment => SameCode block.instructions (segment.code (startOf 0 segments)))
      kept (segments.zipIdx.map Prod.fst) := by
    rw [← List.forall₂_eq_eq_eq, List.forall₂_map_left_iff, List.forall₂_map_right_iff] at content
    refine List.forall₂_map_right_iff.2 (content.imp fun block pair equal => ?_)
    have instructions := congrArg Prod.snd equal
    show SameCode block.content.2 _
    rw [instructions]
    exact SameCode.settle _ _
  rw [List.zipIdx_map_fst] at same
  have sounded := (List.forall₂_and_left _ _).2 ⟨sound, same.flip⟩
  have kinds : checkedKinds resolver kept =
      .ok (segments.filterMap (classify? resolver ·.straight)) := by
    rw [checkedKinds, decodeKinds_eq sounded]
    exact if_pos three
  have canonical : List.Forall₂
      (fun block segment => SameCode block.instructions (segment.code (startOf 0 segments)))
      (canonicalize resolver kept) (segments.map (·.canonical resolver)) := by
    rw [canonicalize, List.forall₂_map_left_iff, List.forall₂_map_right_iff]
    exact sounded.flip.imp fun block segment both => both.1.sameCode_canonical both.2 resolver
  have heads : (canonicalize resolver kept).map (·.offset) = starts 0 segments := by
    rw [canonicalize, List.map_map, ← offsets]
    exact List.map_congr_left fun block _ => block.offset_canonical resolver
  have flat := (sound.canonical resolver).flattenBlocks_eq canonical fun index inside => by
    rw [List.length_map] at inside
    rw [heads]
    exact lastPosition?_starts 0 inside
  rw [dispatchSkeleton, pruned]
  dsimp only
  rw [kinds, flat]
  rfl

end Sound

section Trimming

variable {junk kept : List Instruction} {exit : Exit} {rest : List Segment}

/-- What stands in front of a segment moves the start of each one behind it. -/
theorem startOf_junk (index : Nat) :
    startOf 0 (⟨junk ++ kept, exit⟩ :: rest) (index + 1) =
      startOf (codeSize junk) (⟨kept, exit⟩ :: rest) (index + 1) := by
  have longer : codeSize (Segment.code id ⟨junk ++ kept, exit⟩) =
      codeSize junk + codeSize (Segment.code id ⟨kept, exit⟩) := by
    rw [← codeSize_append]
    exact congrArg codeSize (List.append_assoc _ _ _)
  rw [startOf, startOf, List.take_succ_cons, List.take_succ_cons, codeOf_cons, codeOf_cons,
    codeSize_append, codeSize_append, longer]
  omega

/-- Where no branch goes to the first segment, trimming takes from the stream what stands in front
of the first load of a local variable there. -/
theorem trim_assemble {first : Instruction} {others : List Instruction}
    (silent : ∀ instruction ∈ junk, instruction.isLocalLoad = false)
    (shape : kept = first :: others) (loads : first.isLocalLoad = true)
    (untargeted : ∀ segment ∈ (⟨kept, exit⟩ :: rest : List Segment), ∀ opcode,
      segment.exit ≠ .branch opcode 0) :
    trim (assemble 0 (⟨junk ++ kept, exit⟩ :: rest)) =
      assemble (codeSize junk) (⟨kept, exit⟩ :: rest) := by
  have same : codeOf (startOf 0 (⟨junk ++ kept, exit⟩ :: rest)) (⟨kept, exit⟩ :: rest) =
      codeOf (startOf (codeSize junk) (⟨kept, exit⟩ :: rest)) (⟨kept, exit⟩ :: rest) := by
    refine List.flatMap_congr fun segment member => ?_
    rw [Segment.code, Segment.code]
    cases way : segment.exit with
    | returns => rfl
    | branch opcode index =>
      cases index with
      | zero => exact absurd way (untargeted segment member opcode)
      | succ index =>
        rw [Exit.instruction, Exit.instruction, startOf_junk]
  have split : codeOf (startOf 0 (⟨junk ++ kept, exit⟩ :: rest)) (⟨junk ++ kept, exit⟩ :: rest) =
      junk ++ codeOf (startOf (codeSize junk) (⟨kept, exit⟩ :: rest)) (⟨kept, exit⟩ :: rest) := by
    rw [← same, codeOf_cons, codeOf_cons, Segment.code, Segment.code, List.append_assoc,
      List.append_assoc, List.append_assoc]
  have silence : ∀ instruction ∈ settle 0 junk, (!instruction.isLocalLoad) = true := by
    intro instruction member
    obtain ⟨position, here⟩ := List.mem_iff_getElem?.1 member
    rw [getElem?_settle] at here
    obtain ⟨original, there, rfl⟩ := Option.map_eq_some_iff.1 here
    have quiet := silent original (List.mem_of_getElem? there)
    show (!original.isLocalLoad) = true
    rw [quiet]
    rfl
  have stops : (!(first.placedAt (codeSize junk)).isLocalLoad) = false := by
    show (!first.isLocalLoad) = false
    rw [loads]
    rfl
  rw [assemble, split, settle_append, trim, List.dropWhile_append_of_pos silence, Nat.zero_add,
    assemble, codeOf_cons, Segment.code, shape]
  exact List.dropWhile_cons_of_neg (by rw [stops]; decide)

end Trimming

end ConstantRecovery
