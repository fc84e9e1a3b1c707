import ConstantRecovery.Proofs.Flow.Rearranging
import ConstantRecovery.Proofs.Getter.Reader
import ConstantRecovery.Proofs.Getter.Reduction
import ConstantRecovery.Proofs.Machine.Mirroring

/-!
# Getters in another order

A getter whose blocks stand in another order has the same decode blocks and joins to the
same skeleton in that order. Trimming drops what stands in front of the first load of a
local variable, so the order must not move anything there from behind the block of that
load. Then the probes of both skeletons visit the same places of the same blocks, and the
getter is read as before.
-/

namespace ConstantRecovery

/-! ## Canonical blocks -/

namespace Instruction

variable (move : Nat → Nat) (instruction : Instruction)

/-- Moving changes no one-byte opcode. -/
theorem isPlain_moved (opcode : UInt8) :
    (instruction.moved move).isPlain opcode = instruction.isPlain opcode := by
  rw [isPlain, lead_moved, opcode_moved, isPlain]

/-- Moving an instruction changes no call. -/
theorem calls_moved (resolver : Resolver) (member : String) :
    (instruction.moved move).calls resolver member = instruction.calls resolver member := by
  have token : (instruction.moved move).token? = instruction.token? := by
    obtain ⟨offset, size, opcode, lead, mnemonic, flow, operand⟩ := instruction
    cases flow <;> cases operand <;> rfl
  rw [calls, isPlain_moved, token, calls]

/-- Moving an instruction changes no marker. -/
theorem marks?_moved (resolver : Resolver) :
    (instruction.moved move).marks? resolver = instruction.marks? resolver := by
  simp only [marks?, isArrayAllocation, isTokenLoad, isUtf8Access, isPlain_moved, calls_moved]
  rfl

/-- Neutralizing a moved instruction lays out the neutralized one. -/
theorem exists_neutralized_moved :
    ∃ offset, (instruction.moved move).neutralized = instruction.neutralized.laid move offset := by
  have same : (instruction.moved move).drivesDispatch = instruction.drivesDispatch :=
    drivesDispatch_mapSlots move instruction
  refine ⟨move instruction.offset, ?_⟩
  unfold neutralized
  rw [same]
  split <;> rfl

end Instruction

/-- Moved code is on the path that the code is on. -/
theorem classify?_map_moved (move : Nat → Nat) (resolver : Resolver) (code : List Instruction) :
    classify? resolver (code.map (·.moved move)) = classify? resolver code := by
  rw [classify?, classify?, List.findSome?_map]
  congr 1
  funext instruction
  exact instruction.marks?_moved move resolver

section Blocks

variable {resolver : Resolver} {move : Nat → Nat} {block other : BasicBlock}

/-- A relocated block is on the path of the block. -/
theorem kind?_relocated (same : other.instructions = block.instructions.map (·.moved move)) :
    other.kind? resolver = block.kind? resolver := by
  rw [BasicBlock.kind?, same, classify?_map_moved]
  rfl

/-- Each instruction of a canonical relocated block is one of the canonical block, laid out. -/
theorem getElem?_canonical_relocated
    (same : other.instructions = block.instructions.map (·.moved move)) {inner : Nat}
    {instruction : Instruction}
    (inside : (block.canonical resolver).instructions[inner]? = some instruction) :
    ∃ offset, (other.canonical resolver).instructions[inner]? =
      some (instruction.laid move offset) := by
  have path := @kind?_relocated resolver _ _ _ same
  cases found : block.kind? resolver with
  | some kind =>
    rw [instructions_canonical_of_kind? found] at inside
    rw [instructions_canonical_of_kind? (path.trans found)]
    match inner with
    | 0 =>
      cases inside
      refine ⟨other.offset, ?_⟩
      cases kind <;> rfl
    | 1 =>
      cases inside
      exact ⟨other.offset + (Instruction.ldcI4 kind.sentinel).size, rfl⟩
    | inner + 2 => cases inside
  | none =>
    rw [instructions_canonical_of_no_kind found, List.getElem?_map] at inside
    rw [instructions_canonical_of_no_kind (path.trans found), same, List.map_map, List.getElem?_map]
    obtain ⟨original, there, rfl⟩ := Option.map_eq_some_iff.1 inside
    obtain ⟨offset, shape⟩ := original.exists_neutralized_moved move
    rw [there]
    exact ⟨offset, congrArg some shape⟩

/-- A canonical relocated block is as long as the canonical block. -/
theorem length_canonical_relocated
    (same : other.instructions = block.instructions.map (·.moved move)) :
    (other.canonical resolver).instructions.length =
      (block.canonical resolver).instructions.length := by
  have path := @kind?_relocated resolver _ _ _ same
  cases found : block.kind? resolver with
  | some kind =>
    rw [instructions_canonical_of_kind? found, instructions_canonical_of_kind? (path.trans found)]
    rfl
  | none =>
    rw [instructions_canonical_of_no_kind found,
      instructions_canonical_of_no_kind (path.trans found), same, List.length_map, List.length_map,
      List.length_map]

/-- Where control can go on at the end of a canonical block that does not escape, it can go on at
the end of the block. -/
theorem continues_of_canonical (built : ∀ instruction ∈ block.instructions, instruction.IsBuilt)
    (stays : block.kind? resolver = none → ∀ last ∈ block.last?, last.flow.escapes = false)
    {instruction : Instruction} (ends : (block.canonical resolver).last? = some instruction)
    (flow : instruction.flow = .sequential ∨ instruction.flow = .conditional) :
    ∃ last, block.last? = some last ∧ last.flow.continues = true := by
  cases found : block.kind? resolver with
  | some kind =>
    rw [BasicBlock.last?, instructions_canonical_of_kind? found] at ends
    cases ends
    rcases flow with flow | flow <;> cases flow
  | none =>
    rw [BasicBlock.last?_canonical found] at ends
    obtain ⟨last, lasts, rfl⟩ := Option.map_eq_some_iff.1 ends
    refine ⟨last, lasts, ?_⟩
    by_cases drives : last.drivesDispatch = true
    · rw [Instruction.neutralized_of_drivesDispatch drives] at flow
      rcases flow with flow | flow <;> rw [flow] <;> rfl
    · rcases (built last (List.mem_of_getLast? lasts)).flow_of_not_drivesDispatch drives with
        straight | call | escapes
      · rw [straight]
        rfl
      · rw [call]
        rfl
      · rw [stays found last lasts] at escapes
        cases escapes

end Blocks

/-! ## Skeletons in another order -/

/-- The block where a skeleton starts: the first one whose canonical form loads a local variable. -/
def dispatcher? (resolver : Resolver) (blocks : List BasicBlock) : Option BasicBlock :=
  blocks.find? fun block => (block.canonical resolver).instructions.any (·.isLocalLoad)

/-- What stands behind the block where the skeleton starts still stands behind it. -/
def KeepsBehind (resolver : Resolver) (blocks : List BasicBlock) (move : Nat → Nat) : Prop :=
  ∀ first ∈ dispatcher? resolver blocks, ∀ block ∈ blocks, first.offset < block.offset →
    move first.offset < move block.offset

section Skeletons

variable {resolver : Resolver} {kept others : List BasicBlock} {order : List Nat}
  {move : Nat → Nat} {dropped skeleton trimmed copy : List Instruction}

/-- Each instruction of a canonical view in another order is one of the canonical view, laid out. -/
theorem Rearranges.exists_laid (rearranges : Rearranges kept others order move)
    {instruction : Instruction} (member : instruction ∈ joined (canonicalize resolver others)) :
    ∃ original ∈ joined (canonicalize resolver kept), ∃ offset,
      instruction = original.laid move offset := by
  obtain ⟨canonical, inside, member⟩ := List.mem_flatMap.1 member
  obtain ⟨other, listed, rfl⟩ := List.mem_map.1 inside
  obtain ⟨place, there⟩ := List.mem_iff_getElem?.1 listed
  obtain ⟨position, block, -, here, -, same⟩ := rearranges.exists_origin there
  obtain ⟨inner, found⟩ := List.mem_iff_getElem?.1 member
  have within := (List.getElem?_eq_some_iff.1 found).1
  rw [length_canonical_relocated same] at within
  have origin := List.getElem?_eq_getElem within
  obtain ⟨offset, shape⟩ := getElem?_canonical_relocated same origin
  rw [found] at shape
  refine ⟨_, ?_, offset, Option.some.inj shape⟩
  refine List.mem_flatMap.2 ⟨block.canonical resolver, ?_, List.mem_of_getElem? origin⟩
  exact List.mem_map_of_mem (List.mem_of_getElem? here)

/-- In another order every start is found that was found. -/
theorem Rearranges.exists_lastPosition? (rearranges : Rearranges kept others order move)
    (otherView : IsView others) {target index : Nat}
    (found : lastPosition? target (kept.map (·.offset)) = some index) :
    ∃ place, order[place]? = some index ∧
      lastPosition? (move target) (others.map (·.offset)) = some place := by
  have bound := (List.getElem?_eq_some_iff.1 (getElem?_of_lastPosition? found)).1
  rw [List.length_map] at bound
  obtain ⟨place, listed⟩ := rearranges.exists_place bound
  exact ⟨place, listed, rearranges.lastPosition?_move otherView listed found⟩

/-- A canonical view that can be joined can be joined in another order. -/
theorem Rearranges.exists_flattenBlocks (rearranges : Rearranges kept others order move)
    (otherView : IsView others) {flat : List Instruction}
    (joins : flattenBlocks (canonicalize resolver kept) = .ok flat) :
    ∃ flat, flattenBlocks (canonicalize resolver others) = .ok flat := by
  refine ⟨_, flattenBlocks_eq_ok_iff.2 ⟨?_, rfl⟩⟩
  intro instruction member target slot
  obtain ⟨original, inside, offset, rfl⟩ := rearranges.exists_laid member
  change target ∈ (original.mapSlots move).jumpSlots at slot
  rw [Instruction.jumpSlots_mapSlots] at slot
  obtain ⟨old, aimed, rfl⟩ := List.mem_map.1 slot
  obtain ⟨start, moves⟩ := Option.isSome_iff_exists.1
    ((flattenBlocks_eq_ok_iff.1 joins).1 original inside old aimed)
  obtain ⟨index, found, -⟩ := newStart?_eq_some_iff.1 moves
  rw [starts_canonicalize] at found
  obtain ⟨place, -, twin⟩ := rearranges.exists_lastPosition? otherView found
  rw [← starts_canonicalize resolver others] at twin
  exact Option.isSome_iff_exists.2 ⟨_, newStart?_eq_some_iff.2 ⟨place, twin, rfl⟩⟩

/-- Moved instructions of constructors are made by constructors. -/
theorem Rearranges.isBuilt (rearranges : Rearranges kept others order move)
    (built : ∀ instruction ∈ joined kept, instruction.IsBuilt) :
    ∀ instruction ∈ joined others, instruction.IsBuilt := by
  intro instruction member
  rw [rearranges.joined_eq] at member
  obtain ⟨original, inside, rfl⟩ := List.mem_map.1 member
  exact ((built original (rearranges.mem_joined_iff.1 inside)).mapSlots move).placedAt _

/-- In another order there are as many decode blocks. -/
theorem Rearranges.length_decodeKinds (rearranges : Rearranges kept others order move) :
    (decodeKinds resolver others).length = (decodeKinds resolver kept).length := by
  have content := congrArg (List.filterMap fun content : Nat × List Instruction =>
    classify? resolver content.2) rearranges.content
  rw [List.filterMap_map, List.filterMap_map] at content
  have same : (blocksAt kept order).filterMap
      ((fun content : Nat × List Instruction => classify? resolver content.2) ∘
        fun block => (block.relocated move).content) =
      decodeKinds resolver (blocksAt kept order) := by
    apply List.filterMap_congr
    intro block _
    exact classify?_map_moved move resolver block.instructions
  rw [same] at content
  have kinds := (rearranges.perm_blocksAt.filterMap (·.kind? resolver)).length_eq
  exact (congrArg List.length content).trans kinds

variable (rearranges : Rearranges kept others order move) (view : IsView kept)
  (otherView : IsView others) (keeps : KeepsBehind resolver kept move)
  (reduces : Reduces resolver kept dropped skeleton)
include rearranges view otherView keeps reduces

/-- What stands behind the block where the skeleton starts still stands behind it. -/
theorem place_lt_place {first index inner start place : Nat} {block : BasicBlock}
    {instruction : Instruction} (here : kept[first]? = some block)
    (inside : (block.canonical resolver).instructions[inner]? = some instruction)
    (loads : instruction.isLocalLoad = true)
    (begins : dropped.length = placeIn (canonicalize resolver kept) first inner)
    (behind : first < index) (there : order[start]? = some first)
    (listed : order[place]? = some index) : start < place := by
  have dispatches : dispatcher? resolver kept = some block := by
    obtain ⟨bound, same⟩ := List.getElem?_eq_some_iff.1 here
    refine List.find?_eq_some_iff_getElem.2 ⟨?_, first, bound, same, ?_⟩
    · exact List.any_eq_true.2 ⟨instruction, List.mem_of_getElem? inside, loads⟩
    · intro earlier before
      rw [Bool.not_eq_true', ← Bool.not_eq_true]
      intro dispatches
      obtain ⟨load, member, loads⟩ := List.any_eq_true.1 dispatches
      obtain ⟨spot, found⟩ := List.mem_iff_getElem?.1 member
      have known := List.getElem?_eq_getElem (Nat.lt_trans before bound)
      have late := reduces.length_dropped_le known found loads
      have early := placeIn_lt_placeIn
        (@getElem?_canonicalize_of_getElem? resolver _ _ _ known)
        (List.getElem?_eq_some_iff.1 found).1 before inner
      omega
  obtain ⟨later, known⟩ := rearranges.exists_block listed
  have moved := keeps block dispatches later (List.mem_of_getElem? known)
    ((view.offset_lt_iff here known).2 behind)
  obtain ⟨twin, twinHere, starts, -⟩ := rearranges.exists_twin there here
  obtain ⟨other, otherHere, otherStarts, -⟩ := rearranges.exists_twin listed known
  rw [← starts, ← otherStarts] at moved
  exact (otherView.offset_lt_iff twinHere otherHere).1 moved

variable (copies : Reduces resolver others trimmed copy)
include copies

/-- In another order the skeleton starts at the same instruction. -/
theorem exists_start_rearranged (inhabited : skeleton ≠ []) :
    ∃ first start block inner instruction, order[start]? = some first ∧
      kept[first]? = some block ∧
      (block.canonical resolver).instructions[inner]? = some instruction ∧
      instruction.isLocalLoad = true ∧
      dropped.length = placeIn (canonicalize resolver kept) first inner ∧
      trimmed.length = placeIn (canonicalize resolver others) start inner := by
  obtain ⟨first, block, inner, load, here, inside, loads, begins⟩ := reduces.exists_start inhabited
  obtain ⟨start, there⟩ := rearranges.exists_place (List.getElem?_eq_some_iff.1 here).1
  obtain ⟨twin, twinHere, -, same⟩ := rearranges.exists_twin there here
  obtain ⟨offset, twinInside⟩ := getElem?_canonical_relocated same inside
  have twinLoads : (load.laid move offset).isLocalLoad = true := by
    rwa [Instruction.isLocalLoad_laid]
  have early := copies.length_dropped_le twinHere twinInside twinLoads
  have nonempty := copies.ne_nil_of_isLocalLoad twinHere twinInside twinLoads
  obtain ⟨spot, found, depth, final, known, within, finalLoads, ends⟩ := copies.exists_start nonempty
  obtain ⟨index, origin, listed, source, -, form⟩ := rearranges.exists_origin known
  -- what the copy starts at is a load of the view, so it is not in front of the first one
  have depthBound := (List.getElem?_eq_some_iff.1 within).1
  rw [length_canonical_relocated form] at depthBound
  have original := List.getElem?_eq_getElem depthBound
  obtain ⟨_, laid⟩ := getElem?_canonical_relocated form original
  rw [within, Option.some.injEq] at laid
  rw [laid, Instruction.isLocalLoad_laid] at finalLoads
  have late := reduces.length_dropped_le source original finalLoads
  refine ⟨first, start, block, inner, load, there, here, inside, loads, begins, ?_⟩
  rcases Nat.lt_trichotomy first index with behind | equal | before
  · have order := place_lt_place rearranges view otherView keeps reduces here inside loads begins
      behind there listed
    have less := placeIn_lt_placeIn (@getElem?_canonicalize_of_getElem? resolver _ _ _ twinHere)
      (List.getElem?_eq_some_iff.1 twinInside).1 order depth
    omega
  · subst equal
    have places := (rearranges.idxOf_eq there).symm.trans (rearranges.idxOf_eq listed)
    subst places
    simp only [placeIn] at begins late early ends ⊢
    omega
  · have less := placeIn_lt_placeIn (@getElem?_canonicalize_of_getElem? resolver _ _ _ source)
      depthBound before inner
    omega

/-- A front that the skeleton has is one that the skeleton has in another order. -/
theorem length_trimmed_le (inhabited : skeleton ≠ []) {place index : Nat}
    (listed : order[place]? = some index)
    (front : dropped.length ≤ placeIn (canonicalize resolver kept) index 0) :
    trimmed.length ≤ placeIn (canonicalize resolver others) place 0 := by
  obtain ⟨first, start, block, inner, load, there, here, inside, loads, begins, ends⟩ :=
    exists_start_rearranged rearranges view otherView keeps reduces copies inhabited
  have within := (List.getElem?_eq_some_iff.1 inside).1
  obtain ⟨later, known⟩ := rearranges.exists_block listed
  rcases Nat.lt_trichotomy first index with behind | equal | before
  · obtain ⟨twin, twinHere, -, same⟩ := rearranges.exists_twin there here
    have order := place_lt_place rearranges view otherView keeps reduces here inside loads begins
      behind there listed
    have less := placeIn_lt_placeIn (@getElem?_canonicalize_of_getElem? resolver _ _ _ twinHere)
      (by rwa [length_canonical_relocated same]) order 0
    omega
  · subst equal
    have places := (rearranges.idxOf_eq there).symm.trans (rearranges.idxOf_eq listed)
    subst places
    simp only [placeIn] at begins front ends ⊢
    omega
  · have less := placeIn_lt_placeIn (@getElem?_canonicalize_of_getElem? resolver _ _ _ known)
      (length_canonical_pos reduces.inhabited known) before inner
    omega

/-- Cursors in two skeletons are both behind the end, or at the same place of the same block. -/
inductive SamePlace (resolver : Resolver) (kept others : List BasicBlock) (order : List Nat)
    (dropped trimmed : List Instruction) : Nat → Nat → Prop
  | ended {cursor twin : Nat}
      (here : dropped.length + cursor = (joined (canonicalize resolver kept)).length)
      (there : trimmed.length + twin = (joined (canonicalize resolver others)).length) :
      SamePlace resolver kept others order dropped trimmed cursor twin
  | inside {cursor twin index place inner : Nat} {block : BasicBlock}
      (listed : order[place]? = some index) (known : kept[index]? = some block)
      (within : inner < (block.canonical resolver).instructions.length)
      (here : dropped.length + cursor = placeIn (canonicalize resolver kept) index inner)
      (there : trimmed.length + twin = placeIn (canonicalize resolver others) place inner) :
      SamePlace resolver kept others order dropped trimmed cursor twin

omit view otherView keeps copies in
/-- The fronts of a block are the same place. -/
theorem samePlace_front {cursor twin index place : Nat} (listed : order[place]? = some index)
    (here : dropped.length + cursor = placeIn (canonicalize resolver kept) index 0)
    (there : trimmed.length + twin = placeIn (canonicalize resolver others) place 0) :
    SamePlace resolver kept others order dropped trimmed cursor twin := by
  obtain ⟨block, known⟩ := rearranges.exists_block listed
  exact .inside listed known (length_canonical_pos reduces.inhabited known) here there

omit view otherView keeps copies in
/-- Behind the same block is the same place if the block behind it is the one that was. -/
theorem samePlace_behind {cursor twin index place : Nat}
    (next : order[place + 1]? = behind? kept index)
    (front : dropped.length + cursor = placeIn (canonicalize resolver kept) (index + 1) 0)
    (twinFront : trimmed.length + twin =
      placeIn (canonicalize resolver others) (place + 1) 0) :
    SamePlace resolver kept others order dropped trimmed cursor twin := by
  rw [behind?] at next
  by_cases more : index + 1 < kept.length
  · rw [if_pos more] at next
    exact samePlace_front rearranges reduces next front twinFront
  · rw [if_neg more, List.getElem?_eq_none_iff, ← rearranges.length_eq] at next
    rw [placeIn_of_length_le (by rw [canonicalize, List.length_map]; omega)] at front
    rw [placeIn_of_length_le (by rw [canonicalize, List.length_map]; omega)] at twinFront
    exact .ended front twinFront

omit view otherView keeps copies in
/-- Going on leads to the same place where no block escapes: behind the last instruction of a block
is the block that control can go on to, or nothing. -/
theorem samePlace_next {cursor twin index place inner : Nat} {block : BasicBlock}
    {instruction : Instruction} (listed : order[place]? = some index)
    (known : kept[index]? = some block)
    (inside : (block.canonical resolver).instructions[inner]? = some instruction)
    (here : dropped.length + cursor = placeIn (canonicalize resolver kept) index inner)
    (there : trimmed.length + twin = placeIn (canonicalize resolver others) place inner)
    (stays : block.kind? resolver = none → ∀ last ∈ block.last?, last.flow.escapes = false)
    (flow : instruction.flow = .sequential ∨ instruction.flow = .conditional) :
    SamePlace resolver kept others order dropped trimmed (cursor + 1) (twin + 1) := by
  have within := (List.getElem?_eq_some_iff.1 inside).1
  by_cases more : inner + 1 < (block.canonical resolver).instructions.length
  · refine .inside listed known more ?_ ?_
    · rw [← Nat.add_assoc, here]
      rfl
    · rw [← Nat.add_assoc, there]
      rfl
  · have full : inner + 1 = (block.canonical resolver).instructions.length := by omega
    obtain ⟨other, twinHere, -, same⟩ := rearranges.exists_twin listed known
    have front : dropped.length + (cursor + 1) =
        placeIn (canonicalize resolver kept) (index + 1) 0 := by
      rw [placeIn_succ (getElem?_canonicalize_of_getElem? known), ← full, ← Nat.add_assoc, here]
      rfl
    have twinFront : trimmed.length + (twin + 1) =
        placeIn (canonicalize resolver others) (place + 1) 0 := by
      rw [placeIn_succ (getElem?_canonicalize_of_getElem? twinHere),
        length_canonical_relocated same, ← full, ← Nat.add_assoc, there]
      rfl
    have ends : (block.canonical resolver).last? = some instruction := by
      rw [BasicBlock.last?, List.getLast?_eq_getElem?, ← full, Nat.add_sub_cancel, inside]
    have built : ∀ instruction ∈ block.instructions, instruction.IsBuilt := fun instruction member =>
      reduces.built instruction (List.mem_flatMap.2 ⟨block, List.mem_of_getElem? known, member⟩)
    obtain ⟨last, lasts, continues⟩ := continues_of_canonical built stays ends flow
    have next := rearranges.follows place (List.getElem?_eq_some_iff.1 listed).1 index listed last
      (by rw [known]; exact lasts) continues
    exact samePlace_behind rearranges reduces next front twinFront

/-- A jump that lands in the skeleton lands at the same place in another order. -/
theorem exists_samePlace_jump (inhabited : skeleton ≠ []) {instruction : Instruction}
    {old target landed : Nat} (member : instruction ∈ joined (canonicalize resolver kept))
    (twinMember : instruction.laid move old ∈ joined (canonicalize resolver others))
    (aims : instruction.target? = some target)
    (lands : lastPosition? (slotMove (canonicalize resolver kept) target) (offsets skeleton) =
      some landed) :
    ∃ twinLanded, lastPosition? (slotMove (canonicalize resolver others) (move target))
        (offsets copy) = some twinLanded ∧
      SamePlace resolver kept others order dropped trimmed landed twinLanded := by
  have slot := mem_jumpSlots_of_target? aims
  obtain ⟨goal, named, front⟩ := (reduces.lastPosition?_slot member slot).1 lands
  obtain ⟨spot, listed, found⟩ := rearranges.exists_lastPosition? otherView named
  have late := length_trimmed_le rearranges view otherView keeps reduces copies inhabited listed
    (by omega)
  obtain ⟨twinLanded, twinFront⟩ : ∃ twinLanded, trimmed.length + twinLanded =
      placeIn (canonicalize resolver others) spot 0 := ⟨_, Nat.add_sub_of_le late⟩
  have twinSlot : move target ∈ (instruction.laid move old).jumpSlots := by
    show move target ∈ (instruction.mapSlots move).jumpSlots
    rw [Instruction.jumpSlots_mapSlots]
    exact List.mem_map_of_mem slot
  exact ⟨twinLanded, (copies.lastPosition?_slot twinMember twinSlot).2 ⟨spot, found, twinFront⟩,
    samePlace_front rearranges reduces listed front twinFront⟩

/-- Cursors at the same places mirror the runs of a skeleton in its other order. -/
theorem mirrors_samePlace (inhabited : skeleton ≠ [])
    (stays : ∀ block ∈ kept, block.kind? resolver = none → ∀ last ∈ block.last?,
      last.flow.escapes = false) :
    Mirrors skeleton copy (SamePlace resolver kept others order dropped trimmed) where
  fetch := by
    intro cursor twin same
    have size := length_of_flattenBlocks reduces.joins
    have copySize := length_of_flattenBlocks copies.joins
    rw [List.length_append] at size copySize
    cases same with
    | ended here there =>
      left
      constructor <;> rw [List.getElem?_eq_none_iff] <;> omega
    | @inside index place inner block listed known within here there =>
      right
      obtain ⟨other, twinHere, -, form⟩ := rearranges.exists_twin listed known
      have original := List.getElem?_eq_getElem within
      generalize (block.canonical resolver).instructions[inner] = instruction at original
      obtain ⟨old, laid⟩ := getElem?_canonical_relocated form original
      obtain ⟨offset, fetched⟩ := reduces.getElem?_skeleton cursor
      obtain ⟨start, twinFetched⟩ := copies.getElem?_skeleton twin
      have source := @getElem?_canonicalize_of_getElem? resolver _ _ _ known
      have target := @getElem?_canonicalize_of_getElem? resolver _ _ _ twinHere
      have member : instruction ∈ joined (canonicalize resolver kept) :=
        List.mem_flatMap.2 ⟨_, List.mem_of_getElem? source, List.mem_of_getElem? original⟩
      have twinMember : instruction.laid move old ∈ joined (canonicalize resolver others) :=
        List.mem_flatMap.2 ⟨_, List.mem_of_getElem? target, List.mem_of_getElem? laid⟩
      rw [here, getElem?_joined_placeIn source within, original, Option.map_some] at fetched
      rw [there, getElem?_joined_placeIn target (List.getElem?_eq_some_iff.1 laid).1, laid,
        Option.map_some, Instruction.laid_laid] at twinFetched
      refine ⟨instruction, _, _, offset, start, (reduces.skeletal instruction member).1, fetched,
        twinFetched, ?_, ?_⟩
      · exact samePlace_next rearranges reduces listed known original here there
          (stays block (List.mem_of_getElem? known))
      · intro aim landed aims lands
        exact exists_samePlace_jump rearranges view otherView keeps reduces copies inhabited member
          twinMember aims lands

end Skeletons

/-! ## Reading a getter in another order -/

namespace GetterReader

variable {reader : GetterReader} {getter twin : Method} {mapping : TagMapping} {keys : Keys}
  {order : List Nat} {move : Nat → Nat}

/-- A skeleton that a mapping was probed on is not empty. -/
theorem ne_nil_of_probe {skeleton : List Instruction} (probed : reader.probe skeleton = .ok mapping) :
    skeleton ≠ [] := by
  rintro rfl
  obtain ⟨kind, first, -⟩ := exists_of_bind_eq_ok probed
  have ends : (reader.probeRoutine [] 0).emulate = .ok (reader.probeRoutine [] 0).start :=
    runFrom_of_none rfl _
  rw [probeTag, ends] at first
  cases first

/-- A skeleton that is mirrored from its start is probed like its mirror. -/
theorem probe_of_mirrors {skeleton copy : List Instruction} {Paired : Nat → Nat → Prop}
    (mirrors : Mirrors skeleton copy Paired) (start : Paired 0 0)
    (probed : reader.probe skeleton = .ok mapping) : reader.probe copy = .ok mapping := by
  have each {tag : Int32} {kind : ConstantKind} (named : reader.probeTag skeleton tag = .ok kind) :
      reader.probeTag copy tag = .ok kind := by
    unfold probeTag at named ⊢
    cases ends : (reader.probeRoutine skeleton tag).emulate with
    | error fault =>
      rw [ends] at named
      cases named
    | ok after =>
      obtain ⟨result, copyEnds, alike⟩ := @Mirrors.exists_runFrom _ _ _ mirrors _ _ _ _ start
        (reader.probeRoutine skeleton tag).start (reader.probeRoutine copy tag).start after
        rfl rfl ⟨rfl, rfl, rfl, rfl⟩ ends
      have same : (reader.probeRoutine copy tag).emulate = .ok result := copyEnds
      have kinds : kindOfProbe? result = kindOfProbe? after := by
        rw [kindOfProbe?, kindOfProbe?, Context.top?, Context.top?, alike.stack]
      rw [ends] at named
      rw [same]
      dsimp only at named ⊢
      rw [kinds]
      cases found : kindOfProbe? after with
      | none =>
        rw [found] at named
        cases named
      | some path =>
        rw [found] at named
        exact named
  obtain ⟨first, zero, probed⟩ := exists_of_bind_eq_ok probed
  obtain ⟨second, one, probed⟩ := exists_of_bind_eq_ok probed
  obtain ⟨third, two, probed⟩ := exists_of_bind_eq_ok probed
  obtain ⟨fourth, three, probed⟩ := exists_of_bind_eq_ok probed
  rw [probe, each zero, each one, each two, each three]
  exact probed

/-- The entry block stands where it stood in every order that keeps it first. -/
theorem exists_moved_entry (reorders : Reorders (buildBlocks getter.body) order)
    (entry : order[0]? = some 0)
    (body : twin.body = rearranged (buildBlocks getter.body) order move) {block : BasicBlock}
    (here : (buildBlocks getter.body)[0]? = some block) {position : Nat}
    (within : position < block.instructions.length) :
    ∃ instruction, getter.body[position]? = some instruction ∧
      twin.body[position]? = some (instruction.moved move) := by
  have inside := List.getElem?_eq_getElem within
  have first := getElem?_joined_placeIn here within
  have second := @Reorders.getElem?_rearranged _ _ move reorders _ _ _ _ _ entry here inside
  have front (blocks : List BasicBlock) : placeIn blocks 0 position = position := Nat.zero_add _
  rw [joined_buildBlocks, front, inside] at first
  rw [front, ← body] at second
  exact ⟨_, first, second⟩

/-- A moved instruction holds the key that the instruction holds. -/
theorem keyAt_moved {position : Nat} {instruction : Instruction} {value : Int32}
    (old : getter.body[position]? = some instruction)
    (new : twin.body[position]? = some (instruction.moved move))
    (known : keyAt getter position = .ok value) : keyAt twin position = .ok value := by
  rw [keyAt, old, Option.bind_some] at known
  rw [keyAt, new, Option.bind_some, Instruction.int32Literal?_moved]
  cases found : instruction.int32Literal? with
  | none =>
    rw [found] at known
    cases known
  | some literal =>
    rw [found] at known
    cases known
    rfl

/-- A getter that starts with a moved instruction holds its keys where one that starts with the
instruction does. -/
theorem keyPositions_moved {instruction : Instruction}
    (old : getter.body[0]? = some instruction)
    (new : twin.body[0]? = some (instruction.moved move)) :
    reader.keyPositions twin = reader.keyPositions getter := by
  rw [← List.head?_eq_getElem?] at old new
  obtain ⟨rest, shape⟩ := List.head?_eq_some_iff.1 old
  obtain ⟨others, form⟩ := List.head?_eq_some_iff.1 new
  rw [keyPositions, keyPositions, shape, form]
  dsimp only
  rw [Instruction.isModuleLookup, Instruction.calls_moved]
  rfl

/-- The multiplier stands in front of the mask. -/
theorem keyPositions_lt (reader : GetterReader) (getter : Method) :
    (reader.keyPositions getter).1 < (reader.keyPositions getter).2 := by
  unfold keyPositions
  split
  · split <;> decide
  · decide

/-- The keys of a getter are read in every order that keeps the entry block first. -/
theorem readKeys_rearranged (reorders : Reorders (buildBlocks getter.body) order)
    (entry : order[0]? = some 0)
    (body : twin.body = rearranged (buildBlocks getter.body) order move)
    (placed : ∀ block ∈ (buildBlocks getter.body)[0]?,
      (reader.keyPositions getter).2 < block.instructions.length)
    (read : reader.readKeys getter = .ok keys) : reader.readKeys twin = .ok keys := by
  obtain ⟨block, here⟩ := reorders.exists_block entry
  have bound := placed block here
  have moved {position : Nat} (within : position < block.instructions.length) :=
    exists_moved_entry reorders entry body here within
  have literals {position : Nat} {value : Int32} (within : position < block.instructions.length)
      (known : keyAt getter position = .ok value) : keyAt twin position = .ok value := by
    obtain ⟨instruction, old, new⟩ := moved within
    exact keyAt_moved old new known
  have positions : reader.keyPositions twin = reader.keyPositions getter := by
    obtain ⟨instruction, old, new⟩ := moved (Nat.zero_lt_of_lt bound)
    exact keyPositions_moved old new
  have front := Nat.lt_trans (reader.keyPositions_lt getter) bound
  obtain ⟨multiplier, first, read⟩ := exists_of_bind_eq_ok read
  obtain ⟨mask, second, read⟩ := exists_of_bind_eq_ok read
  cases read
  unfold readKeys
  rw [positions]
  show (do
    let multiplier ← keyAt twin (reader.keyPositions getter).1
    let mask ← keyAt twin (reader.keyPositions getter).2
    return ({ multiplier, mask } : Keys)) = _
  rw [literals front first, literals bound second]
  rfl

/-- A getter that is read is read with the same result when its blocks stand in another order with
the entry block first, whatever the offsets become, if everything that stood behind the block where
the skeleton starts still stands behind it, and no live block without a marker leaves a protected
region, throws or ends a handler. -/
theorem resolve_rearranged {kept : List BasicBlock}
    (built : ∀ instruction ∈ getter.body, instruction.IsBuilt)
    (ascending : Ascending getter.body)
    (aims : ∀ instruction ∈ getter.body, ∀ target ∈ instruction.targets,
      target ∈ offsets getter.body)
    (placed : ∀ block ∈ (buildBlocks getter.body)[0]?,
      (reader.keyPositions getter).2 < block.instructions.length)
    (reorders : Reorders (buildBlocks getter.body) order) (entry : order[0]? = some 0)
    (body : twin.body = rearranged (buildBlocks getter.body) order move)
    (settled : Ascending twin.body)
    (pruned : prune? (buildBlocks getter.body) = some kept)
    (keeps : KeepsBehind reader.resolver kept move)
    (stays : ∀ block ∈ kept, block.kind? reader.resolver = none → ∀ last ∈ block.last?,
      last.flow.escapes = false)
    (resolved : reader.resolve getter = .ok (mapping, keys)) :
    reader.resolve twin = .ok (mapping, keys) := by
  obtain ⟨_, read, resolved⟩ := exists_of_bind_eq_ok resolved
  obtain ⟨skeleton, reduced, resolved⟩ := exists_of_bind_eq_ok resolved
  obtain ⟨_, probed, resolved⟩ := exists_of_bind_eq_ok resolved
  cases resolved
  obtain ⟨dropped, reduces⟩ := exists_reduces built pruned reduced
  obtain ⟨three, flat, joins, -⟩ := (dispatchSkeleton_eq_ok_iff pruned).1 reduced
  rw [body] at settled
  -- the live blocks stand in another order, too
  have view := isView_buildBlocks ascending
  have otherView := isView_buildBlocks settled
  have whole := reorders.rearranges_buildBlocks ascending settled aims
  obtain ⟨others, otherPruned⟩ := exists_prune?_buildBlocks
    (rearranged (buildBlocks getter.body) order move)
  rw [← joined_buildBlocks getter.body] at aims
  have rearranges := whole.of_prune? view otherView aims entry pruned otherPruned
  have liveView := view.of_prune? pruned
  have otherLive := otherView.of_prune? otherPruned
  -- so they join, trim and probe alike
  obtain ⟨copyFlat, copyJoins⟩ := rearranges.exists_flattenBlocks otherLive joins
  have copies := reduces_trim (rearranges.isBuilt reduces.built) otherLive.headed.inhabited copyJoins
  have copyReduced : dispatchSkeleton reader.resolver twin.body = .ok (trim copyFlat) := by
    rw [body]
    refine (dispatchSkeleton_eq_ok_iff otherPruned).2 ⟨?_, copyFlat, copyJoins, rfl⟩
    rw [rearranges.length_decodeKinds, three]
  have inhabited := ne_nil_of_probe probed
  obtain ⟨first, start, block, inner, load, there, here, inside, -, begins, copyBegins⟩ :=
    exists_start_rearranged rearranges liveView otherLive keeps reduces copies inhabited
  have mirrors := mirrors_samePlace rearranges liveView otherLive keeps reduces copies inhabited stays
  have copyProbed := probe_of_mirrors mirrors
    (.inside there here (List.getElem?_eq_some_iff.1 inside).1 begins copyBegins) probed
  have copyRead := readKeys_rearranged reorders entry body placed (of_mapError_eq_ok read)
  rw [resolve, copyRead, copyReduced]
  show (do
    let mapping ← reader.probe (trim copyFlat)
    return (mapping, keys)) = _
  rw [copyProbed]
  rfl

end GetterReader

namespace GetterReader.Specimen

/-- A getter whose entry block loads no local variable: it holds the keys and jumps to the
dispatch. -/
def relayed : Method where
  token := ⟨0x06000002⟩
  name := "<Module>::Get"
  body := settle 0
    [.nop, .ldcI4 7, .nop, .ldcI4 9, .branch 0x38 10,
      .ldloc 0, .ldcI4 0, .branch 0x3B 33, .ldloc 0, .ldcI4 1, .branch 0x3B 39,
      .ldloc 0, .ldcI4 2, .branch 0x3B 45, .ldloc 1, .ret,
      .plain Opcode.Code.newarr (.token ⟨0x01000001⟩), .ret,
      .plain Opcode.Code.ldtoken (.token ⟨0x01000002⟩), .ret,
      .call ⟨0x0A000011⟩, .ret]

/-- What the getter says about tags. -/
def relayedMapping : TagMapping := ⟨#v[.number, .object, .string, .default], by decide⟩

/-- The live blocks of the getter. -/
def relayedView : List BasicBlock := (prune? (buildBlocks relayed.body)).getD []

/-- How offsets move when its blocks are laid out in another order, without gaps. -/
def relayedMove (order : List Nat) : Nat → Nat :=
  settledOffset (joined (blocksAt (buildBlocks relayed.body) order))

/-- The getter with its blocks in another order. -/
def reordered (order : List Nat) : Method :=
  { relayed with body := rearranged (buildBlocks relayed.body) order (relayedMove order) }

/-- The getter is made by constructors. -/
theorem isBuilt_relayed : ∀ instruction ∈ relayed.body, instruction.IsBuilt := by
  decide +kernel

/-- The offsets of the getter grow. -/
theorem ascending_relayed : Ascending relayed.body :=
  ascending_settle 0 _ (by decide +kernel)

/-- The jumps of the getter go to its instructions. -/
theorem aims_relayed : ∀ instruction ∈ relayed.body, ∀ target ∈ instruction.targets,
    target ∈ offsets relayed.body := by
  decide +kernel

/-- The getter is resolved as it stands. -/
theorem resolve_relayed : reader.resolve relayed = .ok (relayedMapping, ⟨7, 9⟩) := by
  decide +kernel

/-- The getter has its keys in the first block. -/
theorem keys_relayed : ∀ block ∈ (buildBlocks relayed.body)[0]?,
    (reader.keyPositions relayed).2 < block.instructions.length := by
  decide +kernel

/-- The decode blocks may trade places behind the dispatch. -/
theorem resolve_rearranged_decode_blocks :
    Reorders (buildBlocks relayed.body) [0, 1, 2, 3, 4, 7, 6, 5] ∧
      Ascending (reordered [0, 1, 2, 3, 4, 7, 6, 5]).body ∧
      prune? (buildBlocks relayed.body) = some relayedView ∧
      KeepsBehind reader.resolver relayedView (relayedMove [0, 1, 2, 3, 4, 7, 6, 5]) ∧
      reader.resolve relayed = .ok (relayedMapping, ⟨7, 9⟩) ∧
      reader.resolve (reordered [0, 1, 2, 3, 4, 7, 6, 5]) = .ok (relayedMapping, ⟨7, 9⟩) := by
  have reorders : Reorders (buildBlocks relayed.body) [0, 1, 2, 3, 4, 7, 6, 5] :=
    ⟨by decide +kernel, by decide +kernel⟩
  have settled : Ascending (reordered [0, 1, 2, 3, 4, 7, 6, 5]).body := by
    unfold Ascending
    decide +kernel
  have pruned : prune? (buildBlocks relayed.body) = some relayedView := by decide +kernel
  have keeps : KeepsBehind reader.resolver relayedView (relayedMove [0, 1, 2, 3, 4, 7, 6, 5]) := by
    unfold KeepsBehind
    decide +kernel
  have stays : ∀ block ∈ relayedView, block.kind? reader.resolver = none →
      ∀ last ∈ block.last?, last.flow.escapes = false := by
    decide +kernel
  refine ⟨reorders, settled, pruned, keeps, resolve_relayed, ?_⟩
  exact resolve_rearranged isBuilt_relayed ascending_relayed aims_relayed keys_relayed reorders rfl rfl
    settled pruned keeps stays resolve_relayed

/-- Trimming is there to drop the prologue, but it drops a decode block in front of the dispatch
too, and the dispatch still jumps to it. So not every order that keeps the entry block first, and
what control runs into behind it, keeps what is read. -/
theorem not_resolve_rearranged :
    ¬ ∀ (reader : GetterReader) (getter twin : Method) (order : List Nat) (mapping : TagMapping)
        (keys : Keys),
      (∀ instruction ∈ getter.body, instruction.IsBuilt) → settle 0 getter.body = getter.body →
      (∀ instruction ∈ getter.body, ∀ target ∈ instruction.targets,
        target ∈ offsets getter.body) →
      (∀ block ∈ (buildBlocks getter.body)[0]?,
        (reader.keyPositions getter).2 < block.instructions.length) →
      Reorders (buildBlocks getter.body) order → order[0]? = some 0 →
      twin.body = rearranged (buildBlocks getter.body) order
        (settledOffset (joined (blocksAt (buildBlocks getter.body) order))) →
      settle 0 twin.body = twin.body → reader.resolve getter = .ok (mapping, keys) →
      reader.resolve twin = .ok (mapping, keys) := by
  intro keeps
  have reorders : Reorders (buildBlocks relayed.body) [0, 5, 1, 2, 3, 4, 6, 7] :=
    ⟨by decide +kernel, by decide +kernel⟩
  have read := keeps reader relayed (reordered [0, 5, 1, 2, 3, 4, 6, 7]) [0, 5, 1, 2, 3, 4, 6, 7]
    relayedMapping ⟨7, 9⟩ isBuilt_relayed (by decide +kernel) aims_relayed keys_relayed reorders rfl
    rfl (by decide +kernel) resolve_relayed
  have lost : reader.resolve (reordered [0, 5, 1, 2, 3, 4, 6, 7]) =
      .error (.emulation (.invalidBranchTarget 10)) := by
    decide +kernel
  rw [lost] at read
  cases read

end GetterReader.Specimen

end ConstantRecovery
