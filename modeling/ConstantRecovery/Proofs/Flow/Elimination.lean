import ConstantRecovery.Proofs.Flow.Blocks
import ConstantRecovery.Proofs.Machine.Simulation

/-!
# Runs without dead blocks

Dropping the blocks that control does not reach and joining the others changes no run.
A cursor in the stream and one in the joined stream are paired while both are at the
same place of the same survivor. Going on keeps the pair, since an edge leads to the
block behind wherever control can run out of one, and the survivors are closed under
edges: the next survivor is then the next block. A jump keeps it, since the joined view
has a block at each of its slots.
-/

namespace ConstantRecovery

/-- The live code of a stream: its instructions in blocks that control reaches. -/
def liveCode (code : List Instruction) : List Instruction :=
  joined (blocksAt (buildBlocks code) (survivors (buildBlocks code)))

/-- Fewer blocks join to a part of the code. -/
theorem joined_sublist {part blocks : List BasicBlock} (sublist : part.Sublist blocks) :
    (joined part).Sublist (joined blocks) := by
  induction sublist with
  | slnil => exact List.Sublist.refl _
  | cons block _ ih => exact ih.trans (List.sublist_append_right block.instructions _)
  | cons_cons block _ ih => exact (List.Sublist.refl block.instructions).append ih

/-- The survivors of a view are some of its blocks, in their order. -/
theorem blocksAt_survivors_sublist (blocks : List BasicBlock) :
    (blocksAt blocks (survivors blocks)).Sublist blocks := by
  have positions : (survivors blocks).Sublist (List.range blocks.length) := List.filter_sublist
  have part := positions.filterMap (blocks[·]?)
  change (blocksAt _ _).Sublist (blocksAt _ _) at part
  rwa [blocksAt_range] at part

/-- The live code is a part of the code, in its order. -/
theorem liveCode_sublist (code : List Instruction) : (liveCode code).Sublist code := by
  have spread := joined_sublist (blocksAt_survivors_sublist (buildBlocks code))
  rwa [joined_buildBlocks] at spread

/-- Cursors at the same place of the same survivor, or behind the end of both streams. -/
inductive Paired (blocks : List BasicBlock) : Nat → Nat → Prop
  | inside {front back : List Nat} {position inner : Nat} {block : BasicBlock}
      (split : survivors blocks = front ++ position :: back)
      (here : blocks[position]? = some block) (within : inner < block.instructions.length) :
      Paired blocks ((joined (blocks.take position)).length + inner)
        ((joined (blocksAt blocks front)).length + inner)
  | ended : Paired blocks (joined blocks).length
      (joined (blocksAt blocks (survivors blocks))).length

variable {blocks : List BasicBlock}

/-- Positions in a row have the blocks of both parts. -/
theorem blocksAt_append (front back : List Nat) :
    blocksAt blocks (front ++ back) = blocksAt blocks front ++ blocksAt blocks back :=
  List.filterMap_append

/-- The block at the first position comes first. -/
theorem blocksAt_cons {position : Nat} {block : BasicBlock} (back : List Nat)
    (here : blocks[position]? = some block) :
    blocksAt blocks (position :: back) = block :: blocksAt blocks back :=
  List.filterMap_cons_some here

/-- The survivors behind one of them lie behind it. -/
theorem survivors_split {front back : List Nat} {position : Nat}
    (split : survivors blocks = front ++ position :: back) :
    (∀ earlier ∈ front, earlier < position) ∧ (∀ later ∈ back, position < later) ∧
      back.Pairwise (· < ·) := by
  have ascending := survivors_pairwise blocks
  rw [split, List.pairwise_append, List.pairwise_cons] at ascending
  obtain ⟨-, ⟨behind, rest⟩, between⟩ := ascending
  exact ⟨fun earlier member => between earlier member position List.mem_cons_self, behind, rest⟩

/-- Paired cursors are at the same instruction, or both behind the end. -/
theorem Paired.fetch {cursor other : Nat} (paired : Paired blocks cursor other) :
    ((joined blocks)[cursor]? = none ∧
        (joined (blocksAt blocks (survivors blocks)))[other]? = none) ∨
      ∃ instruction, (joined blocks)[cursor]? = some instruction ∧
        (joined (blocksAt blocks (survivors blocks)))[other]? = some instruction := by
  cases paired with
  | ended =>
    exact .inl ⟨List.getElem?_eq_none (Nat.le_refl _), List.getElem?_eq_none (Nat.le_refl _)⟩
  | @inside front back position inner block split here within =>
    refine .inr ⟨block.instructions[inner], ?_, ?_⟩
    · rw [joined_around here, List.getElem?_append_right (Nat.le_add_right _ _),
        Nat.add_sub_cancel_left, List.getElem?_append_left within, List.getElem?_eq_getElem within]
    · rw [split, blocksAt_append, blocksAt_cons back here, joined_append,
        List.getElem?_append_right (Nat.le_add_right _ _), Nat.add_sub_cancel_left]
      show (block.instructions ++ joined (blocksAt blocks back))[inner]? = _
      rw [List.getElem?_append_left within, List.getElem?_eq_getElem within]

/-- The front of a survivor is paired with its front in the joined stream. -/
theorem paired_front (headed : Headed blocks) {front back : List Nat} {position : Nat}
    {block : BasicBlock} (split : survivors blocks = front ++ position :: back)
    (here : blocks[position]? = some block) :
    Paired blocks (joined (blocks.take position)).length
      (joined (blocksAt blocks front)).length := by
  obtain ⟨head, first, -⟩ := headed.getElem?_joined here
  have inhabited : 0 < block.instructions.length := by
    obtain ⟨rest, shape⟩ := List.head?_eq_some_iff.1 first
    rw [shape]
    exact Nat.zero_lt_succ _
  exact .inside split here inhabited

/-- Both streams start together. -/
theorem paired_start (headed : Headed blocks) : Paired blocks 0 0 := by
  by_cases inhabited : blocks = []
  · subst inhabited
    exact .ended
  · obtain ⟨front, back, split⟩ := List.append_of_mem (zero_mem_survivors inhabited)
    have first : front = [] := by
      rw [List.eq_nil_iff_forall_not_mem]
      intro earlier member
      exact Nat.not_lt_zero _ ((survivors_split split).1 earlier member)
    subst first
    have here := List.getElem?_eq_getElem (List.length_pos_iff.2 inhabited)
    exact paired_front headed split here

/-- A survivor that an edge leaves for the block behind it is followed by that block. -/
theorem exists_cons_of_leads {front back : List Nat} {position : Nat}
    (split : survivors blocks = front ++ position :: back)
    (edge : Leads blocks position (position + 1)) :
    ∃ rest, back = (position + 1) :: rest := by
  obtain ⟨earlier, later, ordered⟩ := survivors_split split
  have kept : position ∈ survivors blocks := by
    rw [split]
    exact List.mem_append_right _ List.mem_cons_self
  have member := mem_survivors_of_leads kept edge
  rw [split, List.mem_append, List.mem_cons] at member
  have behind : position + 1 ∈ back := by
    rcases member with member | member | member
    · have bound := earlier _ member
      omega
    · omega
    · exact member
  -- Nothing lies between a position and the next, so the next comes first.
  cases back with
  | nil => cases behind
  | cons next rest =>
    rcases List.mem_cons.1 behind with same | deeper
    · exact ⟨rest, by rw [same]⟩
    · have low := later next List.mem_cons_self
      have high := (List.pairwise_cons.1 ordered).1 _ deeper
      omega

/-- Nothing survives behind the last block. -/
theorem eq_nil_of_length_le {front back : List Nat} {position : Nat}
    (split : survivors blocks = front ++ position :: back) (last : blocks.length ≤ position + 1) :
    back = [] := by
  rw [List.eq_nil_iff_forall_not_mem]
  intro other member
  have low := (survivors_split split).2.1 other member
  have kept : other ∈ survivors blocks := by
    rw [split]
    exact List.mem_append_right _ (List.mem_cons_of_mem _ member)
  have bound := ((mem_survivors_iff other).1 kept).1
  omega

/-- The last instruction of a block is the one in front of the next block, in both streams. -/
theorem length_joined_succ {front : List Nat} {position inner : Nat} {block : BasicBlock}
    (here : blocks[position]? = some block) (full : inner + 1 = block.instructions.length) :
    (joined (blocks.take position)).length + inner + 1 =
        (joined (blocks.take (position + 1))).length ∧
      (joined (blocksAt blocks front)).length + inner + 1 =
        (joined (blocksAt blocks (front ++ [position]))).length := by
  have single : joined [block] = block.instructions := List.flatMap_singleton _ _
  have alone : blocksAt blocks [position] = [block] := blocksAt_cons [] here
  have taken : blocks.take (position + 1) = blocks.take position ++ [block] := by
    rw [List.take_add_one, here, Option.toList_some]
  constructor
  · rw [taken, joined_append, single, List.length_append]
    omega
  · rw [blocksAt_append, alone, joined_append, single, List.length_append]
    omega

/-- Going on keeps cursors paired, where an edge leads on from the end of each block. -/
theorem Paired.next (headed : Headed blocks) {cursor other : Nat}
    (paired : Paired blocks cursor other) {instruction : Instruction}
    (fetched : (joined blocks)[cursor]? = some instruction)
    (edge : ∀ position block, blocks[position]? = some block → block.last? = some instruction →
      position + 1 < blocks.length → Leads blocks position (position + 1)) :
    Paired blocks (cursor + 1) (other + 1) := by
  cases paired with
  | ended =>
    rw [List.getElem?_eq_none (Nat.le_refl _)] at fetched
    cases fetched
  | @inside front back position inner block split here within =>
    by_cases more : inner + 1 < block.instructions.length
    · exact .inside split here more
    · have full : inner + 1 = block.instructions.length := by omega
      have last : block.last? = some instruction := by
        rw [joined_around here, List.getElem?_append_right (Nat.le_add_right _ _),
          Nat.add_sub_cancel_left, List.getElem?_append_left within] at fetched
        rw [BasicBlock.last?, List.getLast?_eq_getElem?, ← fetched]
        congr 1
        omega
      obtain ⟨cursors, others⟩ := @length_joined_succ blocks front position inner block here full
      rw [cursors, others]
      by_cases inside : position + 1 < blocks.length
      · obtain ⟨rest, rfl⟩ := exists_cons_of_leads split (edge position block here last inside)
        have nextSplit : survivors blocks = (front ++ [position]) ++ (position + 1) :: rest := by
          rw [split, List.append_assoc]
          rfl
        exact paired_front headed nextSplit (List.getElem?_eq_getElem inside)
      · have none := eq_nil_of_length_le split (by omega)
        subst none
        rw [List.take_of_length_le (by omega), ← split]
        exact .ended

/-- Where a block of the joined view starts, paired cursors are. -/
theorem exists_paired_of_offset (headed : Headed blocks) {target : Nat}
    (starts : ∃ block ∈ blocksAt blocks (survivors blocks), block.offset = target) :
    ∃ cursor other instruction, Paired blocks cursor other ∧ instruction.offset = target ∧
      (joined blocks)[cursor]? = some instruction ∧
      (joined (blocksAt blocks (survivors blocks)))[other]? = some instruction := by
  obtain ⟨block, member, rfl⟩ := starts
  obtain ⟨position, kept, here⟩ := List.mem_filterMap.1 member
  obtain ⟨front, back, split⟩ := List.append_of_mem kept
  have paired := paired_front headed split here
  obtain ⟨head, -, offset, place⟩ := headed.getElem?_joined here
  rcases paired.fetch with ⟨none, -⟩ | ⟨instruction, first, second⟩
  · rw [none] at place
    cases place
  · rw [place] at first
    cases first
    exact ⟨_, _, head, paired, offset, place, second⟩

/-- The joined survivors of a view are its live code, moved together. -/
theorem eq_moved_liveCode {code moved : List Instruction} {kept : List BasicBlock}
    (ascending : Ascending code) (pruned : prune? (buildBlocks code) = some kept)
    (done : flattenBlocks kept = .ok moved) :
    moved = (liveCode code).map (·.moved (settledOffset (liveCode code))) := by
  have same : joined kept = liveCode code := joined_of_prune? pruned
  have headed := headed_of_prune? pruned (headed_buildBlocks code)
  rw [← same]
  refine headed.eq_moved_of_flattenBlocks ?_ done
  rw [same]
  exact ascending.sublist (liveCode_sublist code)

/-- Paired cursors track the runs of a stream and of its joined survivors. -/
theorem tracks_paired {code moved : List Instruction} {kept : List BasicBlock}
    (built : ∀ instruction ∈ code, instruction.IsBuilt) (ascending : Ascending code)
    (pruned : prune? (buildBlocks code) = some kept) (done : flattenBlocks kept = .ok moved) :
    Tracks code (liveCode code) moved (settledOffset (liveCode code))
      (Paired (buildBlocks code)) := by
  have shape := eq_moved_liveCode ascending pruned done
  have headed := headed_buildBlocks code
  have same : joined kept = liveCode code := joined_of_prune? pruned
  have whole := joined_buildBlocks code
  have fetched {other : Nat} {instruction : Instruction}
      (there : (liveCode code)[other]? = some instruction) :
      moved[other]? = some (instruction.moved (settledOffset (liveCode code))) := by
    rw [shape, List.getElem?_map, there]
    rfl
  refine ⟨?_, ?_, ?_⟩
  · intro cursor other paired
    rcases paired.fetch with ⟨none, otherNone⟩ | ⟨instruction, here, there⟩
    · rw [whole] at none
      refine .inl ⟨none, ?_⟩
      rw [shape, List.getElem?_map]
      exact congrArg _ otherNone
    · rw [whole] at here
      exact .inr ⟨instruction, List.mem_of_getElem? there, here, fetched there⟩
  · intro cursor other instruction paired here flow
    refine paired.next headed (by rwa [whole]) fun position block at_ last inside => ?_
    have continues : instruction.flow.continues = true := by
      rcases flow with flow | flow <;> rw [flow] <;> rfl
    exact leads_of_continues at_ last continues inside
  · intro cursor other instruction target paired here aims
    have live : instruction ∈ joined kept := by
      rw [same]
      rcases paired.fetch with ⟨none, -⟩ | ⟨found, first, second⟩
      · rw [whole, here] at none
        cases none
      · rw [whole, here] at first
        cases first
        exact List.mem_of_getElem? second
    obtain ⟨block, member, starts⟩ :=
      exists_block_of_flattenBlocks done live (mem_jumpSlots_of_target? aims)
    have known : block.content ∈ kept.map (·.content) := List.mem_map_of_mem member
    rw [content_of_prune? pruned] at known
    obtain ⟨original, inside, view⟩ := List.mem_map.1 known
    obtain ⟨place, otherPlace, head, again, offset, first, second⟩ :=
      exists_paired_of_offset headed ⟨original, inside, (Prod.mk.inj view).1.trans starts⟩
    refine ⟨place, otherPlace, ?_, ?_, again⟩
    · rw [whole] at first
      rw [← offset]
      exact ascending.lastPosition? first
    · have positive : ∀ instruction ∈ joined kept, 0 < instruction.size := by
        intro instruction member
        rw [same] at member
        exact (built instruction ((liveCode_sublist code).subset member)).size_pos
      have settled := ascending_of_flattenBlocks done positive
      rw [← offset]
      exact settled.lastPosition? (fetched second)

/-- Dead blocks do not matter: a stream that the constructors made and what is left of it without
dead blocks end alike from every state, under every limit. What is left is the live code, moved
together. -/
theorem sameEnd_emulate_of_flattenBlocks {code moved : List Instruction} {kept : List BasicBlock}
    (built : ∀ instruction ∈ code, instruction.IsBuilt) (ascending : Ascending code)
    (pruned : prune? (buildBlocks code) = some kept) (done : flattenBlocks kept = .ok moved) :
    (liveCode code).Sublist code ∧
      moved = (liveCode code).map (·.moved (settledOffset (liveCode code))) ∧
      ∀ (limits : Limits) (arguments locals : FiniteMap UInt16 Value) (arrays : List (List Int32)),
        SameEnd (liveCode code) (settledOffset (liveCode code))
          (Routine.emulate { code, limits, arguments, locals, arrays })
          (Routine.emulate { code := moved, limits, arguments, locals, arrays }) := by
  refine ⟨liveCode_sublist code, eq_moved_liveCode ascending pruned done, ?_⟩
  intro limits arguments locals arrays
  have tracks := tracks_paired built ascending pruned done
  have start := paired_start (headed_buildBlocks code)
  exact tracks.sameEnd built limits start rfl rfl ⟨rfl, rfl, rfl, rfl⟩

/-- A jump over a dead load gets shorter and ends as before. -/
theorem sameEnd_emulate_of_jump_over_load :
    let code := settle 0 [.branch 0x2B 3, .ldcI4 0, .ldcI4 1, .ret]
    let moved := settle 0 [.branch 0x2B 2, .ldcI4 1, .ret]
    ∃ kept, prune? (buildBlocks code) = some kept ∧ flattenBlocks kept = .ok moved ∧
      ∀ (limits : Limits) (arguments locals : FiniteMap UInt16 Value)
        (arrays : List (List Int32)),
        SameEnd (liveCode code) (settledOffset (liveCode code))
          (Routine.emulate { code, limits, arguments, locals, arrays })
          (Routine.emulate { code := moved, limits, arguments, locals, arrays }) := by
  intro code moved
  have built : ∀ instruction ∈ code, instruction.IsBuilt :=
    Instruction.isBuilt_of_mem_settle (by
      simp only [List.forall_mem_cons]
      exact ⟨Instruction.isBuilt_plain _ _, Instruction.isBuilt_ldcI4 0,
        Instruction.isBuilt_ldcI4 1, Instruction.isBuilt_plain _ _, List.forall_mem_nil _⟩)
  have ascending : Ascending code := ascending_settle 0 _ (by decide)
  have pruned : prune? (buildBlocks code) = some ((prune? (buildBlocks code)).getD []) := by
    decide +kernel
  have done : flattenBlocks ((prune? (buildBlocks code)).getD []) = .ok moved := by
    decide +kernel
  exact ⟨_, pruned, done, (sameEnd_emulate_of_flattenBlocks built ascending pruned done).2.2⟩

end ConstantRecovery
