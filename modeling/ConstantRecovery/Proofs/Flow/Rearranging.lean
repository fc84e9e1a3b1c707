import ConstantRecovery.Proofs.Flow.Cutting
import Mathlib.Data.List.Nodup

/-!
# Views in another order

The blocks of a stream may stand in any order in which each block that control can run out
of is still in front of the one it runs into. The stream of such an order has the same
blocks in its view, in that order, with the same edges between them, so the same blocks
are live, and what pruning leaves is in such an order again.
-/

namespace ConstantRecovery

/-- A block with its start and its instructions moved. -/
def BasicBlock.relocated (move : Nat → Nat) (block : BasicBlock) : BasicBlock :=
  { block with offset := move block.offset, instructions := block.instructions.map (·.moved move) }

/-- An order in which the blocks of a view may stand: each block is there once, and behind one that
control can run out of is the block that was there, or none if none was. -/
structure Reorders (blocks : List BasicBlock) (order : List Nat) : Prop where
  /-- Every block is listed once. -/
  perm : order.Perm (List.range blocks.length)
  /-- A block that goes on to the next one is followed by it. -/
  follows : ∀ place < order.length, ∀ position ∈ order[place]?,
    ∀ last ∈ blocks[position]?.bind (·.last?), last.flow.continues = true →
      order[place + 1]? = behind? blocks position

/-- The stream of a view whose blocks stand in another order, with all offsets moved. -/
def rearranged (blocks : List BasicBlock) (order : List Nat) (move : Nat → Nat) :
    List Instruction :=
  (joined (blocksAt blocks order)).map (·.moved move)

/-- A view has the blocks of another view in an order in which they may stand, relocated. -/
structure Rearranges (blocks others : List BasicBlock) (order : List Nat) (move : Nat → Nat) : Prop
    extends Reorders blocks order where
  /-- Each block has its content, with offsets and jumps following. -/
  content : others.map (·.content) =
    (blocksAt blocks order).map fun block => (block.relocated move).content

/-- A view as the view of an ascending stream is, and as pruning leaves it. -/
structure IsView (blocks : List BasicBlock) : Prop where
  /-- Each block starts where its first instruction does. -/
  headed : Headed blocks
  /-- Edges follow from the last instructions. -/
  wired : Wired blocks
  /-- Offsets grow from block to block. -/
  ascending : Ascending (joined blocks)

/-- The blocks of a stream whose offsets ascend are a view. -/
theorem isView_buildBlocks {code : List Instruction} (ascending : Ascending code) :
    IsView (buildBlocks code) :=
  ⟨headed_buildBlocks code, wired_buildBlocks code, by rwa [joined_buildBlocks]⟩

/-- The live blocks of a view are a view. -/
theorem IsView.of_prune? {blocks kept : List BasicBlock} (view : IsView blocks)
    (done : prune? blocks = some kept) : IsView kept where
  headed := headed_of_prune? done view.headed
  wired := view.wired.of_prune? view.headed view.ascending done
  ascending := by
    rw [joined_of_prune? done]
    exact view.ascending.sublist (joined_sublist (blocksAt_survivors_sublist blocks))

/-- The blocks of a view stand in the order of their starts. -/
theorem IsView.offset_lt_iff {blocks : List BasicBlock} (view : IsView blocks)
    {first second : Nat} {block other : BasicBlock} (here : blocks[first]? = some block)
    (there : blocks[second]? = some other) : block.offset < other.offset ↔ first < second := by
  have ordered := view.headed.starts_pairwise view.ascending
  rw [List.pairwise_map, List.pairwise_iff_getElem] at ordered
  obtain ⟨bound, rfl⟩ := List.getElem?_eq_some_iff.1 here
  obtain ⟨limit, rfl⟩ := List.getElem?_eq_some_iff.1 there
  constructor
  · intro lt
    by_contra other
    rcases Nat.lt_or_eq_of_le (Nat.le_of_not_lt other) with before | equal
    · have less := ordered second first limit bound before
      omega
    · subst equal
      omega
  · exact ordered first second bound limit

/-- Edges lead from positions of a view. -/
theorem Leads.source_lt {blocks : List BasicBlock} {source target : Nat}
    (leads : Leads blocks source target) : source < blocks.length := by
  unfold Leads edgesFrom at leads
  split at leads
  · rename_i here
    exact (List.getElem?_eq_some_iff.1 here).1
  · cases leads

/-- In a wired view an edge leads where the last instruction of a block says. -/
theorem Wired.leads_iff {blocks : List BasicBlock} (wired : Wired blocks) {source target : Nat} :
    Leads blocks source target ↔ target ∈ ruledEdges blocks source := by
  cases here : blocks[source]? with
  | none => simp only [Leads, edgesFrom, ruledEdges, here, Option.bind_none]
  | some block =>
    have rule := wired source block here
    simp only [Leads, edgesFrom, here, List.mem_filter, decide_eq_true_iff, rule,
      and_iff_left_iff_imp]
    intro edge
    unfold ruledEdges at edge
    split at edge
    · have bound := lt_of_mem_edges (fun _ => lt_of_mem_behind?) edge
      rwa [List.length_map] at bound
    · cases edge

/-- What blocks join to is in their content. -/
theorem joined_eq_flatMap_content (blocks : List BasicBlock) :
    joined blocks = (blocks.map (·.content)).flatMap (·.2) := by
  rw [List.flatMap_map]
  rfl

section Orders

variable {blocks : List BasicBlock} {order : List Nat} {move : Nat → Nat}

namespace Reorders

/-- An order of blocks lists their positions and nothing else. -/
theorem mem_iff (reorders : Reorders blocks order) {position : Nat} :
    position ∈ order ↔ position < blocks.length := by
  rw [reorders.perm.mem_iff, List.mem_range]

/-- An order of blocks lists none of them twice. -/
theorem nodup (reorders : Reorders blocks order) : order.Nodup :=
  reorders.perm.nodup_iff.2 List.nodup_range

/-- There is a block at every position that an order lists. -/
theorem exists_block (reorders : Reorders blocks order) {place position : Nat}
    (listed : order[place]? = some position) : ∃ block, blocks[position]? = some block :=
  ⟨_, List.getElem?_eq_getElem (reorders.mem_iff.1 (List.mem_of_getElem? listed))⟩

/-- Every block has a place in an order. -/
theorem exists_place (reorders : Reorders blocks order) {position : Nat}
    (bound : position < blocks.length) : ∃ place : Nat, order[place]? = some position :=
  List.mem_iff_getElem?.1 (reorders.mem_iff.2 bound)

/-- A position has one place in an order. -/
theorem idxOf_eq (reorders : Reorders blocks order) {place position : Nat}
    (here : order[place]? = some position) : order.idxOf position = place := by
  obtain ⟨bound, rfl⟩ := List.getElem?_eq_some_iff.1 here
  exact reorders.nodup.idxOf_getElem place bound

/-- In another order stand the same blocks. -/
theorem perm_blocksAt (reorders : Reorders blocks order) :
    (blocksAt blocks order).Perm blocks := by
  have every := blocksAt_range' [] blocks
  rw [List.length_nil, ← List.range_eq_range', List.nil_append] at every
  have same := reorders.perm.filterMap (blocks[·]?)
  change (blocksAt blocks order).Perm (blocksAt blocks (List.range blocks.length)) at same
  rwa [every] at same

/-- In another order stand the same instructions. -/
theorem mem_joined_iff (reorders : Reorders blocks order) {instruction : Instruction} :
    instruction ∈ joined (blocksAt blocks order) ↔ instruction ∈ joined blocks := by
  simp only [joined, List.mem_flatMap, reorders.perm_blocksAt.mem_iff]

/-- Moving tells the offsets of a view apart if the moved stream ascends. -/
theorem move_inj (reorders : Reorders blocks order)
    (settled : Ascending (rearranged blocks order move)) {first second : Nat}
    (one : first ∈ offsets (joined blocks)) (two : second ∈ offsets (joined blocks))
    (same : move first = move second) : first = second := by
  have shape : offsets (rearranged blocks order move) =
      (offsets (joined (blocksAt blocks order))).map move := by
    rw [rearranged, offsets, offsets, List.map_map, List.map_map]
    rfl
  have nodup : (offsets (rearranged blocks order move)).Nodup := settled.imp Nat.ne_of_lt
  rw [shape] at nodup
  have inside {offset : Nat} (member : offset ∈ offsets (joined blocks)) :
      offset ∈ offsets (joined (blocksAt blocks order)) := by
    obtain ⟨instruction, here, rfl⟩ := List.mem_map.1 member
    exact List.mem_map_of_mem (reorders.mem_joined_iff.2 here)
  exact List.inj_on_of_nodup_map nodup (inside one) (inside two) same

/-- The block at a place of an order. -/
theorem getElem?_blocksAt (reorders : Reorders blocks order) {place position : Nat}
    (here : order[place]? = some position) : (blocksAt blocks order)[place]? = blocks[position]? := by
  rw [ConstantRecovery.getElem?_blocksAt fun other member => reorders.mem_iff.1 member, here,
    Option.bind_some]

/-- A block in its new place is the one whose position is listed there. -/
theorem exists_of_getElem?_blocksAt (reorders : Reorders blocks order) {place : Nat}
    {block : BasicBlock} (there : (blocksAt blocks order)[place]? = some block) :
    ∃ position, order[place]? = some position ∧ blocks[position]? = some block := by
  rw [ConstantRecovery.getElem?_blocksAt fun other member => reorders.mem_iff.1 member] at there
  exact Option.bind_eq_some_iff.1 there

/-- In an order there are as many blocks as it lists. -/
theorem length_blocksAt (reorders : Reorders blocks order) :
    (blocksAt blocks order).length = order.length :=
  ConstantRecovery.length_blocksAt fun _ member => reorders.mem_iff.1 member

end Reorders

/-- Relocated blocks join to a moved stream. -/
theorem joined_relocated (move : Nat → Nat) (blocks : List BasicBlock) :
    joined (blocks.map (·.relocated move)) = (joined blocks).map (·.moved move) := by
  rw [joined, joined, List.flatMap_map, List.map_flatMap]
  rfl

/-- Relocated blocks start where their first instructions do. -/
theorem Headed.relocated {view : List BasicBlock} (headed : Headed view) (move : Nat → Nat) :
    Headed (view.map (·.relocated move)) := by
  intro block member
  obtain ⟨original, inside, rfl⟩ := List.mem_map.1 member
  obtain ⟨head, first, starts⟩ := Option.map_eq_some_iff.1 (headed original inside)
  show (original.instructions.map (·.moved move)).head?.map (·.offset) = some (move original.offset)
  rw [List.head?_map, first, ← starts]
  rfl

end Orders

/-! ## The view of a rearranged stream -/

section Streams

variable {code : List Instruction} {blocks : List BasicBlock} {order : List Nat}
  {move : Nat → Nat}

/-- In a rearranged stream a jump goes to a moved offset if one went to the offset. -/
theorem Reorders.aimed_iff (reorders : Reorders (buildBlocks code) order)
    (settled : Ascending (rearranged (buildBlocks code) order move))
    (aims : ∀ instruction ∈ code, ∀ target ∈ instruction.targets, target ∈ offsets code)
    {offset : Nat} (known : offset ∈ offsets code) :
    Aimed (rearranged (buildBlocks code) order move) (move offset) ↔ Aimed code offset := by
  have whole := joined_buildBlocks code
  constructor
  · rintro ⟨jump, member, target⟩
    obtain ⟨original, inside, rfl⟩ := List.mem_map.1 member
    rw [reorders.mem_joined_iff, whole] at inside
    change move offset ∈ (original.mapSlots move).targets at target
    rw [Instruction.targets_mapSlots] at target
    obtain ⟨old, aimed, same⟩ := List.mem_map.1 target
    have equal := reorders.move_inj settled (by rw [whole]; exact aims original inside old aimed)
      (by rwa [whole]) same
    exact ⟨original, inside, equal ▸ aimed⟩
  · rintro ⟨jump, member, target⟩
    refine ⟨jump.moved move, ?_, ?_⟩
    · refine List.mem_map_of_mem ?_
      rwa [reorders.mem_joined_iff, whole]
    · show move offset ∈ (jump.mapSlots move).targets
      rw [Instruction.targets_mapSlots]
      exact List.mem_map_of_mem target

/-- An instruction of a block stands, moved, at its place in the new order. -/
theorem Reorders.getElem?_rearranged (reorders : Reorders blocks order) {place position inner : Nat}
    {block : BasicBlock} {instruction : Instruction} (there : order[place]? = some position)
    (here : blocks[position]? = some block) (inside : block.instructions[inner]? = some instruction) :
    (rearranged blocks order move)[placeIn (blocksAt blocks order) place inner]? =
      some (instruction.moved move) := by
  have twin := (reorders.getElem?_blocksAt there).trans here
  have within := (List.getElem?_eq_some_iff.1 inside).1
  rw [rearranged, List.getElem?_map, getElem?_joined_placeIn twin within, inside]
  rfl

/-- The front of the next block is behind the last instruction of a block. -/
theorem placeIn_succ_eq {position : Nat} {block : BasicBlock} (here : blocks[position]? = some block)
    (inhabited : block.instructions ≠ []) :
    placeIn blocks (position + 1) 0 =
      placeIn blocks position (block.instructions.length - 1) + 1 := by
  have positive := List.length_pos_iff.2 inhabited
  rw [placeIn_succ here, placeIn, placeIn]
  omega

/-- A block that stands behind one that control runs out of starts where a jump goes. -/
theorem aimed_of_behind (ascending : Ascending code) {position : Nat} {block other : BasicBlock}
    {last head : Instruction} (here : (buildBlocks code)[position]? = some block)
    (ends : block.last? = some last) (straight : last.isTerminal ≠ true)
    (behind : (buildBlocks code)[position + 1]? = some other)
    (first : other.instructions[0]? = some head) :
    head.offset ∈ offsets code ∧ Aimed code head.offset := by
  have inhabited := (headed_buildBlocks code).inhabited block (List.mem_of_getElem? here)
  have positive := List.length_pos_iff.2 inhabited
  have marked := (cutAt_buildBlocks code).front (List.getElem?_eq_some_iff.1 behind).1
  have front := getElem?_joined_placeIn here (by omega : block.instructions.length - 1 < _)
  have back := getElem?_joined_placeIn behind (List.getElem?_eq_some_iff.1 first).1
  rw [Nat.zero_add, placeIn_succ_eq here inhabited] at marked
  rw [joined_buildBlocks, ← List.getLast?_eq_getElem?] at front
  rw [joined_buildBlocks, first, placeIn_succ_eq here inhabited] at back
  refine ⟨List.mem_map_of_mem (List.mem_of_getElem? back), ?_⟩
  rcases (isLeader_iff ascending (front.trans ends) back).1 marked with aimed | terminal
  · exact aimed
  · exact absurd terminal straight

variable (reorders : Reorders (buildBlocks code) order) (ascending : Ascending code)
  (settled : Ascending (rearranged (buildBlocks code) order move))
  (aims : ∀ instruction ∈ code, ∀ target ∈ instruction.targets, target ∈ offsets code)
include reorders ascending settled aims

/-- Inside a block no block starts in the new order. -/
theorem Reorders.not_isLeader_inside {place position inner : Nat} {block : BasicBlock}
    (there : order[place]? = some position) (here : (buildBlocks code)[position]? = some block)
    (within : inner + 1 < block.instructions.length) :
    isLeader (rearranged (buildBlocks code) order move)
      (landingPositions (rearranged (buildBlocks code) order move))
      (placeIn (blocksAt (buildBlocks code) order) place (inner + 1)) = false := by
  have first := List.getElem?_eq_getElem (Nat.lt_of_succ_lt within)
  have second := List.getElem?_eq_getElem within
  have unmarked := (cutAt_buildBlocks code).inside here within
  have front := getElem?_joined_placeIn here (Nat.lt_of_succ_lt within)
  have next := getElem?_joined_placeIn here within
  rw [joined_buildBlocks, first] at front
  rw [joined_buildBlocks, second] at next
  have known : block.instructions[inner + 1].offset ∈ offsets code :=
    List.mem_map_of_mem (List.mem_of_getElem? next)
  rw [Nat.zero_add, ← Bool.not_eq_true] at unmarked
  rw [← Bool.not_eq_true]
  intro marked
  apply unmarked
  refine (isLeader_iff ascending front next).2 ?_
  have leads := (isLeader_iff settled (reorders.getElem?_rearranged there here first)
    (reorders.getElem?_rearranged there here second)).1 marked
  rcases leads with aimed | terminal
  · exact .inl ((reorders.aimed_iff settled aims known).1 aimed)
  · right
    change (block.instructions[inner].mapSlots move).isTerminal = true at terminal
    rwa [Instruction.isTerminal, Instruction.flow_mapSlots] at terminal

/-- Each block but the first starts a block in the new order: a jump goes there, or what is in front
of it ends a run. -/
theorem Reorders.isLeader_front {place : Nat} (bound : place + 1 < order.length) :
    isLeader (rearranged (buildBlocks code) order move)
      (landingPositions (rearranged (buildBlocks code) order move))
      (placeIn (blocksAt (buildBlocks code) order) (place + 1) 0) = true := by
  obtain ⟨position, there⟩ : ∃ position, order[place]? = some position :=
    ⟨_, List.getElem?_eq_getElem (Nat.lt_of_succ_lt bound)⟩
  obtain ⟨next, follows⟩ : ∃ next, order[place + 1]? = some next :=
    ⟨_, List.getElem?_eq_getElem bound⟩
  obtain ⟨block, here⟩ := reorders.exists_block there
  obtain ⟨other, behind⟩ := reorders.exists_block follows
  have headed := headed_buildBlocks code
  have inhabited := headed.inhabited block (List.mem_of_getElem? here)
  obtain ⟨head, first, starts⟩ := Option.map_eq_some_iff.1
    (headed other (List.mem_of_getElem? behind))
  rw [List.head?_eq_getElem?] at first
  have ends := List.getLast?_eq_getLast_of_ne_nil inhabited
  generalize block.instructions.getLast inhabited = final at ends
  have last := List.getLast?_eq_getElem?.symm.trans ends
  have twin := (reorders.getElem?_blocksAt there).trans here
  have fetched := @Reorders.getElem?_rearranged _ _ move reorders _ _ _ _ _ follows behind first
  rw [placeIn_succ_eq twin inhabited] at fetched ⊢
  refine (isLeader_iff settled (reorders.getElem?_rearranged there here last) fetched).2 ?_
  by_cases terminal : final.isTerminal = true
  · right
    show (final.mapSlots move).isTerminal = true
    rwa [Instruction.isTerminal, Instruction.flow_mapSlots]
  · -- control runs into the block behind, so that is the one it was, and a jump goes there
    left
    have continues := Instruction.continues_of_not_isTerminal terminal
    have same := reorders.follows place (Nat.lt_of_succ_lt bound) position there final
      (by rw [here]; exact ends) continues
    rw [follows, behind?] at same
    split at same
    · cases same
      obtain ⟨known, aimed⟩ := aimed_of_behind ascending here ends terminal behind first
      exact (reorders.aimed_iff settled aims known).2 aimed
    · cases same

/-- The view of a rearranged stream has the blocks of the stream in the new order. -/
theorem Reorders.rearranges_buildBlocks : Rearranges (buildBlocks code)
    (buildBlocks (rearranged (buildBlocks code) order move)) order move := by
  let view := (blocksAt (buildBlocks code) order).map (·.relocated move)
  have stream : joined view = rearranged (buildBlocks code) order move := joined_relocated move _
  have headed : Headed view := by
    apply Headed.relocated
    intro block member
    exact headed_buildBlocks code block (reorders.perm_blocksAt.mem_iff.1 member)
  have places (place inner : Nat) : placeIn view place inner =
      placeIn (blocksAt (buildBlocks code) order) place inner := by
    rw [placeIn, placeIn, ← List.map_take, joined_relocated, List.length_map]
  refine ⟨reorders, ?_⟩
  have cut : CutAt (isLeader (joined view) (landingPositions (joined view))) 0
      (view.map (·.instructions)) := by
    rw [stream]
    apply cutAt_of_marked headed.inhabited
    · intro place inner relocated there within
      rw [List.getElem?_map] at there
      obtain ⟨block, here, rfl⟩ := Option.map_eq_some_iff.1 there
      obtain ⟨position, listed, origin⟩ := reorders.exists_of_getElem?_blocksAt here
      rw [Nat.zero_add, places]
      apply reorders.not_isLeader_inside ascending settled aims listed origin
      change inner + 1 < (block.instructions.map (·.moved move)).length at within
      rwa [List.length_map] at within
    · intro place bound
      rw [List.length_map, reorders.length_blocksAt] at bound
      rw [Nat.zero_add, places]
      exact reorders.isLeader_front ascending settled aims bound
  have content := content_buildBlocks_joined headed cut
  rw [stream, List.map_map] at content
  exact content

end Streams

/-! ## Live blocks in another order -/

/-- An order of blocks as an order of the live ones among them, in their numbers there. -/
def liveOrder (blocks others : List BasicBlock) (order : List Nat) : List Nat :=
  (survivors others).map fun place => survivorIndex blocks (order[place]?.getD 0)

namespace Rearranges

variable {blocks others : List BasicBlock} {order : List Nat} {move : Nat → Nat}

/-- The rearranged blocks join to the rearranged stream. -/
theorem joined_eq (rearranges : Rearranges blocks others order move) :
    joined others = rearranged blocks order move := by
  have content := rearranges.content
  change _ = List.map (BasicBlock.content ∘ BasicBlock.relocated move) _ at content
  rw [joined_eq_flatMap_content, content, ← List.map_map, ← joined_eq_flatMap_content,
    joined_relocated]
  rfl

/-- A rearrangement has as many blocks as its order lists. -/
theorem length_eq (rearranges : Rearranges blocks others order move) :
    others.length = order.length := by
  have size := congrArg List.length rearranges.content
  rwa [List.length_map, List.length_map, rearranges.length_blocksAt] at size

/-- The block at a place is that of a position, relocated. -/
theorem exists_origin (rearranges : Rearranges blocks others order move) {place : Nat}
    {other : BasicBlock} (there : others[place]? = some other) :
    ∃ position block, order[place]? = some position ∧ blocks[position]? = some block ∧
      other.offset = move block.offset ∧
      other.instructions = block.instructions.map (·.moved move) := by
  have content := congrArg (·[place]?) rearranges.content
  simp only [List.getElem?_map, there, Option.map_some] at content
  obtain ⟨block, here, same⟩ := Option.map_eq_some_iff.1 content.symm
  obtain ⟨position, listed, origin⟩ := rearranges.exists_of_getElem?_blocksAt here
  obtain ⟨starts, instructions⟩ := Prod.mk.inj same
  exact ⟨position, block, listed, origin, starts.symm, instructions.symm⟩

/-- The block of a position stands, relocated, at its place. -/
theorem exists_twin (rearranges : Rearranges blocks others order move) {place position : Nat}
    {block : BasicBlock} (there : order[place]? = some position)
    (here : blocks[position]? = some block) :
    ∃ other, others[place]? = some other ∧ other.offset = move block.offset ∧
      other.instructions = block.instructions.map (·.moved move) := by
  have bound := (List.getElem?_eq_some_iff.1 there).1
  rw [← rearranges.length_eq] at bound
  have twin := List.getElem?_eq_getElem bound
  obtain ⟨origin, original, listed, source, starts, instructions⟩ := rearranges.exists_origin twin
  rw [there] at listed
  cases listed
  rw [here] at source
  cases source
  exact ⟨_, twin, starts, instructions⟩

/-- A relocated block ends with its last instruction, moved. -/
theorem last?_relocated {block other : BasicBlock} {last : Instruction}
    (same : other.instructions = block.instructions.map (·.moved move))
    (ends : block.last? = some last) : other.last? = some (last.moved move) := by
  change block.instructions.getLast? = some last at ends
  rw [BasicBlock.last?, same, List.getLast?_map, ends]
  rfl

/-- Where control can run out of a block, the block behind it is the one that was. -/
theorem behind?_eq (rearranges : Rearranges blocks others order move) {place position : Nat}
    {last : Instruction} (there : order[place]? = some position)
    (ends : last ∈ blocks[position]?.bind (·.last?)) (continues : last.flow.continues = true) :
    behind? others place = (behind? blocks position).map order.idxOf := by
  have bound := (List.getElem?_eq_some_iff.1 there).1
  rw [← rearranges.follows place bound position there last ends continues, behind?,
    rearranges.length_eq]
  by_cases more : place + 1 < order.length
  · have next := List.getElem?_eq_getElem more
    rw [if_pos more, next, Option.map_some, rearranges.idxOf_eq next]
  · rw [if_neg more, List.getElem?_eq_none (Nat.not_lt.1 more), Option.map_none]

/-- Where control can run out of a block, it can in another order. -/
theorem leads_behind (rearranges : Rearranges blocks others order move) (view : IsView others)
    {place position : Nat} {block : BasicBlock} {last : Instruction}
    (there : order[place]? = some position) (here : blocks[position]? = some block)
    (ends : block.last? = some last) (continues : last.flow.continues = true)
    (more : place + 1 < others.length) : Leads others place (place + 1) := by
  obtain ⟨other, twin, -, instructions⟩ := rearranges.exists_twin there here
  have goesOn : (last.mapSlots move).flow.continues = true := by
    rwa [Instruction.flow_mapSlots]
  exact view.wired.leads_of_continues twin (last?_relocated instructions ends) goesOn more

/-- The start of a block is found, moved, at the place of the block. -/
theorem lastPosition?_move (rearranges : Rearranges blocks others order move)
    (view : IsView others) {place position target : Nat} (there : order[place]? = some position)
    (found : lastPosition? target (blocks.map (·.offset)) = some position) :
    lastPosition? (move target) (others.map (·.offset)) = some place := by
  have named := getElem?_of_lastPosition? found
  rw [List.getElem?_map] at named
  obtain ⟨block, here, rfl⟩ := Option.map_eq_some_iff.1 named
  obtain ⟨other, twin, starts, -⟩ := rearranges.exists_twin there here
  apply lastPosition?_of_ascending (view.headed.starts_pairwise view.ascending)
  rw [List.getElem?_map, twin, Option.map_some, starts]

/-- A moved offset finds the place of the block that the offset finds, and nothing where that finds
nothing. -/
theorem lastPosition?_eq (rearranges : Rearranges blocks others order move) (view : IsView blocks)
    (otherView : IsView others) {target : Nat} (known : target ∈ offsets (joined blocks)) :
    lastPosition? (move target) (others.map (·.offset)) =
      (lastPosition? target (blocks.map (·.offset))).map order.idxOf := by
  apply lastPosition?_rename (otherView.headed.starts_pairwise otherView.ascending)
  · intro goal found
    have named := (List.getElem?_eq_some_iff.1 (getElem?_of_lastPosition? found)).1
    rw [List.length_map] at named
    obtain ⟨spot, listed⟩ := rearranges.exists_place named
    rw [rearranges.idxOf_eq listed]
    exact getElem?_of_lastPosition? (rearranges.lastPosition?_move otherView listed found)
  · intro member
    obtain ⟨entered, inside, same⟩ := List.mem_map.1 member
    obtain ⟨spot, there⟩ := List.mem_iff_getElem?.1 inside
    obtain ⟨goal, origin, -, here, starts, -⟩ := rearranges.exists_origin there
    have start : origin.offset ∈ blocks.map (·.offset) :=
      List.mem_map_of_mem (List.mem_of_getElem? here)
    have settled := otherView.ascending
    rw [rearranges.joined_eq] at settled
    have equal := rearranges.move_inj settled (view.headed.offsets_sublist.subset start) known
      (starts.symm.trans same)
    rwa [equal] at start

variable (rearranges : Rearranges blocks others order move) (view : IsView blocks)
  (otherView : IsView others)
  (aims : ∀ instruction ∈ joined blocks, ∀ target ∈ instruction.targets,
    target ∈ offsets (joined blocks))
include rearranges view otherView aims

/-- In another order a block has the edges it had. -/
theorem ruledEdges_eq {place position : Nat} (there : order[place]? = some position) :
    ruledEdges others place = (ruledEdges blocks position).map order.idxOf := by
  obtain ⟨block, here⟩ := rearranges.exists_block there
  obtain ⟨other, twin, -, instructions⟩ := rearranges.exists_twin there here
  have inhabited := view.headed.inhabited block (List.mem_of_getElem? here)
  have ends : block.last? = some (block.instructions.getLast inhabited) :=
    List.getLast?_eq_getLast_of_ne_nil inhabited
  have inside : block.instructions.getLast inhabited ∈ joined blocks :=
    List.mem_flatMap.2 ⟨block, List.mem_of_getElem? here, List.getLast_mem inhabited⟩
  generalize block.instructions.getLast inhabited = last at ends inside
  rw [ConstantRecovery.ruledEdges_eq twin (last?_relocated instructions ends),
    ConstantRecovery.ruledEdges_eq here ends]
  have edgeBound : ∀ target ∈ edges (blocks.map (·.offset)) (behind? blocks position) last,
      target ∈ order := by
    intro target edge
    have bound := lt_of_mem_edges (fun _ => lt_of_mem_behind?) edge
    rw [List.length_map] at bound
    exact rearranges.mem_iff.2 bound
  apply edges_map (last.flow_mapSlots move) (last.targets_mapSlots move)
  · intro target aimed
    exact rearranges.lastPosition?_eq view otherView (aims last inside target aimed)
  · intro first one second two same
    exact (List.idxOf_inj (edgeBound first one)).1 same
  · exact rearranges.behind?_eq there (by rw [here]; exact ends)

/-- In another order an edge leads from block to block where it did. -/
theorem leads_iff {place position spot goal : Nat} (there : order[place]? = some position)
    (target : order[spot]? = some goal) :
    Leads others place spot ↔ Leads blocks position goal := by
  rw [otherView.wired.leads_iff, view.wired.leads_iff,
    rearranges.ruledEdges_eq view otherView aims there, List.mem_map]
  constructor
  · rintro ⟨edge, member, same⟩
    have leads := view.wired.leads_iff.2 member
    obtain ⟨twin, listed⟩ := rearranges.exists_place leads.lt_length
    rw [rearranges.idxOf_eq listed] at same
    rw [same, target] at listed
    cases listed
    exact member
  · intro member
    exact ⟨goal, member, rearranges.idxOf_eq target⟩

/-- In another order with the same entry block the same blocks are live. -/
theorem mem_survivors_iff (entry : order[0]? = some 0) {place position : Nat}
    (there : order[place]? = some position) :
    place ∈ survivors others ↔ position ∈ survivors blocks := by
  have bound := rearranges.mem_iff.1 (List.mem_of_getElem? there)
  have twinBound : place < others.length := by
    rw [rearranges.length_eq]
    exact (List.getElem?_eq_some_iff.1 there).1
  rw [mem_survivors_iff_path bound, mem_survivors_iff_path twinBound]
  constructor
  · intro path
    induction path generalizing position with
    | refl =>
      rw [entry] at there
      cases there
      exact .refl
    | @tail middle last _ leads ih =>
      have middleBound := leads.source_lt
      rw [rearranges.length_eq] at middleBound
      have listed := List.getElem?_eq_getElem middleBound
      have before := ih listed (rearranges.mem_iff.1 (List.mem_of_getElem? listed)) leads.source_lt
      exact before.tail ((rearranges.leads_iff view otherView aims listed there).1 leads)
  · intro path
    induction path generalizing place with
    | refl =>
      have same := rearranges.idxOf_eq there
      rw [rearranges.idxOf_eq entry] at same
      rw [← same]
    | @tail middle last _ leads ih =>
      obtain ⟨spot, listed⟩ := rearranges.exists_place leads.source_lt
      have spotBound : spot < others.length := by
        rw [rearranges.length_eq]
        exact (List.getElem?_eq_some_iff.1 listed).1
      have before := ih listed leads.source_lt spotBound
      exact before.tail ((rearranges.leads_iff view otherView aims listed there).2 leads)

variable {kept keptOthers : List BasicBlock} (entry : order[0]? = some 0)
  (done : prune? blocks = some kept) (otherDone : prune? others = some keptOthers)
include entry

/-- At a place of the live order is the number of the block that stands there. -/
theorem getElem?_liveOrder {index number : Nat} :
    (liveOrder blocks others order)[index]? = some number ↔
      ∃ place position, (survivors others)[index]? = some place ∧ order[place]? = some position ∧
        (survivors blocks)[number]? = some position := by
  rw [liveOrder, List.getElem?_map, Option.map_eq_some_iff]
  constructor
  · rintro ⟨place, there, same⟩
    have member := List.mem_of_getElem? there
    have bound := lt_of_mem_survivors member
    rw [rearranges.length_eq] at bound
    have listed := List.getElem?_eq_getElem bound
    have live := (rearranges.mem_survivors_iff view otherView aims entry listed).1 member
    obtain ⟨found, survives⟩ := List.mem_iff_getElem?.1 live
    rw [listed, Option.getD_some, survivorIndex_of_getElem? survives] at same
    exact ⟨place, _, there, listed, same ▸ survives⟩
  · rintro ⟨place, position, there, listed, survives⟩
    refine ⟨place, there, ?_⟩
    rw [listed, Option.getD_some, survivorIndex_of_getElem? survives]

/-- The live order lists each live block once. -/
theorem perm_liveOrder :
    (liveOrder blocks others order).Perm (List.range (survivors blocks).length) := by
  have found {index number : Nat} :=
    @getElem?_liveOrder _ _ _ _ rearranges view otherView aims entry index number
  have nodup : (liveOrder blocks others order).Nodup := by
    rw [List.nodup_iff_getElem?_ne_getElem?]
    intro first second lt bound same
    obtain ⟨number, here⟩ : ∃ number, (liveOrder blocks others order)[second]? = some number :=
      ⟨_, List.getElem?_eq_getElem bound⟩
    obtain ⟨place, position, there, listed, survives⟩ := found.1 here
    obtain ⟨spot, goal, earlier, target, again⟩ := found.1 (same.trans here)
    rw [survives] at again
    cases again
    have equal := (rearranges.idxOf_eq target).symm.trans (rearranges.idxOf_eq listed)
    rw [equal, ← there] at earlier
    have inside := (List.getElem?_eq_some_iff.1 there).1
    have unique := survivors_nodup others
    have collapse := (List.getElem?_inj (Nat.lt_trans lt inside) unique).1 earlier
    omega
  apply (List.perm_ext_iff_of_nodup nodup List.nodup_range).2
  intro number
  rw [List.mem_range]
  constructor
  · intro member
    obtain ⟨index, here⟩ := List.mem_iff_getElem?.1 member
    obtain ⟨_, _, -, -, survives⟩ := found.1 here
    exact (List.getElem?_eq_some_iff.1 survives).1
  · intro bound
    have survives := List.getElem?_eq_getElem bound
    have live := List.mem_of_getElem? survives
    obtain ⟨place, listed⟩ := rearranges.exists_place (lt_of_mem_survivors live)
    have twinLive := (rearranges.mem_survivors_iff view otherView aims entry listed).2 live
    obtain ⟨index, there⟩ := List.mem_iff_getElem?.1 twinLive
    exact List.mem_of_getElem? (found.2 ⟨place, _, there, listed, survives⟩)

include done

/-- Behind a live block that control can run out of is the live block that was there. -/
theorem liveOrder_follows {index number position : Nat} {block : BasicBlock} {last : Instruction}
    (here : (liveOrder blocks others order)[index]? = some number)
    (survives : (survivors blocks)[number]? = some position)
    (origin : blocks[position]? = some block) (ends : block.last? = some last)
    (continues : last.flow.continues = true) :
    (liveOrder blocks others order)[index + 1]? = behind? kept number := by
  obtain ⟨place, _, there, listed, again⟩ :=
    (rearranges.getElem?_liveOrder view otherView aims entry).1 here
  rw [survives] at again
  cases again
  have bound := (List.getElem?_eq_some_iff.1 listed).1
  have next := rearranges.follows place bound position listed last (by rw [origin]; exact ends)
    continues
  have leads := view.wired.leads_of_continues origin ends continues
  have twinLeads := rearranges.leads_behind otherView listed origin ends continues
  rw [behind?_of_prune? done survives leads, liveOrder, List.getElem?_map,
    getElem?_survivors_succ there twinLeads, ← next, behind?, rearranges.length_eq]
  by_cases more : place + 1 < order.length
  · rw [if_pos more, List.getElem?_eq_getElem more, Option.map_some, Option.map_some,
      List.getElem?_eq_getElem more, Option.getD_some]
  · rw [if_neg more, List.getElem?_eq_none (Nat.not_lt.1 more), Option.map_none, Option.map_none]

include otherDone

/-- What pruning leaves of blocks in another order are the live blocks in another order. -/
theorem of_prune? : Rearranges kept keptOthers (liveOrder blocks others order) move := by
  have count := length_of_prune? done
  have otherCount := length_of_prune? otherDone
  have reorders : Reorders kept (liveOrder blocks others order) := by
    refine ⟨?_, ?_⟩
    · rw [count]
      exact rearranges.perm_liveOrder view otherView aims entry
    · intro index _ number here last ends continues
      obtain ⟨block, there, ends⟩ := Option.bind_eq_some_iff.1 ends
      obtain ⟨position, original, survives, origin, content, -⟩ :=
        exists_survivor_of_prune? done there
      have same : block.last? = original.last? := by
        rw [BasicBlock.last?, BasicBlock.last?, (Prod.mk.inj content).2]
      exact rearranges.liveOrder_follows view otherView aims entry done here survives origin
        (same ▸ ends) continues
  refine ⟨reorders, List.ext_getElem? fun index => ?_⟩
  rw [List.getElem?_map, List.getElem?_map]
  cases twin : keptOthers[index]? with
  | none =>
    have short := List.getElem?_eq_none_iff.1 twin
    have none : (blocksAt kept (liveOrder blocks others order))[index]? = none := by
      rw [List.getElem?_eq_none_iff, reorders.length_blocksAt, liveOrder, List.length_map,
        ← otherCount]
      exact short
    rw [none]
    rfl
  | some other =>
    obtain ⟨place, original, there, spot, content, -⟩ := exists_survivor_of_prune? otherDone twin
    obtain ⟨position, block, listed, origin, starts, instructions⟩ := rearranges.exists_origin spot
    have live := (rearranges.mem_survivors_iff view otherView aims entry listed).1
      (List.mem_of_getElem? there)
    obtain ⟨number, survives⟩ := List.mem_iff_getElem?.1 live
    have numbered := (rearranges.getElem?_liveOrder view otherView aims entry).2
      ⟨place, position, there, listed, survives⟩
    have bound : number < kept.length := by
      rw [count]
      exact (List.getElem?_eq_some_iff.1 survives).1
    have here := List.getElem?_eq_getElem bound
    obtain ⟨_, source, again, same, view, -⟩ := exists_survivor_of_prune? done here
    rw [survives] at again
    cases again
    rw [origin] at same
    cases same
    rw [reorders.getElem?_blocksAt numbered, here, Option.map_some, Option.map_some, content]
    congr 1
    obtain ⟨offset, code⟩ := Prod.mk.inj view
    show (original.offset, original.instructions) =
      (move kept[number].offset, kept[number].instructions.map (·.moved move))
    rw [starts, instructions, offset, code]

end Rearranges

end ConstantRecovery
