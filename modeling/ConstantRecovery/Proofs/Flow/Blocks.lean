import ConstantRecovery.Flow.Splitting
import ConstantRecovery.Proofs.Flow.Joining
import ConstantRecovery.Proofs.Flow.Reaching

/-!
# Views of streams

The block view of a stream has the instructions of the stream, block by block. Where
control can run out of a block it has an edge to the next one, so a search from the
first block never leaves a block behind that control can fall into.
-/

namespace ConstantRecovery

/-- Every block of a view comes from a run of the stream. -/
theorem getElem?_buildBlocks {code : List Instruction} {position : Nat} {block : BasicBlock}
    (here : (buildBlocks code)[position]? = some block) :
    ∃ run starts, run ≠ [] ∧ starts.length = (buildBlocks code).length ∧
      block = blockOfRun starts run position := by
  simp only [buildBlocks, List.getElem?_map, List.getElem?_zipIdx] at here
  obtain ⟨⟨run, number⟩, found, rfl⟩ := Option.map_eq_some_iff.1 here
  obtain ⟨original, inside, same⟩ := Option.map_eq_some_iff.1 found
  obtain ⟨rfl, rfl⟩ := Prod.mk.inj same
  refine ⟨original, _, ?_, ?_, by rw [Nat.zero_add]⟩
  · exact ne_nil_of_mem_cutAt _ _ _ (List.mem_of_getElem? inside)
  · simp [buildBlocks]

/-- A view has the instructions of its stream. -/
theorem joined_buildBlocks (code : List Instruction) : joined (buildBlocks code) = code := by
  simp only [joined, buildBlocks, List.flatMap_map]
  have runs : ∀ (runs : List (List Instruction)) (starts : List Nat) (first : Nat),
      (runs.zipIdx first).flatMap (fun pair => (blockOfRun starts pair.1 pair.2).instructions) =
        runs.flatten := by
    intro runs starts first
    induction runs generalizing first with
    | nil => rfl
    | cons run rest ih =>
      rw [List.zipIdx_cons, List.flatMap_cons, ih]
      rfl
  rw [runs, flatten_cutAt]

/-- The blocks of a view are numbered by their positions. -/
theorem id_of_buildBlocks {code : List Instruction} {position : Nat} {block : BasicBlock}
    (here : (buildBlocks code)[position]? = some block) : block.id = position := by
  obtain ⟨run, starts, -, -, rfl⟩ := getElem?_buildBlocks here
  rfl

/-- The blocks of a view start at the offsets of their first instructions. -/
theorem headed_buildBlocks (code : List Instruction) : Headed (buildBlocks code) := by
  intro block member
  obtain ⟨position, here⟩ := List.mem_iff_getElem?.1 member
  obtain ⟨run, starts, inhabited, -, rfl⟩ := getElem?_buildBlocks here
  cases run with
  | nil => exact absurd rfl inhabited
  | cons head rest => rfl

/-- Control can go on behind an instruction of this flow. -/
def Flow.continues : Flow → Bool
  | .sequential | .call | .conditional | .switch => true
  | _ => false

/-- An instruction that ends no run is straight code. -/
theorem Instruction.continues_of_not_isTerminal {instruction : Instruction}
    (straight : instruction.isTerminal ≠ true) : instruction.flow.continues = true := by
  unfold Instruction.isTerminal at straight
  cases flow : instruction.flow <;> rw [flow] at straight <;>
    first | rfl | exact absurd rfl straight

/-- Where control can go on behind an instruction, an edge leads to the block behind it. -/
theorem mem_edges_of_continues {starts : List Nat} {next : Nat} {last : Instruction}
    (continues : last.flow.continues = true) : next ∈ edges starts (some next) last := by
  have falls (jumps : List Nat) :
      next ∈ jumps ++ (some next).toList.filter (!jumps.contains ·) := by
    rw [List.mem_append]
    by_cases known : next ∈ jumps
    · exact .inl known
    · refine .inr (List.mem_filter.2 ⟨by simp, ?_⟩)
      simpa using known
  unfold edges
  cases flow : last.flow <;> rw [flow] at continues <;> simp only [Flow.continues] at continues <;>
    first
    | exact falls _
    | exact List.mem_singleton.2 rfl
    | cases continues

/-- Where control can run out of a block that has one behind it, an edge leads there. -/
theorem leads_of_continues {code : List Instruction} {position : Nat} {block : BasicBlock}
    {last : Instruction} (here : (buildBlocks code)[position]? = some block)
    (ends : block.last? = some last) (continues : last.flow.continues = true)
    (inside : position + 1 < (buildBlocks code).length) :
    Leads (buildBlocks code) position (position + 1) := by
  refine leads_of_successor here ?_ inside
  obtain ⟨run, starts, -, count, rfl⟩ := getElem?_buildBlocks here
  change run.getLast? = some last at ends
  simp only [blockOfRun, ends, Option.map_some, Option.getD_some]
  rw [if_pos (by omega)]
  exact mem_edges_of_continues continues

/-- The blocks of a view at some positions. -/
def blocksAt (blocks : List BasicBlock) (positions : List Nat) : List BasicBlock :=
  positions.filterMap (blocks[·]?)

/-- The blocks behind a front of a view are those at the positions behind it. -/
theorem blocksAt_range' (front back : List BasicBlock) :
    blocksAt (front ++ back) (List.range' front.length back.length) = back := by
  induction back generalizing front with
  | nil => rfl
  | cons block rest ih =>
    have here : (front ++ block :: rest)[front.length]? = some block := by
      rw [List.getElem?_append_right (Nat.le_refl _), Nat.sub_self]
      rfl
    have later := ih (front ++ [block])
    rw [List.length_append, List.length_singleton, List.append_assoc] at later
    rw [List.length_cons, List.range'_succ, blocksAt, List.filterMap_cons_some here]
    exact congrArg (block :: ·) later

/-- All blocks of a view are those at all of its positions. -/
theorem blocksAt_range (blocks : List BasicBlock) :
    blocksAt blocks (List.range blocks.length) = blocks := by
  rw [List.range_eq_range']
  exact blocksAt_range' [] blocks

/-- A partial map over a list agrees with a total one where it does so on every entry. -/
theorem eq_map_of_mapM_some {α β : Type} {partialMap : α → Option β} {total : α → β}
    (agrees : ∀ item result, partialMap item = some result → result = total item)
    {items : List α} {results : List β} (done : items.mapM partialMap = some results) :
    results = items.map total := by
  induction items generalizing results with
  | nil =>
    cases done
    rfl
  | cons item rest ih =>
    rw [List.mapM_cons] at done
    obtain ⟨result, first, done⟩ := Option.bind_eq_some_iff.1 done
    obtain ⟨others, tail, done⟩ := Option.bind_eq_some_iff.1 done
    cases done
    rw [List.map_cons, agrees item result first, ih tail]

/-- What a block says about its code: where it starts, and its instructions. -/
def BasicBlock.content (block : BasicBlock) : Nat × List Instruction :=
  (block.offset, block.instructions)

/-- A block whose number and edges have new names. -/
def BasicBlock.renamed (rename : Nat → Nat) (block : BasicBlock) : BasicBlock :=
  { block with id := rename block.id, successors := block.successors.map rename }

/-- The position of a survivor among the survivors. -/
def survivorIndex (blocks : List BasicBlock) (position : Nat) : Nat :=
  ((survivors blocks).idxOf? position).getD droppedId

/-- Pruning keeps the survivors, and names each by its position among them. -/
theorem eq_map_of_prune? {blocks kept : List BasicBlock} (done : prune? blocks = some kept) :
    kept = (blocksAt blocks (survivors blocks)).map (·.renamed (survivorIndex blocks)) := by
  have position (old new : Nat)
      (numbered : renumbered? blocks.length (survivors blocks) old = some new) :
      new = survivorIndex blocks old := by
    unfold renumbered? at numbered
    split at numbered
    · exact (Option.some.inj numbered).symm
    · cases numbered
  refine eq_map_of_mapM_some (fun block result renamed => ?_) done
  obtain ⟨number, first, renamed⟩ := Option.bind_eq_some_iff.1 renamed
  obtain ⟨successors, targets, renamed⟩ := Option.bind_eq_some_iff.1 renamed
  cases renamed
  rw [BasicBlock.renamed, ← position _ _ first, ← eq_map_of_mapM_some position targets]

/-- Pruning keeps the content of the blocks it keeps. -/
theorem content_of_prune? {blocks kept : List BasicBlock} (done : prune? blocks = some kept) :
    kept.map (·.content) = (blocksAt blocks (survivors blocks)).map (·.content) := by
  rw [eq_map_of_prune? done, List.map_map]
  rfl

/-- Pruning keeps the instructions of the blocks it keeps. -/
theorem joined_of_prune? {blocks kept : List BasicBlock} (done : prune? blocks = some kept) :
    joined kept = joined (blocksAt blocks (survivors blocks)) := by
  have spread (view : List BasicBlock) :
      joined view = (view.map (·.content)).flatMap (·.2) := by
    rw [List.flatMap_map]
    rfl
  rw [spread, spread, content_of_prune? done]

/-- Pruning keeps blocks at their heads. -/
theorem headed_of_prune? {blocks kept : List BasicBlock} (done : prune? blocks = some kept)
    (headed : Headed blocks) : Headed kept := by
  intro block member
  have known : block.content ∈ kept.map (·.content) := List.mem_map_of_mem member
  rw [content_of_prune? done] at known
  obtain ⟨original, inside, same⟩ := List.mem_map.1 known
  obtain ⟨position, -, here⟩ := List.mem_filterMap.1 inside
  obtain ⟨starts, instructions⟩ := Prod.mk.inj same
  rw [← starts, ← instructions]
  exact headed original (List.mem_of_getElem? here)

/-- Edges lead to positions of the view. -/
theorem lt_of_mem_edges {starts : List Nat} {next : Option Nat} {last : Instruction} {target : Nat}
    (bound : ∀ position ∈ next, position < starts.length)
    (member : target ∈ edges starts next last) : target < starts.length := by
  have jumps : ∀ target, target ∈ (last.targets.filterMap (lastPosition? · starts)).eraseDups →
      target < starts.length := by
    intro target jump
    obtain ⟨offset, -, found⟩ := List.mem_filterMap.1 (List.mem_eraseDups.1 jump)
    exact (List.getElem?_eq_some_iff.1 (getElem?_of_lastPosition? found)).1
  have falls : ∀ target, target ∈ next.toList → target < starts.length := fun target fall =>
    bound target (Option.mem_toList.1 fall)
  unfold edges at member
  split at member
  · exact jumps target member
  · exact jumps target member
  · rcases List.mem_append.1 member with jump | fall
    · exact jumps target jump
    · exact falls target (List.mem_filter.1 fall).1
  · rcases List.mem_append.1 member with jump | fall
    · exact jumps target jump
    · exact falls target (List.mem_filter.1 fall).1
  · cases member
  · cases member
  · cases member
  · exact falls target member
  · exact falls target member

/-- A partial map over a list that succeeds on every entry succeeds. -/
theorem exists_mapM_eq_some {α β : Type} {partialMap : α → Option β} {items : List α}
    (each : ∀ item ∈ items, ∃ result, partialMap item = some result) :
    ∃ results, items.mapM partialMap = some results := by
  induction items with
  | nil => exact ⟨[], rfl⟩
  | cons item rest ih =>
    obtain ⟨here, later⟩ := List.forall_mem_cons.1 each
    obtain ⟨result, first⟩ := here
    obtain ⟨results, others⟩ := ih later
    exact ⟨result :: results, by rw [List.mapM_cons, first, others]; rfl⟩

/-- A partial map over a list that succeeds has succeeded on every entry. -/
theorem exists_of_mapM_eq_some {α β : Type} {partialMap : α → Option β} {items : List α}
    {results : List β} (done : items.mapM partialMap = some results) :
    ∀ item ∈ items, ∃ result, partialMap item = some result := by
  induction items generalizing results with
  | nil => nofun
  | cons item rest ih =>
    rw [List.mapM_cons] at done
    obtain ⟨result, first, done⟩ := Option.bind_eq_some_iff.1 done
    obtain ⟨others, tail, -⟩ := Option.bind_eq_some_iff.1 done
    exact List.forall_mem_cons.2 ⟨⟨result, first⟩, ih tail⟩

/-- A view can be pruned if the numbers and the edges of the blocks that stay are positions. -/
theorem exists_prune?_of_inside {blocks : List BasicBlock}
    (inside : ∀ position block, position ∈ survivors blocks → blocks[position]? = some block →
      block.id < blocks.length ∧ ∀ successor ∈ block.successors, successor < blocks.length) :
    ∃ kept, prune? blocks = some kept := by
  have renumbers {old : Nat} (bound : old < blocks.length) :
      ∃ new, renumbered? blocks.length (survivors blocks) old = some new := ⟨_, if_pos bound⟩
  refine exists_mapM_eq_some fun block member => ?_
  obtain ⟨position, survives, here⟩ := List.mem_filterMap.1 member
  obtain ⟨number, edges⟩ := inside position block survives here
  obtain ⟨id, first⟩ := renumbers number
  obtain ⟨targets, second⟩ := exists_mapM_eq_some fun successor named =>
    renumbers (edges successor named)
  exact ⟨_, by rw [first, second]; rfl⟩

/-- The numbers of the blocks of a view are their positions, and its edges lead to positions. -/
structure Numbered (blocks : List BasicBlock) : Prop where
  /-- A block is numbered by its position. -/
  ids : ∀ (position : Nat) (block : BasicBlock), blocks[position]? = some block →
    block.id = position
  /-- Edges lead to blocks of the view. -/
  inside : ∀ block ∈ blocks, ∀ successor ∈ block.successors, successor < blocks.length

/-- A numbered view can be pruned. -/
theorem Numbered.exists_prune? {blocks : List BasicBlock} (numbered : Numbered blocks) :
    ∃ kept, prune? blocks = some kept := by
  refine exists_prune?_of_inside fun position block _ here => ⟨?_, ?_⟩
  · rw [numbered.ids position block here]
    exact (List.getElem?_eq_some_iff.1 here).1
  · exact numbered.inside block (List.mem_of_getElem? here)

/-- The view of a stream is numbered. -/
theorem numbered_buildBlocks (code : List Instruction) : Numbered (buildBlocks code) where
  ids _ _ := id_of_buildBlocks
  inside block member target successor := by
    obtain ⟨position, here⟩ := List.mem_iff_getElem?.1 member
    obtain ⟨bound, -⟩ := List.getElem?_eq_some_iff.1 here
    obtain ⟨run, starts, -, count, rfl⟩ := getElem?_buildBlocks here
    rw [← count]
    simp only [blockOfRun] at successor
    cases last : run.getLast? with
    | none =>
      rw [last] at successor
      cases successor
    | some final =>
      rw [last, Option.map_some, Option.getD_some] at successor
      refine lt_of_mem_edges ?_ successor
      intro next follows
      split at follows
      · cases follows
        assumption
      · cases follows

/-- The view of a stream can be pruned. -/
theorem exists_prune?_buildBlocks (code : List Instruction) :
    ∃ kept, prune? (buildBlocks code) = some kept :=
  (numbered_buildBlocks code).exists_prune?

/-- Where every block is reached, all survive. -/
theorem survivors_eq_range {blocks : List BasicBlock}
    (reached : ∀ position < blocks.length, Relation.ReflTransGen (Leads blocks) 0 position) :
    survivors blocks = List.range blocks.length := by
  rw [survivors, List.filter_eq_self]
  intro position member
  have inside := List.mem_range.1 member
  have inhabited : blocks ≠ [] := List.length_pos_iff.1 (Nat.zero_lt_of_lt inside)
  have reaches := (mem_reachable_iff inhabited position).2 (reached position inside)
  exact List.contains_iff_mem.2 reaches

/-- Where every block is reached, pruning keeps the content of all. -/
theorem content_of_prune?_of_reached {blocks kept : List BasicBlock}
    (done : prune? blocks = some kept)
    (reached : ∀ position < blocks.length,
      Relation.ReflTransGen (Leads blocks) 0 position) :
    kept.map (·.content) = blocks.map (·.content) := by
  rw [content_of_prune? done, survivors_eq_range reached, blocksAt_range]

end ConstantRecovery
