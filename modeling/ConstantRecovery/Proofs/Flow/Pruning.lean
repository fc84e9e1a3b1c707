import ConstantRecovery.Proofs.Flow.Edges

/-!
# Pruning keeps the reachable part of a view

What a view becomes when it is pruned is said here by positions: the positions that a path of
edges leads to from the first block, in their order, are the new numbers of the blocks that stay.
Renumbering is then an isomorphism of what is reached: every edge between survivors is there under
the new numbers, so all that was kept is reached again, and pruning once more finds nothing to drop.
-/

namespace ConstantRecovery

/-- The block at one position has an edge to another position. -/
def Names (blocks : List BasicBlock) (source target : Nat) : Prop :=
  ∃ block, blocks[source]? = some block ∧ target ∈ block.successors

/-- A view has the blocks at some positions of another, in their order. Each is numbered by its
new position, starts where it started and has the instructions it had, and its edges lead, one by
one, to the blocks they led to. -/
structure KeepsAt (blocks kept : List BasicBlock) (positions : List Nat) : Prop where
  /-- The positions are in order. -/
  ordered : positions.Pairwise (· < ·)
  /-- For each position there is a block. -/
  count : kept.length = positions.length
  /-- The block is the one that was at the position, numbered anew. -/
  block : ∀ index position : Nat, positions[index]? = some position →
    ∃ old new : BasicBlock, blocks[position]? = some old ∧ kept[index]? = some new ∧
      new.id = index ∧ new.offset = old.offset ∧ new.instructions = old.instructions ∧
      new.successors.map (positions[·]?) = old.successors.map some

section Pruning

variable {blocks kept : List BasicBlock}

/-- The search follows the edges that blocks name, as far as they stay in the view. -/
theorem leads_iff (source target : Nat) :
    Leads blocks source target ↔ Names blocks source target ∧ target < blocks.length := by
  constructor
  · intro leads
    refine ⟨?_, leads.lt_length⟩
    unfold Leads edgesFrom at leads
    split at leads
    · rename_i block here
      exact ⟨block, here, (List.mem_filter.1 leads).1⟩
    · cases leads
  · rintro ⟨⟨block, here, successor⟩, inside⟩
    exact leads_of_successor here successor inside

/-- Only positions of the view name others. -/
theorem Names.lt_length {source target : Nat} (names : Names blocks source target) :
    source < blocks.length := by
  obtain ⟨block, here, -⟩ := names
  exact (List.getElem?_eq_some_iff.1 here).1

/-- A path of named edges that ends in the view has stayed in it, so the search has followed it. -/
theorem path_iff_of_lt {position : Nat} (inside : position < blocks.length) :
    Relation.ReflTransGen (Leads blocks) 0 position ↔
      Relation.ReflTransGen (Names blocks) 0 position := by
  constructor
  · have narrower : Leads blocks ≤ Names blocks := fun source target leads =>
      ((leads_iff source target).1 leads).1
    exact Relation.ReflTransGen.mono narrower 0 position
  · intro path
    induction path with
    | refl => exact .refl
    | tail _ names ih => exact (ih names.lt_length).tail ((leads_iff _ _).2 ⟨names, inside⟩)

/-- Exactly the positions survive that a path of named edges leads to. -/
theorem mem_survivors_iff_named {position : Nat} :
    position ∈ survivors blocks ↔
      position < blocks.length ∧ Relation.ReflTransGen (Names blocks) 0 position := by
  constructor
  · intro survives
    have bound := ((mem_survivors_iff position).1 survives).1
    exact ⟨bound, (path_iff_of_lt bound).1 ((mem_survivors_iff_path bound).1 survives)⟩
  · rintro ⟨bound, path⟩
    exact (mem_survivors_iff_path bound).2 ((path_iff_of_lt bound).2 path)

/-- What is named behind a survivor and stays in the view survives. -/
theorem mem_survivors_of_names {source target : Nat} (survives : source ∈ survivors blocks)
    (names : Names blocks source target) (inside : target < blocks.length) :
    target ∈ survivors blocks :=
  mem_survivors_of_leads survives ((leads_iff source target).2 ⟨names, inside⟩)

/-- A survivor has a position among the survivors. -/
theorem getElem?_survivorIndex {position : Nat} (member : position ∈ survivors blocks) :
    (survivors blocks)[survivorIndex blocks position]? = some position := by
  obtain ⟨index, here⟩ := List.mem_iff_getElem?.1 member
  rw [survivorIndex_of_getElem? here, here]

/-- The first block is the first survivor. -/
theorem getElem?_survivors_zero (inhabited : blocks ≠ []) : (survivors blocks)[0]? = some 0 := by
  obtain ⟨index, here⟩ := List.mem_iff_getElem?.1 (zero_mem_survivors inhabited)
  obtain ⟨bound, shape⟩ := List.getElem?_eq_some_iff.1 here
  cases index with
  | zero => exact here
  | succ index =>
    have before := List.pairwise_iff_getElem.1 (survivors_pairwise blocks) 0 (index + 1)
      (Nat.zero_lt_of_lt bound) bound (Nat.succ_pos index)
    rw [shape] at before
    cases before

/-- What pruning keeps at an index is the survivor there, under new names. -/
theorem getElem?_of_prune? (done : prune? blocks = some kept) {index position : Nat}
    {block : BasicBlock} (survives : (survivors blocks)[index]? = some position)
    (here : blocks[position]? = some block) :
    kept[index]? = some (block.renamed (survivorIndex blocks)) := by
  rw [eq_map_of_prune? done, List.getElem?_map, getElem?_blocksAt fun _ => lt_of_mem_survivors,
    survives, Option.bind_some, here, Option.map_some]

/-- Each edge between survivors is kept under their new numbers. -/
theorem leads_of_prune? (done : prune? blocks = some kept) {source target : Nat}
    (survives : source ∈ survivors blocks) (leads : Leads blocks source target) :
    Leads kept (survivorIndex blocks source) (survivorIndex blocks target) := by
  have place := getElem?_survivorIndex survives
  have there := getElem?_survivorIndex (mem_survivors_of_leads survives leads)
  obtain ⟨block, here⟩ : ∃ block, blocks[source]? = some block :=
    ⟨_, List.getElem?_eq_getElem (lt_of_mem_survivors survives)⟩
  have named : target ∈ block.successors := by
    simp only [Leads, edgesFrom, here] at leads
    exact (List.mem_filter.1 leads).1
  refine leads_of_successor (getElem?_of_prune? done place here) (List.mem_map_of_mem named) ?_
  rw [length_of_prune? done]
  exact (List.getElem?_eq_some_iff.1 there).1

/-- Everything that pruning keeps is reached in what it leaves. -/
theorem reached_of_prune? (done : prune? blocks = some kept) :
    ∀ index < kept.length, Relation.ReflTransGen (Leads kept) 0 index := by
  intro index inside
  rw [length_of_prune? done] at inside
  have survives := List.getElem?_eq_getElem inside
  generalize (survivors blocks)[index] = position at survives
  have member := List.mem_of_getElem? survives
  have bound := lt_of_mem_survivors member
  have inhabited : blocks ≠ [] := List.length_pos_iff.1 (Nat.zero_lt_of_lt bound)
  have first := survivorIndex_of_getElem? (getElem?_survivors_zero inhabited)
  -- The path to a survivor runs through survivors, and each of its edges is kept.
  have path := (mem_survivors_iff_path bound).1 member
  have carried : position ∈ survivors blocks ∧
      Relation.ReflTransGen (Leads kept) 0 (survivorIndex blocks position) := by
    clear survives member bound
    induction path with
    | refl => exact ⟨zero_mem_survivors inhabited, by rw [first]⟩
    | tail _ leads ih =>
      exact ⟨mem_survivors_of_leads ih.1 leads, ih.2.tail (leads_of_prune? done ih.1 leads)⟩
  rw [← survivorIndex_of_getElem? survives]
  exact carried.2

/-- Pruning leaves a numbered view. -/
theorem Numbered.of_prune? (numbered : Numbered blocks) (done : prune? blocks = some kept) :
    Numbered kept := by
  have origin {index : Nat} {block : BasicBlock} (here : kept[index]? = some block) :
      ∃ position old, (survivors blocks)[index]? = some position ∧ blocks[position]? = some old ∧
        block = old.renamed (survivorIndex blocks) := by
    obtain ⟨position, old, survives, there, -⟩ := exists_survivor_of_prune? done here
    have same := here.symm.trans (getElem?_of_prune? done survives there)
    exact ⟨position, old, survives, there, Option.some.inj same⟩
  constructor
  · intro index block here
    obtain ⟨position, old, survives, there, rfl⟩ := origin here
    rw [BasicBlock.renamed, numbered.ids position old there, survivorIndex_of_getElem? survives]
  · intro block member successor named
    obtain ⟨index, here⟩ := List.mem_iff_getElem?.1 member
    obtain ⟨position, old, survives, there, rfl⟩ := origin here
    obtain ⟨target, edge, rfl⟩ := List.mem_map.1 named
    have inside := numbered.inside old (List.mem_of_getElem? there) target edge
    have place := getElem?_survivorIndex
      (mem_survivors_of_names (List.mem_of_getElem? survives) ⟨old, there, edge⟩ inside)
    rw [length_of_prune? done]
    exact (List.getElem?_eq_some_iff.1 place).1

/-- Pruning changes nothing in a numbered view that is reached as a whole. -/
theorem Numbered.prune?_eq_self (numbered : Numbered blocks)
    (reached : ∀ position < blocks.length, Relation.ReflTransGen (Leads blocks) 0 position) :
    prune? blocks = some blocks := by
  have all := survivors_eq_range reached
  have stays {position : Nat} (inside : position < blocks.length) :
      survivorIndex blocks position = position := by
    apply survivorIndex_of_getElem?
    rw [all, List.getElem?_range inside]
  have same : ∀ block ∈ blocks, block.renamed (survivorIndex blocks) = block := by
    intro block member
    obtain ⟨position, here⟩ := List.mem_iff_getElem?.1 member
    have bound : block.id < blocks.length := by
      rw [numbered.ids position block here]
      exact (List.getElem?_eq_some_iff.1 here).1
    have edges := List.map_congr_left fun successor named =>
      stays (numbered.inside block member successor named)
    rw [BasicBlock.renamed, stays bound, edges, List.map_id']
  obtain ⟨kept, done⟩ := numbered.exists_prune?
  rw [done, eq_map_of_prune? done, all, blocksAt_range, List.map_congr_left same, List.map_id']

/-- Where pruning gives a result, no survivor names a position past the end. -/
theorem lt_of_prune? (done : prune? blocks = some kept) {source target : Nat}
    (survives : source ∈ survivors blocks) (names : Names blocks source target) :
    target < blocks.length := by
  obtain ⟨block, here, named⟩ := names
  have member : block ∈ (survivors blocks).filterMap (blocks[·]?) :=
    List.mem_filterMap.2 ⟨source, survives, here⟩
  obtain ⟨result, renamed⟩ := exists_of_mapM_eq_some done block member
  obtain ⟨number, -, renamed⟩ := Option.bind_eq_some_iff.1 renamed
  obtain ⟨successors, targets, -⟩ := Option.bind_eq_some_iff.1 renamed
  obtain ⟨new, found⟩ := exists_of_mapM_eq_some targets target named
  unfold renumbered? at found
  split at found
  · assumption
  · cases found

/-- What pruning leaves of a view whose blocks are numbered by their positions is its blocks at the
positions that survive. -/
theorem keepsAt_survivors
    (ids : ∀ (position : Nat) (block : BasicBlock), blocks[position]? = some block →
      block.id = position)
    (done : prune? blocks = some kept) : KeepsAt blocks kept (survivors blocks) where
  ordered := survivors_pairwise blocks
  count := length_of_prune? done
  block := by
    intro index position survives
    have member := List.mem_of_getElem? survives
    obtain ⟨old, here⟩ : ∃ old, blocks[position]? = some old :=
      ⟨_, List.getElem?_eq_getElem (lt_of_mem_survivors member)⟩
    refine ⟨old, old.renamed (survivorIndex blocks), here, getElem?_of_prune? done survives here,
      ?_, rfl, rfl, ?_⟩
    · rw [BasicBlock.renamed, ids position old here, survivorIndex_of_getElem? survives]
    · rw [BasicBlock.renamed, List.map_map]
      refine List.map_congr_left fun successor named => ?_
      have names : Names blocks position successor := ⟨old, here, named⟩
      exact getElem?_survivorIndex
        (mem_survivors_of_names member names (lt_of_prune? done member names))

/-- Pruning a numbered view keeps exactly what a path of edges leads to from the first block, and
pruning again keeps everything. -/
theorem prune?_keeps_reached (numbered : Numbered blocks) :
    ∃ kept positions, prune? blocks = some kept ∧
      (∀ position : Nat, position ∈ positions ↔
        position < blocks.length ∧ Relation.ReflTransGen (Names blocks) 0 position) ∧
      KeepsAt blocks kept positions ∧ prune? kept = some kept := by
  obtain ⟨kept, done⟩ := numbered.exists_prune?
  exact ⟨kept, survivors blocks, done, fun _ => mem_survivors_iff_named,
    keepsAt_survivors numbered.ids done,
    (numbered.of_prune? done).prune?_eq_self (reached_of_prune? done)⟩

/-- A loop of two blocks behind an entry that names its edges twice, and two dead blocks that lead
back into it. -/
theorem prune?_keeps_reached_of_loop :
    let blocks : List BasicBlock := [⟨0, 0, [.ldloc 0], [2, 0, 2]⟩, ⟨1, 1, [.nop], [1, 2]⟩,
      ⟨2, 2, [.ldloc 1], [4]⟩, ⟨3, 3, [.nop], [0]⟩, ⟨4, 4, [.ret], [2]⟩]
    Numbered blocks ∧
      (∃ kept positions, prune? blocks = some kept ∧
        (∀ position : Nat, position ∈ positions ↔
          position < blocks.length ∧ Relation.ReflTransGen (Names blocks) 0 position) ∧
        KeepsAt blocks kept positions ∧ prune? kept = some kept) ∧
      prune? blocks = some [⟨0, 0, [.ldloc 0], [1, 0, 1]⟩, ⟨1, 2, [.ldloc 1], [2]⟩,
        ⟨2, 4, [.ret], [1]⟩] := by
  intro blocks
  have numbered : Numbered blocks := by
    constructor
    · intro position block here
      obtain ⟨bound, -⟩ := List.getElem?_eq_some_iff.1 here
      match position with
      | 0 | 1 | 2 | 3 | 4 => cases here; rfl
      | _ + 5 => exact absurd bound (by simp [blocks])
    · decide
  exact ⟨numbered, prune?_keeps_reached numbered, by decide +kernel⟩

end Pruning

end ConstantRecovery
