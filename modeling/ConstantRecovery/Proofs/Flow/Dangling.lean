import ConstantRecovery.Proofs.Flow.Pruning

/-!
# Edges past the end

The search passes over an edge that leads past the end of a view, but every edge of a block that
stays is numbered anew, and there is no new number for what is no position. So a view whose blocks
are numbered by their positions can be pruned exactly when no path of edges from the first block
leaves it. Where the edges of dead blocks lead makes no difference: they are dropped with them.
-/

namespace ConstantRecovery

section Dangling

variable {blocks : List BasicBlock}

/-- No path of named edges leaves the view exactly if no survivor names a position past the end: a
path that leaves it does so from a survivor, by its last edge. -/
theorem paths_inside_iff (inhabited : blocks ≠ []) :
    (∀ position, Relation.ReflTransGen (Names blocks) 0 position → position < blocks.length) ↔
      ∀ source ∈ survivors blocks, ∀ target, Names blocks source target →
        target < blocks.length := by
  constructor
  · intro inside source survives target names
    exact inside target ((mem_survivors_iff_named.1 survives).2.tail names)
  · intro inside position path
    cases path with
    | refl => exact List.length_pos_iff.2 inhabited
    | tail front names =>
      exact inside _ (mem_survivors_iff_named.2 ⟨names.lt_length, front⟩) _ names

/-- A view whose blocks are numbered by their positions can be pruned exactly when no path of named
edges from its first block leaves it. What is left then is exactly what such paths lead to. -/
theorem exists_prune?_iff_paths_inside (inhabited : blocks ≠ [])
    (ids : ∀ (position : Nat) (block : BasicBlock), blocks[position]? = some block →
      block.id = position) :
    ((∃ kept, prune? blocks = some kept) ↔
      ∀ position, Relation.ReflTransGen (Names blocks) 0 position → position < blocks.length) ∧
    ∀ kept, prune? blocks = some kept → ∃ positions,
      (∀ position, position ∈ positions ↔ Relation.ReflTransGen (Names blocks) 0 position) ∧
        KeepsAt blocks kept positions := by
  have defined : (∃ kept, prune? blocks = some kept) ↔
      ∀ position, Relation.ReflTransGen (Names blocks) 0 position → position < blocks.length := by
    rw [paths_inside_iff inhabited]
    constructor
    · rintro ⟨kept, done⟩ source survives target names
      exact lt_of_prune? done survives names
    · intro inside
      refine exists_prune?_of_inside fun position block survives here => ⟨?_, ?_⟩
      · rw [ids position block here]
        exact (List.getElem?_eq_some_iff.1 here).1
      · exact fun successor named => inside position survives successor ⟨block, here, named⟩
  refine ⟨defined, fun kept done =>
    ⟨survivors blocks, fun position => ?_, keepsAt_survivors ids done⟩⟩
  rw [mem_survivors_iff_named]
  exact ⟨And.right, fun path => ⟨defined.1 ⟨kept, done⟩ position path, path⟩⟩

/-- A dead block goes with its edge past the end; the same edge on the block behind it, which is
reached, leaves no result. -/
theorem exists_prune?_iff_paths_inside_of_dead_edge :
    let entry : BasicBlock := ⟨0, 0, [.ldloc 0, .branch 0x2D 4], [2, 2]⟩
    let blocks (dead live : List Nat) : List BasicBlock :=
      [entry, ⟨1, 3, [.nop], dead⟩, ⟨2, 4, [.ret], live⟩]
    (∀ dead live, blocks dead live ≠ [] ∧ ∀ (position : Nat) (block : BasicBlock),
      (blocks dead live)[position]? = some block → block.id = position) ∧
    (∀ position, Relation.ReflTransGen (Names (blocks [7] [])) 0 position → position < 3) ∧
    prune? (blocks [7] []) = some [⟨0, 0, [.ldloc 0, .branch 0x2D 4], [1, 1]⟩, ⟨1, 4, [.ret], []⟩] ∧
    prune? (blocks [] [7]) = none ∧
    ¬ ∀ position, Relation.ReflTransGen (Names (blocks [] [7])) 0 position → position < 3 := by
  intro entry blocks
  have ids : ∀ dead live, blocks dead live ≠ [] ∧ ∀ (position : Nat) (block : BasicBlock),
      (blocks dead live)[position]? = some block → block.id = position := by
    intro dead live
    refine ⟨nofun, fun position block here => ?_⟩
    obtain ⟨bound, -⟩ := List.getElem?_eq_some_iff.1 here
    match position with
    | 0 | 1 | 2 => cases here; rfl
    | _ + 3 => exact absurd bound (by simp [blocks])
  have dropped : prune? (blocks [7] []) =
      some [⟨0, 0, [.ldloc 0, .branch 0x2D 4], [1, 1]⟩, ⟨1, 4, [.ret], []⟩] := by decide +kernel
  have stuck : prune? (blocks [] [7]) = none := by decide +kernel
  have stays := exists_prune?_iff_paths_inside (ids [7] []).1 (ids [7] []).2
  have leaves := exists_prune?_iff_paths_inside (ids [] [7]).1 (ids [] [7]).2
  refine ⟨ids, stays.1.1 ⟨_, dropped⟩, dropped, stuck, fun inside => ?_⟩
  obtain ⟨kept, done⟩ := leaves.1.2 inside
  rw [stuck] at done
  cases done

/-- Not every view whose blocks are numbered by their positions can be pruned: a single block with
an edge to the position behind it is reached, and its edge has no new number. -/
theorem not_exists_prune? :
    ¬ ∀ blocks : List BasicBlock, blocks ≠ [] →
      (∀ (position : Nat) (block : BasicBlock), blocks[position]? = some block →
        block.id = position) →
      ∃ kept, prune? blocks = some kept := by
  intro always
  have ids : ∀ (position : Nat) (block : BasicBlock),
      ([⟨0, 0, [.ret], [1]⟩] : List BasicBlock)[position]? = some block → block.id = position := by
    intro position block here
    cases List.mem_singleton.1 (List.mem_of_getElem? here)
    exact (Nat.lt_one_iff.1 (List.getElem?_eq_some_iff.1 here).1).symm
  obtain ⟨kept, done⟩ := always [⟨0, 0, [.ret], [1]⟩] nofun ids
  have stuck : prune? [⟨0, 0, [.ret], [1]⟩] = none := by decide +kernel
  rw [stuck] at done
  cases done

end Dangling

end ConstantRecovery
