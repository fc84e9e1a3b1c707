import ConstantRecovery.Flow.Reachability
import Mathlib.Data.List.Perm.Subperm
import Mathlib.Logic.Relation

/-!
# What the search reaches

The search returns exactly the positions that a path of edges leads to from the first
block. It is sound because every position it adds is one edge behind one it has, and
complete because it stops only with a set that no edge leaves: a round that finds
nothing new has followed every edge, and there cannot be more rounds with a find than
there are blocks.
-/

namespace ConstantRecovery

/-- An edge of the view leads from one position to another. -/
def Leads (blocks : List BasicBlock) (source target : Nat) : Prop :=
  target ∈ edgesFrom blocks source

/-- Edges lead to positions of the view. -/
theorem Leads.lt_length {blocks : List BasicBlock} {source target : Nat}
    (leads : Leads blocks source target) : target < blocks.length := by
  unfold Leads edgesFrom at leads
  split at leads
  · simpa using (List.mem_filter.1 leads).2
  · cases leads

/-- A successor of a block that is a position is one edge away. -/
theorem leads_of_successor {blocks : List BasicBlock} {source target : Nat} {block : BasicBlock}
    (here : blocks[source]? = some block) (successor : target ∈ block.successors)
    (inside : target < blocks.length) : Leads blocks source target := by
  simp only [Leads, edgesFrom, here]
  exact List.mem_filter.2 ⟨successor, by simpa using inside⟩

/-- Dropping repetitions leaves none. -/
theorem nodup_eraseDups {α : Type} [BEq α] [LawfulBEq α] (items : List α) :
    items.eraseDups.Nodup := by
  induction size : items.length using Nat.strongRecOn generalizing items with
  | ind length ih =>
    cases items with
    | nil => simp
    | cons first rest =>
      rw [List.eraseDups_cons, List.nodup_cons]
      constructor
      · rw [List.mem_eraseDups, List.mem_filter]
        simp
      · have shorter := List.length_filter_le (fun other => !other == first) rest
        rw [List.length_cons] at size
        exact ih _ (by omega) _ rfl

/-- The positions that a round finds: one edge behind the frontier, and new. -/
theorem mem_fresh {blocks : List BasicBlock} {seen frontier : List Nat} {target : Nat} :
    target ∈ ((frontier.flatMap (edgesFrom blocks)).filter (!seen.contains ·)).eraseDups ↔
      (∃ source ∈ frontier, Leads blocks source target) ∧ target ∉ seen := by
  rw [List.mem_eraseDups, List.mem_filter, List.mem_flatMap]
  simp [Leads]

/-- What the search has seen it keeps. -/
theorem mem_explore_of_mem {blocks : List BasicBlock} {rounds : Nat} {seen frontier : List Nat}
    {position : Nat} (member : position ∈ seen) :
    position ∈ explore blocks rounds seen frontier := by
  induction rounds generalizing seen frontier with
  | zero => exact member
  | succ rounds ih =>
    simp only [explore]
    split
    · exact member
    · exact ih (List.mem_append_left _ member)

/-- The search is sound: what it returns lies behind a path from what it had seen. -/
theorem exists_path_of_mem_explore {blocks : List BasicBlock} {rounds : Nat}
    {seen frontier : List Nat} (known : frontier ⊆ seen) {position : Nat}
    (found : position ∈ explore blocks rounds seen frontier) :
    ∃ start ∈ seen, Relation.ReflTransGen (Leads blocks) start position := by
  induction rounds generalizing seen frontier with
  | zero => exact ⟨position, found, .refl⟩
  | succ rounds ih =>
    simp only [explore] at found
    split at found
    · exact ⟨position, found, .refl⟩
    · obtain ⟨start, member, path⟩ := ih (List.subset_append_right _ _) found
      rcases List.mem_append.1 member with old | new
      · exact ⟨start, old, path⟩
      · obtain ⟨⟨source, front, leads⟩, -⟩ := mem_fresh.1 new
        exact ⟨source, known front, .head leads path⟩

/-- The search ends with a set that no edge leaves. The invariant: edges leave the set only from
its frontier, and there are more rounds left than positions not seen. -/
theorem explore_closed {blocks : List BasicBlock} {rounds : Nat} {seen frontier : List Nat}
    (nodup : seen.Nodup) (inside : ∀ position ∈ seen, position < blocks.length)
    (settled : ∀ source ∈ seen, source ∉ frontier →
      ∀ target, Leads blocks source target → target ∈ seen)
    (enough : blocks.length < rounds + seen.length) {source target : Nat}
    (found : source ∈ explore blocks rounds seen frontier) (leads : Leads blocks source target) :
    target ∈ explore blocks rounds seen frontier := by
  induction rounds generalizing seen frontier with
  | zero =>
    -- There would be more positions than blocks.
    have subset : seen ⊆ List.range blocks.length := fun position member =>
      List.mem_range.2 (inside position member)
    have bound := (List.subperm_of_subset nodup subset).length_le
    rw [List.length_range] at bound
    omega
  | succ rounds ih =>
    simp only [explore] at found ⊢
    split at found
    · rename_i nothing
      rw [if_pos nothing]
      by_cases front : source ∈ frontier
      · by_contra missing
        have fresh := mem_fresh.2 ⟨⟨source, front, leads⟩, missing⟩
        rw [List.isEmpty_iff.1 nothing] at fresh
        cases fresh
      · exact settled source found front target leads
    · rename_i something
      rw [if_neg something]
      generalize list :
        ((frontier.flatMap (edgesFrom blocks)).filter (!seen.contains ·)).eraseDups = fresh at *
      have new : ∀ position ∈ fresh, position ∉ seen ∧ position < blocks.length := by
        intro position member
        rw [← list] at member
        obtain ⟨⟨_, -, edge⟩, unseen⟩ := mem_fresh.1 member
        exact ⟨unseen, edge.lt_length⟩
      have positive : 0 < fresh.length := by
        rw [List.length_pos_iff]
        exact fun none => something (by rw [none]; rfl)
      refine ih ?_ ?_ ?_ ?_ found
      · rw [List.nodup_append]
        refine ⟨nodup, list ▸ nodup_eraseDups _, ?_⟩
        rintro position old other member rfl
        exact (new position member).1 old
      · intro position member
        rcases List.mem_append.1 member with old | member
        · exact inside position old
        · exact (new position member).2
      · intro source member old target edge
        rcases List.mem_append.1 member with seenBefore | member
        · by_cases front : source ∈ frontier
          · by_cases known : target ∈ seen
            · exact List.mem_append_left _ known
            · exact List.mem_append_right _ (list ▸ mem_fresh.2 ⟨⟨source, front, edge⟩, known⟩)
          · exact List.mem_append_left _ (settled source seenBefore front target edge)
        · exact absurd member old
      · rw [List.length_append]
        omega

/-- The positions reached are those that a path of edges leads to from the first block. -/
theorem mem_reachable_iff {blocks : List BasicBlock} (inhabited : blocks ≠ []) (position : Nat) :
    position ∈ reachable blocks ↔ Relation.ReflTransGen (Leads blocks) 0 position := by
  have positive : 0 < blocks.length := List.length_pos_iff.2 inhabited
  have unfolded : reachable blocks = explore blocks blocks.length [0] [0] := by
    simp [reachable, inhabited]
  rw [unfolded]
  constructor
  · intro found
    obtain ⟨start, member, path⟩ := exists_path_of_mem_explore (List.Subset.refl _) found
    rw [List.mem_singleton] at member
    exact member ▸ path
  · intro path
    induction path with
    | refl => exact mem_explore_of_mem List.mem_cons_self
    | tail _ leads ih =>
      refine explore_closed ?_ ?_ ?_ ?_ ih leads
      · simp
      · intro other member
        rw [List.mem_singleton] at member
        omega
      · intro source member old
        exact absurd member old
      · rw [List.length_singleton]
        omega

/-- The survivors are the positions reached, in order. -/
theorem mem_survivors_iff {blocks : List BasicBlock} (position : Nat) :
    position ∈ survivors blocks ↔ position < blocks.length ∧ position ∈ reachable blocks := by
  simp [survivors]

/-- What survives is what a path of edges leads to from the first block. -/
theorem mem_survivors_iff_path {blocks : List BasicBlock} {position : Nat}
    (bound : position < blocks.length) :
    position ∈ survivors blocks ↔ Relation.ReflTransGen (Leads blocks) 0 position := by
  have inhabited : blocks ≠ [] := List.length_pos_iff.1 (Nat.zero_lt_of_lt bound)
  rw [mem_survivors_iff, mem_reachable_iff inhabited, and_iff_right bound]

/-- The survivors ascend. -/
theorem survivors_pairwise (blocks : List BasicBlock) :
    (survivors blocks).Pairwise (· < ·) :=
  List.Pairwise.filter _ List.pairwise_lt_range

/-- No block survives twice. -/
theorem survivors_nodup (blocks : List BasicBlock) : (survivors blocks).Nodup :=
  (survivors_pairwise blocks).imp Nat.ne_of_lt

/-- The first block survives. -/
theorem zero_mem_survivors {blocks : List BasicBlock} (inhabited : blocks ≠ []) :
    0 ∈ survivors blocks :=
  (mem_survivors_iff 0).2
    ⟨List.length_pos_iff.2 inhabited, (mem_reachable_iff inhabited 0).2 .refl⟩

/-- No edge leads from a survivor to a block that is dropped. -/
theorem mem_survivors_of_leads {blocks : List BasicBlock} {source target : Nat}
    (kept : source ∈ survivors blocks) (leads : Leads blocks source target) :
    target ∈ survivors blocks := by
  obtain ⟨inside, reached⟩ := (mem_survivors_iff source).1 kept
  have inhabited : blocks ≠ [] := List.length_pos_iff.1 (Nat.zero_lt_of_lt inside)
  have path := (mem_reachable_iff inhabited source).1 reached
  exact (mem_survivors_iff target).2
    ⟨leads.lt_length, (mem_reachable_iff inhabited target).2 (path.tail leads)⟩

end ConstantRecovery
