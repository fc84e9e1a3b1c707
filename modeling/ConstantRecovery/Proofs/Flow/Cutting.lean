import ConstantRecovery.Proofs.Flow.Flattened
import ConstantRecovery.Proofs.Flow.Edges

/-!
# Where a stream is cut

Cutting a stream at the marked positions gives the runs back exactly when each run but the
first starts at a mark and no mark is inside one. In a stream whose offsets ascend the marks
are where a jump lands and behind every instruction that ends a straight run, so they can be
read off the instruction at a position and the one in front of it.
-/

namespace ConstantRecovery

section Runs

variable {α : Type} {marked : Nat → Bool} {position : Nat}

/-- Runs are as the marks cut them: none is empty, no mark is inside one, and each behind the
first starts at a mark. -/
def CutAt (marked : Nat → Bool) : Nat → List (List α) → Prop
  | _, [] => True
  | position, run :: rest =>
    run ≠ [] ∧ (∀ inner, 0 < inner → inner < run.length → marked (position + inner) = false) ∧
      (rest ≠ [] → marked (position + run.length) = true) ∧
      CutAt marked (position + run.length) rest

/-- A run is cut off where the next item is marked, if none inside it is. -/
theorem cutAt_append {run rest : List α} (inhabited : run ≠ [])
    (inside : ∀ step, 0 < step → step < run.length → marked (position + step) = false)
    (boundary : rest = [] ∨ marked (position + run.length) = true) :
    cutAt marked position (run ++ rest) = run :: cutAt marked (position + run.length) rest := by
  induction run generalizing position with
  | nil => exact absurd rfl inhabited
  | cons first others ih =>
    cases others with
    | nil =>
      rw [List.singleton_append, cutAt, List.length_singleton]
      cases cut : cutAt marked (position + 1) rest with
      | nil => rfl
      | cons run runs =>
        have boundary : marked (position + 1) = true := by
          rcases boundary with none | marked
          · rw [none] at cut
            cases cut
          · exact marked
        dsimp only
        rw [if_pos boundary]
    | cons second others =>
      have shift : position + 1 + (second :: others).length =
          position + (first :: second :: others).length := by
        simp only [List.length_cons]
        omega
      have unmarked : marked (position + 1) = false := by
        refine inside 1 (by decide) ?_
        simp only [List.length_cons]
        omega
      have later := @ih (position + 1) (List.cons_ne_nil _ _) (by
        intro step positive within
        rw [Nat.add_assoc, Nat.add_comm 1]
        refine inside (step + 1) (by omega) ?_
        rw [List.length_cons]
        omega) (by rwa [shift])
      rw [List.cons_append, cutAt, later, unmarked, shift]
      rfl

/-- Runs that are as the marks cut them are cut again from what they join to. -/
theorem CutAt.cutAt_flatten {runs : List (List α)} (cut : CutAt marked position runs) :
    cutAt marked position runs.flatten = runs := by
  induction runs generalizing position with
  | nil => rfl
  | cons run rest ih =>
    obtain ⟨inhabited, inside, boundary, later⟩ := cut
    have next : rest.flatten = [] ∨ marked (position + run.length) = true := by
      by_cases last : rest = []
      · exact .inl (by rw [last]; rfl)
      · exact .inr (boundary last)
    rw [List.flatten_cons, cutAt_append inhabited inside next, ih later]

/-- Cutting gives runs that are as the marks cut them. -/
theorem cutAt_cutAt (marked : Nat → Bool) (position : Nat) (items : List α) :
    CutAt marked position (cutAt marked position items) := by
  induction items generalizing position with
  | nil => trivial
  | cons first rest ih =>
    have tail := ih (position + 1)
    have alone : ∀ inner, 0 < inner → inner < [first].length → marked (position + inner) = false := by
      intro inner positive within
      rw [List.length_singleton] at within
      omega
    rw [cutAt]
    cases cut : cutAt marked (position + 1) rest with
    | nil => exact ⟨List.cons_ne_nil _ _, alone, fun other => absurd rfl other, trivial⟩
    | cons run runs =>
      rw [cut] at tail
      dsimp only
      by_cases mark : marked (position + 1) = true
      · rw [if_pos mark]
        exact ⟨List.cons_ne_nil _ _, alone, fun _ => mark, tail⟩
      · rw [if_neg mark]
        obtain ⟨-, inside, boundary, later⟩ := tail
        have shift : position + 1 + run.length = position + (first :: run).length := by
          rw [List.length_cons]
          omega
        rw [shift] at boundary later
        refine ⟨List.cons_ne_nil _ _, ?_, boundary, later⟩
        intro inner positive within
        by_cases second : inner = 1
        · rw [second]
          exact Bool.eq_false_iff.2 mark
        · have before := inside (inner - 1) (by omega) (by rw [List.length_cons] at within; omega)
          rwa [show position + 1 + (inner - 1) = position + inner by omega] at before

end Runs

section Views

variable {marked : Nat → Bool} {position : Nat} {view : List BasicBlock}

/-- No mark is inside a block. -/
theorem CutAt.inside (cut : CutAt marked position (view.map (·.instructions))) {index inner : Nat}
    {block : BasicBlock} (here : view[index]? = some block)
    (within : inner + 1 < block.instructions.length) :
    marked (position + placeIn view index (inner + 1)) = false := by
  induction view generalizing position index with
  | nil => cases here
  | cons first rest ih =>
    obtain ⟨-, unmarked, -, later⟩ := cut
    cases index with
    | zero =>
      cases here
      have front := unmarked (inner + 1) (Nat.succ_pos _) within
      rwa [← Nat.zero_add (inner + 1)] at front
    | succ index =>
      rw [placeIn_cons_succ, ← Nat.add_assoc]
      exact ih later here

/-- Each block behind the first starts at a mark. -/
theorem CutAt.front (cut : CutAt marked position (view.map (·.instructions))) {index : Nat}
    (bound : index + 1 < view.length) :
    marked (position + placeIn view (index + 1) 0) = true := by
  induction view generalizing position index with
  | nil => cases bound
  | cons first rest ih =>
    obtain ⟨-, -, boundary, later⟩ := cut
    rw [List.length_cons] at bound
    rw [placeIn_cons_succ, ← Nat.add_assoc]
    cases index with
    | zero =>
      have more : rest ≠ [] := List.length_pos_iff.1 (by omega)
      exact boundary fun none => more (List.map_eq_nil_iff.1 none)
    | succ index => exact ih later (by omega)

/-- Blocks that are not empty, have no mark inside and start at marks are as the marks cut them. -/
theorem cutAt_of_marked (inhabited : Inhabited view)
    (inside : ∀ index inner block, view[index]? = some block →
      inner + 1 < block.instructions.length →
        marked (position + placeIn view index (inner + 1)) = false)
    (front : ∀ index, index + 1 < view.length →
      marked (position + placeIn view (index + 1) 0) = true) :
    CutAt marked position (view.map (·.instructions)) := by
  induction view generalizing position with
  | nil => trivial
  | cons first rest ih =>
    have shift (index inner : Nat) : position + placeIn (first :: rest) (index + 1) inner =
        position + first.instructions.length + placeIn rest index inner := by
      rw [placeIn_cons_succ, Nat.add_assoc]
    refine ⟨inhabited first List.mem_cons_self, ?_, ?_, ?_⟩
    · intro inner positive within
      change inner < first.instructions.length at within
      have before := inside 0 (inner - 1) first rfl (by omega)
      have place : placeIn (first :: rest) 0 (inner - 1 + 1) = inner := by
        rw [Nat.sub_add_cancel positive]
        exact Nat.zero_add _
      rwa [place] at before
    · intro more
      have bound : 0 < rest.length :=
        List.length_pos_iff.2 fun none => more (List.map_eq_nil_iff.2 none)
      have next := front 0 (by rw [List.length_cons]; omega)
      rwa [shift] at next
    · apply ih fun block member => inhabited block (List.mem_cons_of_mem _ member)
      · intro index inner block here within
        have before := inside (index + 1) inner block here within
        rwa [shift] at before
      · intro index bound
        have next := front (index + 1) (by rw [List.length_cons]; omega)
        rwa [shift] at next

end Views

section Leaders

variable {code : List Instruction} {position : Nat} {before instruction : Instruction}

/-- A jump of the stream goes to this offset. -/
def Aimed (code : List Instruction) (offset : Nat) : Prop :=
  ∃ jump ∈ code, offset ∈ jump.targets

/-- In an ascending stream a jump lands at a position if one goes to the offset there. -/
theorem mem_landingPositions_iff (ascending : Ascending code)
    (here : code[position]? = some instruction) :
    position ∈ landingPositions code ↔ Aimed code instruction.offset := by
  have named : (offsets code)[position]? = some instruction.offset := by
    rw [offsets, List.getElem?_map, here]
    rfl
  constructor
  · intro landing
    obtain ⟨target, aimed, found⟩ := List.mem_filterMap.1 landing
    obtain ⟨jump, member, aims⟩ := List.mem_flatMap.1 aimed
    have same := (getElem?_of_lastPosition? found).symm.trans named
    cases same
    exact ⟨jump, member, aims⟩
  · rintro ⟨jump, member, aims⟩
    refine List.mem_filterMap.2 ⟨instruction.offset, ?_, ascending.lastPosition? here⟩
    exact List.mem_flatMap.2 ⟨jump, member, aims⟩

/-- A block starts at a position if a jump goes there or the instruction in front ends a run. -/
theorem isLeader_iff (ascending : Ascending code) (front : code[position]? = some before)
    (here : code[position + 1]? = some instruction) :
    isLeader code (landingPositions code) (position + 1) = true ↔
      Aimed code instruction.offset ∨ before.isTerminal = true := by
  rw [isLeader, Bool.or_eq_true, List.contains_iff_mem, mem_landingPositions_iff ascending here,
    front, Option.any_some]

/-- The blocks of a view have the runs that the stream is cut into. -/
theorem instructions_buildBlocks (code : List Instruction) :
    (buildBlocks code).map (·.instructions) =
      cutAt (isLeader code (landingPositions code)) 0 code := by
  have same : (fun block : BasicBlock => block.instructions) ∘
      (fun pair : List Instruction × Nat =>
        blockOfRun ((cutAt (isLeader code (landingPositions code)) 0 code).map
          fun run => (run.head?.map (·.offset)).getD 0) pair.1 pair.2) = Prod.fst := rfl
  rw [buildBlocks]
  dsimp only
  rw [List.map_map, same, List.zipIdx_map_fst]

/-- The runs of a view are as the leaders of its stream cut them. -/
theorem cutAt_buildBlocks (code : List Instruction) :
    CutAt (isLeader code (landingPositions code)) 0
      ((buildBlocks code).map (·.instructions)) := by
  rw [instructions_buildBlocks]
  exact cutAt_cutAt _ 0 code

/-- A headed view whose runs are as the leaders of its stream cut them says what the view of the
stream says. -/
theorem content_buildBlocks_joined {view : List BasicBlock} (headed : Headed view)
    (cut : CutAt (isLeader (joined view) (landingPositions (joined view))) 0
      (view.map (·.instructions))) :
    (buildBlocks (joined view)).map (·.content) = view.map (·.content) := by
  have whole : joined view = (view.map (·.instructions)).flatten := List.flatMap_def
  have runs : (buildBlocks (joined view)).map (·.instructions) = view.map (·.instructions) := by
    have again := cut.cutAt_flatten
    rwa [← whole, ← instructions_buildBlocks] at again
  have starts {blocks : List BasicBlock} (headed : Headed blocks) : blocks.map (·.content) =
      (blocks.map (·.instructions)).map fun run =>
        ((run.head?.map (·.offset)).getD 0, run) := by
    rw [List.map_map]
    apply List.map_congr_left
    intro block member
    rw [Function.comp_apply, headed block member]
    rfl
  rw [starts (headed_buildBlocks _), starts headed, runs]

end Leaders

end ConstantRecovery
