import ConstantRecovery.Proofs.Patch.Sweep
import Mathlib.Algebra.BigOperators.Group.List.Basic
import Mathlib.Algebra.GroupWithZero.Nat

/-!
# Patching side by side

Methods may be patched by workers that take turns in any order and feed one interner. A turn
does one call site. Whatever texts are shared by then, what is left of a method comes to the
same, so every worker ends with the report and the body that patching its method alone would
give. Reports may be merged in any grouping that keeps their order, and with empty ones in
between: merging is associative and an empty report changes nothing.
-/

namespace ConstantRecovery

/-! ## Sharing changes no result -/

namespace Sharing

variable {α β : Type}

/-- The result does not depend on the texts that are shared. -/
def Steady (action : Sharing α) : Prop :=
  ∀ sharing other, (action.run sharing).1 = (action.run other).1

/-- A result that is given at once is the same whatever is shared. -/
theorem Steady.pure (result : α) : Steady (Pure.pure result) :=
  fun _ _ => rfl

/-- Two computations in a row give the same whatever is shared, if each of them does. -/
theorem Steady.bind {first : Sharing α} {rest : α → Sharing β} (front : Steady first)
    (last : ∀ result, Steady (rest result)) : Steady (first >>= rest) := by
  intro sharing other
  show ((rest (first.run sharing).1).run (first.run sharing).2).1 =
    ((rest (first.run other).1).run (first.run other).2).1
  rw [front sharing other]
  exact last _ _ _

end Sharing

namespace Patcher

variable (patcher : Patcher)

/-- A call site is decoded to the same constant, whatever texts are shared. -/
theorem steady_decode (site : CallSite) : (patcher.decode site).Steady := by
  intro sharing other
  rw [patcher.run_decode sharing, patcher.run_decode other]

/-- A call site is replaced by the same instructions, whatever texts are shared. -/
theorem steady_replace (code : List Instruction) (index : Nat) :
    (patcher.replace code index).Steady := by
  unfold replace
  split
  · exact .pure _
  · refine .bind (patcher.steady_decode _) fun result => ?_
    split <;> exact .pure _

/-- What the loop comes to from anywhere does not depend on the texts that are shared. The induction
is on its rounds. -/
theorem steady_patchFrom (method : Method) (report : PatchReport) (rounds : Nat)
    (code : List Instruction) (start : Nat) :
    (patcher.patchFrom method report rounds code start).Steady := by
  induction rounds generalizing report code start with
  | zero => exact .pure _
  | succ rounds ih =>
    rw [patchFrom]
    split
    · exact .pure _
    · refine .bind (patcher.steady_replace _ _) fun result => ?_
      split
      · exact ih _ _ _
      · exact .pure _

/-- A method is patched to the same method with the same report, whatever texts are shared. -/
theorem steady_patchMethod (method : Method) : (patcher.patchMethod method).Steady := by
  unfold patchMethod
  split
  · exact .pure _
  · exact .bind (patcher.steady_patchFrom _ _ _ _ _) fun result => .pure _

end Patcher

/-! ## Workers that take turns -/

/-- How far a worker is with its method. -/
inductive Work where
  /-- Nothing is done. -/
  | waiting (method : Method)
  /-- Call sites in front of `start` are done, and the loop has so many rounds left. -/
  | patching (method : Method) (report : PatchReport) (rounds : Nat) (code : List Instruction)
      (start : Nat)
  /-- The method is done. -/
  | finished (result : PatchReport × Method)
deriving DecidableEq

namespace Patcher

variable (patcher : Patcher)

/-- One turn of a worker: it takes up its method, does one call site or finds that none is left. -/
def turn : Work → Sharing Work
  | .waiting method =>
    match patcher.clean method with
    | (method, some error) => return .finished (PatchReport.ofMethod.fail method 0 error, method)
    | (method, none) =>
      return .patching method .ofMethod (method.body.length + 1) method.body 0
  | .patching method report 0 code _ =>
    return .finished (report, { method with body := renumber code })
  | .patching method report (rounds + 1) code start =>
    match patcher.nextCallSite code start with
    | none => return .finished (report, { method with body := renumber code })
    | some (index, code) => do
      match ← patcher.replace code index with
      | .ok (kind, code) => return .patching method (report.record kind) rounds code index
      | .error error =>
        let offset := (code[index]?.map (·.offset)).getD 0
        return .finished (report.fail method offset error, { method with body := renumber code })
  | .finished result => return .finished result

/-- All that a worker has left to do. -/
def complete : Work → Sharing (PatchReport × Method)
  | .waiting method => patcher.patchMethod method
  | .patching method report rounds code start => do
    let (report, code) ← patcher.patchFrom method report rounds code start
    return (report, { method with body := renumber code })
  | .finished result => return result

/-- A turn is the beginning of what is left to do. -/
theorem turn_bind_complete (work : Work) :
    patcher.turn work >>= patcher.complete = patcher.complete work := by
  cases work with
  | finished result => rfl
  | waiting method =>
    simp only [turn, complete, patchMethod]
    cases patcher.clean method with
    | mk method error => cases error <;> rfl
  | patching method report rounds code start =>
    cases rounds with
    | zero => rfl
    | succ rounds =>
      simp only [turn, complete, patchFrom]
      cases patcher.nextCallSite code start with
      | none => rfl
      | some found =>
        obtain ⟨index, code⟩ := found
        simp only [bind_assoc]
        congr 1
        funext result
        cases result <;> rfl

/-- What is left of a worker's method comes to the same, whatever texts are shared. -/
theorem steady_complete (work : Work) : (patcher.complete work).Steady := by
  cases work with
  | waiting method => exact patcher.steady_patchMethod method
  | patching method report rounds code start =>
    exact .bind (patcher.steady_patchFrom _ _ _ _ _) fun result => .pure _
  | finished result => exact .pure _

/-- The turns that a worker has left at most. -/
def turnsLeft : Work → Nat
  | .waiting method => (patcher.clean method).1.body.length + 3
  | .patching _ _ rounds _ _ => rounds + 1
  | .finished _ => 0

/-- A worker that is not done has a turn less after each. -/
theorem turnsLeft_turn_lt (sharing : Option Interner) {work : Work}
    (going : ∀ result, work ≠ .finished result) :
    patcher.turnsLeft ((patcher.turn work).run sharing).1 < patcher.turnsLeft work := by
  cases work with
  | finished result => exact absurd rfl (going result)
  | waiting method =>
    simp only [turn, turnsLeft]
    cases patcher.clean method with
    | mk method error =>
      cases error with
      | none => exact Nat.lt_succ_self _
      | some error => exact Nat.succ_pos _
  | patching method report rounds code start =>
    cases rounds with
    | zero => exact Nat.one_pos
    | succ rounds =>
      simp only [turn]
      cases patcher.nextCallSite code start with
      | none => exact Nat.succ_pos _
      | some found =>
        obtain ⟨index, code⟩ := found
        simp only [StateT.run_bind]
        cases (patcher.replace code index).run sharing with
        | mk result after =>
          cases result with
          | ok replaced => exact Nat.lt_succ_self _
          | error error => exact Nat.succ_pos _

/-- What a worker ends with if nobody else takes a turn. -/
def outcome (work : Work) : PatchReport × Method :=
  ((patcher.complete work).run none).1

/-- A turn leaves the worker with the same end before it, whatever is shared by then. -/
theorem outcome_turn (sharing : Option Interner) (work : Work) :
    patcher.outcome ((patcher.turn work).run sharing).1 = patcher.outcome work := by
  have rest := patcher.steady_complete ((patcher.turn work).run sharing).1
  calc patcher.outcome ((patcher.turn work).run sharing).1
      = ((patcher.turn work >>= patcher.complete).run sharing).1 := rest _ _
    _ = ((patcher.complete work).run sharing).1 := by rw [turn_bind_complete]
    _ = patcher.outcome work := patcher.steady_complete work _ _

end Patcher

/-- Workers that feed one interner, if there is one. -/
structure Crew where
  /-- The texts that the workers share, if they do. -/
  sharing : Option Interner
  /-- How far each worker is. -/
  works : List Work

namespace Crew

/-- A worker for each method. -/
def start (sharing : Option Interner) (methods : List Method) : Crew :=
  { sharing, works := methods.map .waiting }

/-- The worker with this number takes a turn. -/
def takeTurn (patcher : Patcher) (crew : Crew) (worker : Nat) : Crew :=
  match crew.works[worker]? with
  | none => crew
  | some work =>
    let next := (patcher.turn work).run crew.sharing
    { sharing := next.2, works := crew.works.set worker next.1 }

/-- Workers take turns in some order. -/
def follow (patcher : Patcher) (crew : Crew) (schedule : List Nat) : Crew :=
  schedule.foldl (takeTurn patcher) crew

/-- All workers are done, with these results. -/
def Ends (crew : Crew) (results : List (PatchReport × Method)) : Prop :=
  crew.works = results.map .finished

/-- No turn changes what any worker ends with. -/
theorem outcomes_takeTurn (patcher : Patcher) (crew : Crew) (worker : Nat) :
    (crew.takeTurn patcher worker).works.map patcher.outcome =
      crew.works.map patcher.outcome := by
  unfold takeTurn
  cases here : crew.works[worker]? with
  | none => rfl
  | some work =>
    obtain ⟨inside, rfl⟩ := List.getElem?_eq_some_iff.1 here
    dsimp only
    rw [List.map_set, patcher.outcome_turn, ← List.getElem_map patcher.outcome,
      List.set_getElem_self]
    rwa [List.length_map]

/-- Whatever order workers take turns in, each keeps the end that is before it. -/
theorem outcomes_follow (patcher : Patcher) (crew : Crew) (schedule : List Nat) :
    (crew.follow patcher schedule).works.map patcher.outcome =
      crew.works.map patcher.outcome := by
  induction schedule generalizing crew with
  | nil => rfl
  | cons worker rest ih => exact (ih _).trans (crew.outcomes_takeTurn patcher worker)

/-- The turns that all workers have left at most. -/
def turnsLeft (patcher : Patcher) (crew : Crew) : Nat :=
  (crew.works.map patcher.turnsLeft).sum

/-- A worker that has not finished has fewer turns left once it takes one. -/
theorem turnsLeft_takeTurn_lt (patcher : Patcher) (crew : Crew) {worker : Nat} {work : Work}
    (here : crew.works[worker]? = some work) (going : ∀ result, work ≠ .finished result) :
    (crew.takeTurn patcher worker).turnsLeft patcher < crew.turnsLeft patcher := by
  obtain ⟨inside, rfl⟩ := List.getElem?_eq_some_iff.1 here
  have fewer := patcher.turnsLeft_turn_lt crew.sharing going
  have old := List.sum_set (crew.works.map patcher.turnsLeft) worker
    (patcher.turnsLeft crew.works[worker])
  have new := List.sum_set (crew.works.map patcher.turnsLeft) worker
    (patcher.turnsLeft ((patcher.turn crew.works[worker]).run crew.sharing).1)
  rw [← List.map_set, List.set_getElem_self, List.length_map, if_pos inside] at old
  rw [← List.map_set, List.length_map, if_pos inside] at new
  unfold turnsLeft takeTurn
  rw [here]
  dsimp only
  omega

/-- However far they are, workers can take turns until all of them are done. -/
theorem exists_schedule (patcher : Patcher) (crew : Crew) :
    ∃ schedule results, (crew.follow patcher schedule).Ends results := by
  induction total : crew.turnsLeft patcher using Nat.strongRecOn generalizing crew with
  | _ total ih =>
    by_cases done : ∀ work ∈ crew.works, ∃ result, work = .finished result
    · refine ⟨[], crew.works.map patcher.outcome, ?_⟩
      have same : ∀ work ∈ crew.works, work = Work.finished (patcher.outcome work) := by
        intro work member
        obtain ⟨result, rfl⟩ := done work member
        rfl
      show crew.works = (crew.works.map patcher.outcome).map Work.finished
      rw [List.map_map]
      exact (List.map_id _).symm.trans (List.map_congr_left same)
    · obtain ⟨work, member, going⟩ :
          ∃ work ∈ crew.works, ∀ result, work ≠ .finished result := by
        simpa using done
      obtain ⟨worker, here⟩ := List.mem_iff_getElem?.1 member
      have fewer := crew.turnsLeft_takeTurn_lt patcher here going
      rw [total] at fewer
      obtain ⟨schedule, results, ends⟩ := ih _ fewer (crew.takeTurn patcher worker) rfl
      exact ⟨worker :: schedule, results, ends⟩

end Crew

/-! ## Merging in any grouping -/

/-- Reports may be merged in any grouping. -/
instance : Std.Associative PatchReport.merge := ⟨PatchReport.merge_assoc⟩

/-- A grouping of reports that are merged: in order, with empty reports anywhere in between. -/
inductive Reduction where
  | identity
  | single (report : PatchReport)
  | join (left right : Reduction)

namespace Reduction

/-- The reports that are merged, from left to right. -/
def reports : Reduction → List PatchReport
  | identity => []
  | single report => [report]
  | join left right => left.reports ++ right.reports

/-- What merging comes to. -/
def merged : Reduction → PatchReport
  | identity => .empty
  | single report => report
  | join left right => left.merged.merge right.merged

/-- Merging in any grouping is merging one after the other. -/
theorem merged_eq (reduction : Reduction) :
    reduction.merged = reduction.reports.foldl PatchReport.merge .empty := by
  induction reduction with
  | identity => rfl
  | single report => exact (PatchReport.empty_merge report).symm
  | join left right before behind =>
    calc left.merged.merge right.merged
        = left.merged.merge (right.reports.foldl PatchReport.merge .empty) := by rw [behind]
      _ = right.reports.foldl PatchReport.merge (left.merged.merge .empty) :=
          List.foldl_assoc.symm
      _ = right.reports.foldl PatchReport.merge
          (left.reports.foldl PatchReport.merge .empty) := by rw [PatchReport.merge_empty, before]
      _ = (left.reports ++ right.reports).foldl PatchReport.merge .empty :=
          List.foldl_append.symm

end Reduction

/-- Patching side by side is patching one method after the other. Workers that feed one interner,
or none, take turns in any order; they can always come to an end, and when they have, each has the
report and the method that patching alone gives. Merging those reports in any grouping that keeps
their order, with any number of empty ones in between, gives the report of patching in sequence.
None of this depends on the texts that are shared. -/
theorem Patcher.patchAll_sideBySide (patcher : Patcher) (methods : List Method)
    (sharing other : Option Interner) :
    let crew := Crew.start sharing methods
    (∃ schedule results, (crew.follow patcher schedule).Ends results) ∧
    ∀ schedule results, (crew.follow patcher schedule).Ends results →
      results = methods.map (fun method => ((patcher.patchMethod method).run other).1) ∧
      ∀ reduction : Reduction, reduction.reports = results.map (·.1) →
        (reduction.merged, results.map (·.2)) = ((patcher.patchAll methods).run other).1 := by
  intro crew
  refine ⟨crew.exists_schedule patcher, fun schedule results ended => ?_⟩
  have each (method : Method) (sharing : Option Interner) :
      ((patcher.patchMethod method).run sharing).1 = ((patcher.patchMethod method).run other).1 :=
    patcher.steady_patchMethod method sharing other
  have kept := crew.outcomes_follow patcher schedule
  rw [ended] at kept
  have ends : (results.map Work.finished).map patcher.outcome =
      (methods.map Work.waiting).map patcher.outcome := kept
  rw [List.map_map, List.map_map] at ends
  have same : results = methods.map fun method => ((patcher.patchMethod method).run other).1 := by
    calc results = results.map (patcher.outcome ∘ Work.finished) := (List.map_id results).symm
      _ = methods.map (patcher.outcome ∘ Work.waiting) := ends
      _ = _ := List.map_congr_left fun method _ => each method none
  refine ⟨same, fun reduction leaves => ?_⟩
  rw [reduction.merged_eq, leaves, same, patcher.run_patchAll other each, List.map_map,
    List.map_map]
  rfl

/-- Two workers that take turns within their methods share one text. The second stops at a call
without a literal. -/
theorem Patcher.patchAll_sideBySide_of_two :
    let spec : Token := ⟨0x2B000001⟩
    let patcher : Patcher :=
      { getter := ⟨0x06000001⟩
        mapping := ⟨#v[.string, .number, .object, .default], by decide⟩
        keys := ⟨1, 0⟩
        blob := ⟨[2, 0, 0, 0, 111, 107]⟩
        resolver := ⟨fun _ => none, fun _ => some ⟨⟨0x06000001⟩, [.string]⟩⟩
        cleaner? := none }
    let first : Method :=
      ⟨⟨0x06000002⟩, "C::M", settle 0 [.ldcI4 0, .call spec, .ldcI4 0, .call spec]⟩
    let second : Method := ⟨⟨0x06000003⟩, "C::N", settle 0 [.ldcI4 0, .call spec, .call spec]⟩
    let crew := (Crew.start (some .empty) [first, second]).follow patcher [1, 0, 0, 1, 0, 1, 0]
    let result (method : Method) : PatchReport × Method :=
      ((patcher.patchMethod method).run none).1
    let reduction : Reduction :=
      .join (.join .identity (.single (result first).1))
        (.join (.single (result second).1) .identity)
    crew.Ends [result first, result second] ∧
      reduction.merged = ((patcher.patchAll [first, second]).run none).1.1 ∧
      reduction.merged.strings = 3 ∧ reduction.merged.failures.map (·.offset) = [6] := by
  intro spec patcher first second crew result reduction
  have ends : crew.Ends [result first, result second] := by
    show crew.works = [.finished (result first), .finished (result second)]
    decide +kernel
  obtain ⟨-, same⟩ := patcher.patchAll_sideBySide [first, second] (some .empty) none
  obtain ⟨-, merged⟩ := same [1, 0, 0, 1, 0, 1, 0] _ ends
  refine ⟨ends, congrArg Prod.fst (merged reduction rfl), ?_, ?_⟩ <;> decide +kernel

end ConstantRecovery
