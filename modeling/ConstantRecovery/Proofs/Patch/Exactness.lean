import ConstantRecovery.Proofs.Patch.GetterCall
import ConstantRecovery.Proofs.Patch.Sweep
import ConstantRecovery.Recovery

/-!
# What a patch report says

A pass over a body replaces its getter calls in order and stops at the first that fails.
So behind the pass the calls that are left are those from the failing one on, and there
are none where nothing failed: the report counts exactly the calls that are gone, and a
search for getter calls finds exactly the methods that failed.
-/

namespace ConstantRecovery

/-- The entry of a report for a call that could not be replaced. -/
def PatchFailure.ofCall (method : Method) (error : Error) (call : Instruction) : PatchFailure :=
  { method := method.token, name := method.name, offset := call.offset, message := error.message }

namespace Patcher

variable (patcher : Patcher)

/-- The getter calls of a stream, in order. -/
def calls (code : List Instruction) : List Instruction :=
  code.filter (·.isGetterCall patcher.getter patcher.resolver)

/-- Code in a row has the calls of both parts. -/
theorem calls_append (front back : List Instruction) :
    patcher.calls (front ++ back) = patcher.calls front ++ patcher.calls back :=
  List.filter_append _ _

/-- A call of the getter counts. -/
theorem calls_cons_of_isGetterCall {instruction : Instruction} (rest : List Instruction)
    (call : instruction.isGetterCall patcher.getter patcher.resolver = true) :
    patcher.calls (instruction :: rest) = instruction :: patcher.calls rest :=
  List.filter_cons_of_pos call

/-- What is no call of the getter does not count. -/
theorem calls_cons_of_not {instruction : Instruction} (rest : List Instruction)
    (other : instruction.isGetterCall patcher.getter patcher.resolver = false) :
    patcher.calls (instruction :: rest) = patcher.calls rest :=
  List.filter_cons_of_neg (by rw [other]; decide)

/-- A part of a stream without getter calls has none. -/
theorem calls_dropLast {front : List Instruction} (clean : patcher.calls front = []) :
    patcher.calls front.dropLast = [] := by
  rw [calls, List.filter_eq_nil_iff] at clean ⊢
  intro instruction member
  exact clean instruction (List.dropLast_subset front member)

/-- Dropping a forward drops no getter call. -/
theorem calls_withoutForward {front : List Instruction} (call : Instruction)
    (clean : patcher.calls front = []) : patcher.calls (withoutForward front call) = [] := by
  unfold withoutForward
  split
  · exact patcher.calls_dropLast clean
  · exact clean

/-- What a pass leaves: the getter calls behind those it replaced, and an entry for the first of
them if there is one. -/
theorem sweep_exact (method : Method) (report : PatchReport) {front : List Instruction}
    (clean : patcher.calls front = []) (rest : List Instruction) :
    ∃ replaced error,
      let swept := patcher.sweep method report front rest
      swept.1.methods = report.methods ∧
      swept.1.replaced = report.replaced + replaced ∧
      replaced ≤ (patcher.calls rest).length ∧
      patcher.calls swept.2 = (patcher.calls rest).drop replaced ∧
      swept.1.failures = report.failures ++
        ((patcher.calls rest)[replaced]?.map (PatchFailure.ofCall method error)).toList := by
  induction rest generalizing report front with
  | nil =>
    exact ⟨0, Error.malformed .strayEdge, rfl, rfl, Nat.zero_le _, clean, by simp [sweep, calls]⟩
  | cons instruction rest ih =>
    cases isCall : instruction.isGetterCall patcher.getter patcher.resolver with
    | false =>
      have extended : patcher.calls (front ++ [instruction]) = [] := by
        rw [calls_append, clean, patcher.calls_cons_of_not [] isCall]
        rfl
      rw [patcher.calls_cons_of_not rest isCall, sweep, isCall]
      exact ih report extended
    | true =>
      have trimmed := patcher.calls_withoutForward instruction clean
      rw [sweep, if_pos isCall, patcher.calls_cons_of_isGetterCall rest isCall]
      generalize withoutForward front instruction = front at trimmed ⊢
      dsimp only
      cases collapsed : patcher.collapse front instruction with
      | error error =>
        refine ⟨0, error, rfl, rfl, Nat.zero_le _, ?_, rfl⟩
        show patcher.calls (front ++ instruction :: rest) = _
        rw [calls_append, trimmed, patcher.calls_cons_of_isGetterCall rest isCall]
        rfl
      | ok pair =>
        obtain ⟨kind, load⟩ := pair
        obtain ⟨before, literal, constant, shape, -, sameKind, sameLoad⟩ :=
          patcher.exists_constant_of_collapse collapsed
        have replacedClean : patcher.calls (front.dropLast ++ [load]) = [] := by
          rw [calls_append, patcher.calls_dropLast trimmed, sameLoad,
            patcher.calls_cons_of_not [] (constant.isGetterCall_load literal.offset)]
          rfl
        obtain ⟨replaced, error, methods, count, bound, left, failures⟩ :=
          ih (report.record kind) replacedClean
        have kept : kind ≠ .object := by
          rw [sameKind]
          exact constant.kind_ne_object
        refine ⟨replaced + 1, error, ?_, ?_, ?_, left, ?_⟩
        · rw [methods]
          cases kind <;> rfl
        · rw [count, report.replaced_record kept]
          omega
        · rw [List.length_cons]
          omega
        · rw [failures]
          cases kind <;> rfl

/-- Moving a stream moves its getter calls with it. -/
theorem length_calls_renumber (code : List Instruction) :
    (patcher.calls (renumber code)).length = (patcher.calls code).length := by
  have settled (start : Nat) (code : List Instruction) :
      (patcher.calls (settle start code)).length = (patcher.calls code).length := by
    induction code generalizing start with
    | nil => rfl
    | cons first rest ih =>
      have placed : (first.placedAt start).isGetterCall patcher.getter patcher.resolver =
          first.isGetterCall patcher.getter patcher.resolver :=
        Instruction.isGetterCall_placedAt start
      cases isCall : first.isGetterCall patcher.getter patcher.resolver with
      | true =>
        rw [settle, patcher.calls_cons_of_isGetterCall rest isCall,
          patcher.calls_cons_of_isGetterCall _ (placed.trans isCall), List.length_cons,
          List.length_cons, ih]
      | false =>
        rw [settle, patcher.calls_cons_of_not rest isCall,
          patcher.calls_cons_of_not _ (placed.trans isCall), ih]
  rw [← settled 0 code, renumber, calls, calls, List.filter_map, List.length_map]
  congr 2
  funext instruction
  exact Instruction.isGetterCall_mapSlots _

/-- A search finds a getter call where there is one. -/
theorem any_isGetterCall (code : List Instruction) :
    code.any (·.isGetterCall patcher.getter patcher.resolver) =
      decide (0 < (patcher.calls code).length) := by
  rw [Bool.eq_iff_iff, List.any_eq_true, decide_eq_true_iff, List.length_pos_iff_exists_mem]
  simp only [calls, List.mem_filter]

/-- What patching does to one method. -/
theorem patchMethod_exact (unaided : patcher.cleaner? = none) (method : Method)
    (sharing : Option Interner) :
    ∃ error,
      let patched := ((patcher.patchMethod method).run sharing).1
      patched.1.methods = 1 ∧
      (patcher.calls patched.2.body).length + patched.1.replaced =
        (patcher.calls method.body).length ∧
      patched.1.failures = ((patcher.calls method.body)[patched.1.replaced]?.map
        (PatchFailure.ofCall method error)).toList := by
  have nothing : patcher.calls [] = [] := rfl
  obtain ⟨replaced, error, methods, count, bound, left, failures⟩ :=
    patcher.sweep_exact method .ofMethod nothing method.body
  have same := patcher.run_patchMethod sharing unaided method
  have total : (patcher.sweep method .ofMethod [] method.body).1.replaced = replaced := by
    rw [count]
    exact Nat.zero_add replaced
  refine ⟨error, ?_, ?_, ?_⟩
  · rw [same]
    exact methods
  · rw [same, length_calls_renumber, left, List.length_drop, total]
    omega
  · rw [same, total]
    exact failures

/-- A method still has a getter call exactly when it contributed a failure. -/
theorem any_isGetterCall_patchMethod (unaided : patcher.cleaner? = none) (method : Method)
    (sharing : Option Interner) :
    let patched := ((patcher.patchMethod method).run sharing).1
    patched.2.body.any (·.isGetterCall patcher.getter patcher.resolver) = !patched.1.isClean := by
  intro patched
  obtain ⟨error, -, count, failures⟩ := patcher.patchMethod_exact unaided method sharing
  change (patcher.calls patched.2.body).length + patched.1.replaced = _ at count
  rw [patcher.any_isGetterCall, PatchReport.isClean, failures]
  cases first : (patcher.calls method.body)[patched.1.replaced]? with
  | none =>
    have gone := List.getElem?_eq_none_iff.1 first
    have none : ¬ 0 < (patcher.calls patched.2.body).length := by omega
    rw [decide_eq_false none]
    rfl
  | some call =>
    obtain ⟨left, -⟩ := List.getElem?_eq_some_iff.1 first
    have some : 0 < (patcher.calls patched.2.body).length := by omega
    rw [decide_eq_true some]
    rfl

/-- The getter calls of several methods, counted. -/
def callCount (methods : List Method) : Nat :=
  (methods.flatMap fun method => patcher.calls method.body).length

/-- Methods have the calls of the first and those of the others. -/
theorem callCount_cons (method : Method) (rest : List Method) :
    patcher.callCount (method :: rest) =
      (patcher.calls method.body).length + patcher.callCount rest := by
  rw [callCount, List.flatMap_cons, List.length_append, callCount]

end Patcher

/-- Merging joins failures. -/
theorem PatchReport.failures_foldl_merge (start : PatchReport) (reports : List PatchReport) :
    (reports.foldl merge start).failures = start.failures ++ reports.flatMap (·.failures) := by
  induction reports generalizing start with
  | nil => exact (List.append_nil _).symm
  | cons report rest ih =>
    rw [List.foldl_cons, ih, List.flatMap_cons, ← List.append_assoc]
    rfl

/-- Merging the reports of single methods counts the methods. -/
theorem PatchReport.methods_foldl_merge (start : PatchReport) (reports : List PatchReport)
    (single : ∀ report ∈ reports, report.methods = 1) :
    (reports.foldl merge start).methods = start.methods + reports.length := by
  induction reports generalizing start with
  | nil => rfl
  | cons report rest ih =>
    obtain ⟨one, others⟩ := List.forall_mem_cons.1 single
    have added : (start.merge report).methods = start.methods + report.methods := rfl
    rw [List.foldl_cons, ih _ others, added, one, List.length_cons]
    omega

/-- A merged report counts what both reports count. -/
theorem PatchReport.replaced_merge (report other : PatchReport) :
    (report.merge other).replaced = report.replaced + other.replaced := by
  simp only [replaced, merge]
  omega

/-- Where each method keeps the calls that its report does not count, all methods keep the calls
that the merged report does not count. -/
theorem Patcher.replaced_foldl_merge (patcher : Patcher) (start : PatchReport)
    {report : Method → PatchReport} {kept : Method → Method} (methods : List Method)
    (balance : ∀ method ∈ methods, (report method).replaced +
      (patcher.calls (kept method).body).length = (patcher.calls method.body).length) :
    ((methods.map report).foldl PatchReport.merge start).replaced +
        patcher.callCount (methods.map kept) =
      start.replaced + patcher.callCount methods := by
  induction methods generalizing start with
  | nil => rfl
  | cons method rest ih =>
    obtain ⟨here, others⟩ := List.forall_mem_cons.1 balance
    have later := ih (start.merge (report method)) others
    rw [PatchReport.replaced_merge] at later
    rw [List.map_cons, List.map_cons, List.foldl_cons, callCount_cons, callCount_cons]
    omega

/-- Patching is complete and its report exact. A method contributes at most one failure: for the
first of its getter calls that was not replaced, with the offset that call had before. Exactly
the methods that contributed one still have getter calls, and as many calls are gone as were
replaced. -/
theorem Patcher.patchAll_exact (patcher : Patcher) (unaided : patcher.cleaner? = none)
    (methods : List Method) (sharing : Option Interner) :
    let patched := ((patcher.patchAll methods).run sharing).1
    let report (method : Method) : PatchReport := ((patcher.patchMethod method).run sharing).1.1
    (∀ method ∈ methods, (report method).failures.length ≤ 1) ∧
    findConsumers patched.2 patcher.getter patcher.resolver =
      (methods.zipIdx.filter fun (method, _) => !(report method).isClean).map (·.2) ∧
    patched.1.failures = methods.flatMap (fun method => (report method).failures) ∧
    (∀ method ∈ methods, ∀ failure ∈ (report method).failures,
      failure.method = method.token ∧ failure.name = method.name ∧
        ∃ call, (patcher.calls method.body)[(report method).replaced]? = some call ∧
          failure.offset = call.offset) ∧
    patched.1.methods = methods.length ∧
    patched.1.replaced + patcher.callCount patched.2 = patcher.callCount methods := by
  intro patched report
  let outcome (method : Method) : PatchReport × Method :=
    ((patcher.patchMethod method).run sharing).1
  have each (method : Method) (other : Option Interner) :
      ((patcher.patchMethod method).run other).1 = outcome method := by
    rw [patcher.run_patchMethod other unaided, ← patcher.run_patchMethod sharing unaided]
  have shape : patched = ((methods.map report).foldl PatchReport.merge PatchReport.empty,
      methods.map fun method => (outcome method).2) := patcher.run_patchAll sharing each methods
  have known (method : Method) : ∃ error, (report method).methods = 1 ∧
      (patcher.calls (outcome method).2.body).length + (report method).replaced =
        (patcher.calls method.body).length ∧
      (report method).failures = ((patcher.calls method.body)[(report method).replaced]?.map
        (PatchFailure.ofCall method error)).toList :=
    patcher.patchMethod_exact unaided method sharing
  have stuck (method : Method) :
      (outcome method).2.body.any (·.isGetterCall patcher.getter patcher.resolver) =
        !(report method).isClean := patcher.any_isGetterCall_patchMethod unaided method sharing
  refine ⟨?_, ?_, ?_, ?_, ?_, ?_⟩
  · intro method _
    obtain ⟨error, -, -, failures⟩ := known method
    rw [failures]
    exact Option.length_toList_le
  · have kept : (fun pair : Method × Nat =>
        pair.1.body.any (·.isGetterCall patcher.getter patcher.resolver)) ∘
          Prod.map (fun method => (outcome method).2) id =
        fun pair : Method × Nat => !(report pair.1).isClean := by
      funext pair
      exact stuck pair.1
    rw [shape, findConsumers, List.zipIdx_map, List.filter_map, List.map_map]
    show List.map _ (List.filter ((fun pair : Method × Nat =>
      pair.1.body.any (·.isGetterCall patcher.getter patcher.resolver)) ∘
        Prod.map (fun method => (outcome method).2) id) methods.zipIdx) = _
    rw [kept]
    rfl
  · rw [shape, PatchReport.failures_foldl_merge, List.flatMap_map]
    rfl
  · intro method _ failure member
    obtain ⟨error, -, -, failures⟩ := known method
    rw [failures, Option.mem_toList, Option.map_eq_some_iff] at member
    obtain ⟨call, first, rfl⟩ := member
    exact ⟨rfl, rfl, call, first, rfl⟩
  · have single : ∀ merged ∈ methods.map report, merged.methods = 1 := by
      intro merged member
      obtain ⟨method, -, rfl⟩ := List.mem_map.1 member
      obtain ⟨error, one, -, -⟩ := known method
      exact one
    rw [shape, PatchReport.methods_foldl_merge _ _ single, List.length_map]
    exact Nat.zero_add _
  · have balance (method : Method) (_ : method ∈ methods) : (report method).replaced +
        (patcher.calls (outcome method).2.body).length = (patcher.calls method.body).length := by
      obtain ⟨error, -, count, -⟩ := known method
      omega
    rw [shape, patcher.replaced_foldl_merge PatchReport.empty methods balance]
    exact Nat.zero_add _

/-- A default constant is replaced; the call behind it, which has no literal, is left and
reported where it stood. -/
theorem Patcher.patchAll_exact_of_lone_call :
    let spec : Token := ⟨0x2B000001⟩
    let patcher : Patcher :=
      { getter := ⟨0x06000001⟩
        mapping := ⟨#v[.default, .number, .object, .string], by decide⟩
        keys := ⟨1, 0⟩
        blob := ⟨[]⟩
        resolver := ⟨fun _ => none, fun _ => some ⟨⟨0x06000001⟩, [.int32]⟩⟩
        cleaner? := none }
    let method : Method := ⟨⟨0x06000002⟩, "C::M", settle 0 [.ldcI4 0, .call spec, .call spec]⟩
    let patched := ((patcher.patchAll [method]).run none).1
    patcher.cleaner? = none ∧
      findConsumers patched.2 patcher.getter patcher.resolver = [0] ∧
      patched.1.failures.map (·.offset) = [6] ∧
      patched.1.replaced + patcher.callCount patched.2 = 2 := by
  intro spec patcher method patched
  obtain ⟨-, consumers, failures, -, -, count⟩ := patcher.patchAll_exact rfl [method] none
  refine ⟨rfl, ?_, ?_, ?_⟩
  · rw [consumers]
    decide +kernel
  · rw [failures]
    decide +kernel
  · rw [count]
    decide +kernel

end ConstantRecovery
