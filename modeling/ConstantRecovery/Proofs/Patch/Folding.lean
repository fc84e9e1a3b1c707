import ConstantRecovery.Proofs.Patch.Bounds

/-!
# Patching as a fold

The patcher edits a stream in place: it deletes and inserts under a number that it sets anew after
each replacement. What it comes to can be said without numbers. A fold over the body puts out
instruction after instruction and looks at nothing but the last one it has put out; at the first
call site that fails it stops, and the rest follows as it is. The main statement joins both: every
number that the loop uses is in range, and the body it leaves is what the fold puts out, renumbered.
-/

namespace ConstantRecovery

/-- How far a rewrite from left to right has come. -/
structure Rewrite where
  /-- What was counted, and the failure if there was one. -/
  report : PatchReport
  /-- What was put out so far. -/
  output : List Instruction
  /-- A call site failed: what is left is put out as it is. -/
  stopped : Bool
deriving DecidableEq

namespace Patcher

variable (patcher : Patcher)

/-- What a getter call makes of the last instruction in front of it: the load of the constant that
the literal there stands for. -/
def loadFor (front : List Instruction) (call : Instruction) :
    Except Error (ConstantKind × Instruction) :=
  match front.getLast? with
  | none => .error (.invalidCallSite (.noArgument call))
  | some literal =>
    match literal.int32Literal?,
      (call.instantiation? patcher.resolver).bind (·.arguments.head?) with
    | none, _ => .error (.invalidCallSite (.noLiteral call literal))
    | some _, none => .error (.invalidCallSite (.noTypeArgument call))
    | some raw, some type =>
      patcher.replacement { index := front.length, offset := literal.offset, raw, type }

/-- One step of a rewrite. An instruction that is no getter call is put out. At a getter call the
jump that only forwards to it is dropped; then the load of the constant takes the place of the
literal, or the call is put out and the rewrite stops. -/
def advance (method : Method) (done : Rewrite) (next : Instruction) : Rewrite :=
  if done.stopped || !next.isGetterCall patcher.getter patcher.resolver then
    { done with output := done.output ++ [next] }
  else
    let front := withoutForward done.output next
    match patcher.loadFor front next with
    | .ok (kind, load) =>
      { done with report := done.report.record kind, output := front.dropLast ++ [load] }
    | .error error =>
      { report := done.report.fail method next.offset error, output := front ++ [next]
        stopped := true }

/-- The rewrite of a body, from left to right. -/
def rewritten (method : Method) : Rewrite :=
  method.body.foldl (patcher.advance method) { report := .ofMethod, output := [], stopped := false }

/-- What a call site collapses to is read off the last instruction in front of the call. -/
theorem collapse_eq_loadFor (front : List Instruction) (call : Instruction) :
    patcher.collapse front call = patcher.loadFor front call := by
  unfold collapse callSite readCallSite loadFor
  rw [List.getElem?_concat_length]
  rcases List.eq_nil_or_concat front with rfl | ⟨before, literal, rfl⟩
  · rfl
  · rw [List.concat_eq_append, List.getLast?_concat, List.length_append, List.length_singleton]
    have place : (before ++ [literal] ++ [call])[before.length]? = some literal := by
      rw [List.append_assoc, List.getElem?_append_right (Nat.le_refl _), Nat.sub_self]
      rfl
    simp only [place]
    cases literal.int32Literal? with
    | none => rfl
    | some raw =>
      cases (call.instantiation? patcher.resolver).bind (·.arguments.head?) <;> rfl

section Steps

variable {patcher} {done : Rewrite} {next : Instruction}

/-- What is no getter call is put out, and so is everything once the rewrite has stopped. -/
theorem advance_of_passes (method : Method)
    (passes : done.stopped = true ∨ next.isGetterCall patcher.getter patcher.resolver = false) :
    patcher.advance method done next = { done with output := done.output ++ [next] } := by
  rw [advance, if_pos]
  rcases passes with stopped | other
  · rw [stopped, Bool.true_or]
  · rw [other, Bool.not_false, Bool.or_true]

/-- A getter call that can be replaced takes the literal along. -/
theorem advance_of_ok (method : Method) (running : done.stopped = false)
    (calls : next.isGetterCall patcher.getter patcher.resolver = true) {kind : ConstantKind}
    {load : Instruction}
    (found : patcher.loadFor (withoutForward done.output next) next = .ok (kind, load)) :
    patcher.advance method done next =
      { report := done.report.record kind
        output := (withoutForward done.output next).dropLast ++ [load]
        stopped := false } := by
  rw [advance, running, calls, if_neg (by decide)]
  dsimp only
  rw [found]

/-- A getter call that cannot be replaced is put out behind what is left in front of it. -/
theorem advance_of_error (method : Method) (running : done.stopped = false)
    (calls : next.isGetterCall patcher.getter patcher.resolver = true) {error : Error}
    (found : patcher.loadFor (withoutForward done.output next) next = .error error) :
    patcher.advance method done next =
      { report := done.report.fail method next.offset error
        output := withoutForward done.output next ++ [next]
        stopped := true } := by
  rw [advance, running, calls, if_neg (by decide)]
  dsimp only
  rw [found]

/-- What a step can do: put an instruction out, replace a call site, or stop at one. -/
theorem advance_cases (patcher : Patcher) (method : Method) (done : Rewrite) (next : Instruction) :
    ((done.stopped = true ∨ next.isGetterCall patcher.getter patcher.resolver = false) ∧
      patcher.advance method done next = { done with output := done.output ++ [next] }) ∨
    (done.stopped = false ∧ next.isGetterCall patcher.getter patcher.resolver = true ∧
      ∃ kind load, patcher.loadFor (withoutForward done.output next) next = .ok (kind, load) ∧
        patcher.advance method done next =
          { report := done.report.record kind
            output := (withoutForward done.output next).dropLast ++ [load]
            stopped := false }) ∨
    (done.stopped = false ∧ next.isGetterCall patcher.getter patcher.resolver = true ∧
      ∃ error, patcher.loadFor (withoutForward done.output next) next = .error error ∧
        patcher.advance method done next =
          { report := done.report.fail method next.offset error
            output := withoutForward done.output next ++ [next]
            stopped := true }) := by
  by_cases passes : done.stopped = true ∨
      next.isGetterCall patcher.getter patcher.resolver = false
  · exact .inl ⟨passes, advance_of_passes method passes⟩
  obtain ⟨running, calls⟩ := not_or.1 passes
  rw [Bool.not_eq_true] at running
  rw [Bool.not_eq_false] at calls
  refine .inr ?_
  cases found : patcher.loadFor (withoutForward done.output next) next with
  | ok pair =>
    exact .inl ⟨running, calls, pair.1, pair.2, rfl, advance_of_ok method running calls found⟩
  | error error =>
    exact .inr ⟨running, calls, error, rfl, advance_of_error method running calls found⟩

end Steps

/-- What a getter call makes of a literal is the load of a constant, in its place. -/
theorem exists_constant_of_loadFor {front : List Instruction} {call load : Instruction}
    {kind : ConstantKind} (found : patcher.loadFor front call = .ok (kind, load)) :
    ∃ constant : Constant, ∃ offset : Nat, kind = constant.kind ∧
      load = constant.load.placedAt offset := by
  rw [← collapse_eq_loadFor] at found
  obtain ⟨-, literal, constant, -, -, known, place⟩ := patcher.exists_constant_of_collapse found
  exact ⟨constant, literal.offset, known, place⟩

/-- A rewrite that has stopped puts out the rest as it is. -/
theorem foldl_advance_stopped (method : Method) (report : PatchReport)
    (output rest : List Instruction) :
    rest.foldl (patcher.advance method) { report, output, stopped := true } =
      { report, output := output ++ rest, stopped := true } := by
  induction rest generalizing output with
  | nil => rw [List.append_nil]; rfl
  | cons next rest ih =>
    rw [List.foldl_cons, advance_of_passes method (.inl rfl), ih, List.append_assoc]
    rfl

/-- The pass of the patcher is a rewrite. -/
theorem sweep_eq_foldl (method : Method) (report : PatchReport) (front rest : List Instruction) :
    patcher.sweep method report front rest =
      let done := rest.foldl (patcher.advance method) { report, output := front, stopped := false }
      (done.report, done.output) := by
  induction rest generalizing report front with
  | nil => rfl
  | cons next rest ih =>
    rw [sweep, List.foldl_cons]
    cases calls : next.isGetterCall patcher.getter patcher.resolver with
    | false =>
      rw [advance_of_passes method (.inr calls)]
      exact ih report (front ++ [next])
    | true =>
      rw [if_pos rfl]
      dsimp only
      rw [collapse_eq_loadFor]
      cases found : patcher.loadFor (withoutForward front next) next with
      | ok pair =>
        rw [advance_of_ok method rfl calls found]
        exact ih _ _
      | error error =>
        rw [advance_of_error method rfl calls found, foldl_advance_stopped, List.append_assoc]
        rfl

/-- What patching a method comes to is its rewrite, renumbered. -/
theorem run_patchMethod_eq_rewritten (unaided : patcher.cleaner? = none) (method : Method)
    (sharing : Option Interner) :
    ((patcher.patchMethod method).run sharing).1 =
      ((patcher.rewritten method).report,
        { method with body := renumber (patcher.rewritten method).output }) := by
  rw [patcher.run_patchMethod sharing unaided, sweep_eq_foldl]
  rfl

/-- Patching a method is a rewrite of its body. For every method and whatever texts are shared, the
loop comes to its end with every number in range, within a round for each instruction and one more;
its report and what it leaves are those of the rewrite, and the new body is that, renumbered. -/
theorem patchMethod_eq_rewritten (unaided : patcher.cleaner? = none) (method : Method)
    (sharing : Option Interner) :
    let done := patcher.rewritten method
    ∃ after : Option Interner,
      (patcher.patchChecked method .ofMethod (method.body.length + 1) method.body 0).run sharing =
        (some (done.report, done.output), after) ∧
      (patcher.patchMethod method).run sharing =
        ((done.report, { method with body := renumber done.output }), after) := by
  intro done
  have enough : method.body.length - 0 < method.body.length + 1 := Nat.lt_succ_self _
  have checked := patcher.run_patchChecked sharing method .ofMethod enough
  have swept := @run_patchFrom sharing patcher method .ofMethod (method.body.length + 1) []
    method.body (Nat.lt_succ_self _)
  rw [List.nil_append, List.length_nil, sweep_eq_foldl] at swept
  have whole : (patcher.patchMethod method).run sharing =
      let left := (patcher.patchFrom method .ofMethod (method.body.length + 1) method.body 0).run
        sharing
      ((left.1.1, { method with body := renumber left.1.2 }), left.2) := by
    rw [patchMethod, clean, unaided]
    rfl
  generalize (patcher.patchFrom method .ofMethod (method.body.length + 1) method.body 0).run
    sharing = left at checked swept whole
  obtain ⟨outcome, after⟩ := left
  change outcome = (done.report, done.output) at swept
  subst swept
  exact ⟨after, checked, whole⟩

/-- A constant that is itself a literal feeds the call behind it. The third call is forwarded to,
and its number is out of the blob: the jump is gone, the call is kept and reported where it stood.
-/
theorem patchMethod_eq_rewritten_of_chain :
    let spec : Token := ⟨0x2B000001⟩
    let patcher : Patcher :=
      { getter := ⟨0x06000001⟩
        mapping := ⟨#v[.number, .string, .object, .default], by decide⟩
        keys := ⟨1, 0⟩
        blob := ⟨[1, 0, 0, 0, 20, 0, 0, 0]⟩
        resolver := ⟨fun _ => none, fun _ => some ⟨⟨0x06000001⟩, [.int32]⟩⟩
        cleaner? := none }
    let method : Method := ⟨⟨0x06000002⟩, "C::M", settle 0 [.ldcI4 0, .call spec, .call spec,
      .branch 0x2B 13, .call spec, .ret]⟩
    let done := patcher.rewritten method
    patcher.cleaner? = none ∧
      (∃ after, (patcher.patchChecked method .ofMethod 7 method.body 0).run none =
          (some (done.report, done.output), after) ∧
        (patcher.patchMethod method).run none =
          ((done.report, { method with body := renumber done.output }), after)) ∧
      done.report.replaced = 2 ∧ done.report.failures.map (·.offset) = [13] ∧
      renumber done.output = settle 0 [.ldcI4 20, .call spec, .ret] := by
  intro spec patcher method done
  obtain ⟨after, checked, patched⟩ := patcher.patchMethod_eq_rewritten rfl method none
  refine ⟨rfl, ⟨after, checked, patched⟩, ?_, ?_, ?_⟩
  · decide +kernel
  · decide +kernel
  · decide +kernel

end Patcher

end ConstantRecovery
