import ConstantRecovery.Proofs.Code.Slots
import ConstantRecovery.Proofs.Patch.Folding
import ConstantRecovery.Proofs.Patch.GetterCall
import ConstantRecovery.Proofs.Patch.Landing

/-!
# Patching code that was renumbered before

A body may be renumbered before it is patched, or only by the patcher itself. Renumbering moves
instructions and jumps by one map, and a rewrite asks of offsets only whether the jump in front of a
getter call goes to that call. So both ways come to the same where the map keeps the answers apart:
where each unconditional jump goes to an instruction, or behind all of them.
-/

namespace ConstantRecovery

/-- A report with a failure is not clean. -/
theorem PatchReport.isClean_fail (report : PatchReport) (method : Method) (offset : Nat)
    (error : Error) : (report.fail method offset error).isClean = false :=
  List.isEmpty_eq_false_iff.2 (List.append_ne_nil_of_right_ne_nil _ (List.cons_ne_nil _ _))

/-- Two reports count the same, and a failure is in both or in neither. -/
structure PatchReport.Agrees (first second : PatchReport) : Prop where
  /-- All counts are the same. -/
  counts : { first with failures := [] } = { second with failures := [] }
  /-- Both name failures, or neither does. -/
  clean : first.isClean = second.isClean

namespace PatchReport.Agrees

variable {first second third : PatchReport}

/-- A report agrees with itself. -/
theorem refl (report : PatchReport) : report.Agrees report := ⟨rfl, rfl⟩

/-- Reports agree in either order. -/
theorem symm (same : first.Agrees second) : second.Agrees first :=
  ⟨same.counts.symm, same.clean.symm⟩

/-- Reports that agree with one report agree. -/
theorem trans (same : first.Agrees second) (next : second.Agrees third) : first.Agrees third :=
  ⟨same.counts.trans next.counts, same.clean.trans next.clean⟩

/-- Reports that agree count as many call sites. -/
theorem replaced (same : first.Agrees second) : first.replaced = second.replaced :=
  (congrArg PatchReport.replaced same.counts :)

/-- Reports agree as they did when both have counted a call site more. -/
theorem record (same : first.Agrees second) (kind : ConstantKind) :
    (first.record kind).Agrees (second.record kind) := by
  obtain ⟨counts, clean⟩ := same
  have recorded (report : PatchReport) : { report.record kind with failures := [] } =
      ({ report with failures := [] } : PatchReport).record kind := by
    cases kind <;> rfl
  have kept (report : PatchReport) : (report.record kind).isClean = report.isClean := by
    cases kind <;> rfl
  exact ⟨by rw [recorded, recorded, counts], by rw [kept, kept, clean]⟩

/-- Reports agree as they did when both have failed, whatever the failures are. -/
theorem fail (same : first.Agrees second) (method : Method) (place other : Nat)
    (error fault : Error) :
    (first.fail method place error).Agrees (second.fail method other fault) := by
  refine ⟨same.counts, ?_⟩
  rw [isClean_fail, isClean_fail]

end PatchReport.Agrees

/-- Each unconditional jump goes to where an instruction starts, or behind all of these. -/
def JumpsToStarts (code : List Instruction) : Prop :=
  ∀ jump ∈ code, jump.isUnconditional = true → ∀ target, jump.target? = some target →
    target ∈ offsets code ∨ ∀ offset ∈ offsets code, offset < target

namespace Instruction

variable (move : Nat → Nat) (instruction : Instruction)

/-- Moving makes and breaks no getter call. -/
theorem isGetterCall_moved (getter : Token) (resolver : Resolver) :
    (instruction.moved move).isGetterCall getter resolver =
      instruction.isGetterCall getter resolver :=
  isGetterCall_mapSlots move

/-- Whether an instruction forwards to one of the stream is the same when both have moved. -/
def KeepsAim (code : List Instruction) : Prop :=
  ∀ call ∈ code,
    (instruction.moved move).forwardsTo (move call.offset) = instruction.forwardsTo call.offset

variable {move instruction}

/-- A jump keeps its aim if its target and an instruction that come together were together. -/
theorem keepsAim_of_target {code : List Instruction}
    (apart : instruction.isUnconditional = true → ∀ target, instruction.target? = some target →
      ∀ call ∈ code, move target = move call.offset → target = call.offset) :
    instruction.KeepsAim move code := by
  intro call member
  have flow : (instruction.moved move).isUnconditional = instruction.isUnconditional :=
    congrArg (fun flow => decide (flow = Flow.unconditional)) (instruction.flow_mapSlots move)
  rw [forwardsTo, forwardsTo, flow, target?_moved]
  cases jumps : instruction.isUnconditional with
  | false => rfl
  | true =>
    cases aims : instruction.target? with
    | none => rfl
    | some target =>
      have same := apart jumps target aims call member
      rw [Option.map_some, Bool.true_and, Bool.true_and, Bool.eq_iff_iff, decide_eq_true_iff,
        decide_eq_true_iff, Option.some_inj, Option.some_inj]
      exact ⟨same, congrArg move⟩

end Instruction

/-- What loads a constant has no slots to move. -/
theorem Constant.moved_load (constant : Constant) (move : Nat → Nat) (offset : Nat) :
    (constant.load.placedAt offset).moved move = constant.load.placedAt (move offset) := by
  have still : constant.load.mapSlots move = constant.load := by
    cases constant with
    | int32 value =>
      show (Instruction.ldcI4 value).mapSlots move = Instruction.ldcI4 value
      rw [Instruction.mapSlots]
      rcases Instruction.operand_ldcI4 value with bare | ⟨number, immediate⟩
      · rw [bare, ite_self]
      · rw [immediate, ite_self]
    | _ => rfl
  rw [Instruction.moved, ← Instruction.placedAt_mapSlots, still]
  rfl

/-- The load of a constant forwards to nothing, wherever it moves. -/
theorem Constant.keepsAim_load (constant : Constant) (offset : Nat) (move : Nat → Nat)
    (code : List Instruction) : (constant.load.placedAt offset).KeepsAim move code := by
  intro call _
  rw [moved_load, forwardsTo_load, forwardsTo_load]

/-- Dropping a forward leaves a part. -/
theorem withoutForward_sublist (front : List Instruction) (call : Instruction) :
    (withoutForward front call).Sublist front := by
  unfold withoutForward
  split
  · exact List.dropLast_sublist front
  · exact List.Sublist.refl front

/-- What is in front of a getter call loses the same jump when both have moved. -/
theorem withoutForward_map_moved {move : Nat → Nat} {code front : List Instruction}
    {call : Instruction} (aims : ∀ instruction ∈ front, instruction.KeepsAim move code)
    (member : call ∈ code) :
    withoutForward (front.map (·.moved move)) (call.moved move) =
      (withoutForward front call).map (·.moved move) := by
  have same : (front.map (·.moved move)).getLast?.any (·.forwardsTo (call.moved move).offset) =
      front.getLast?.any (·.forwardsTo call.offset) := by
    rw [List.getLast?_map]
    cases last : front.getLast? with
    | none => rfl
    | some jump => exact aims jump (List.mem_of_getLast? last) call member
  rw [withoutForward, withoutForward, same]
  split
  · exact List.map_dropLast.symm
  · rfl

namespace Patcher

variable (patcher : Patcher)

/-- A call site elsewhere is replaced by the same constant, there. -/
theorem toOption_replacement_moved {move : Nat → Nat} {site other : CallSite}
    (raw : other.raw = site.raw) (type : other.type = site.type)
    (offset : other.offset = move site.offset) :
    (patcher.replacement other).toOption =
      (patcher.replacement site).toOption.map fun (kind, load) => (kind, load.moved move) := by
  have same : patcher.constantAt other = patcher.constantAt site := by
    simp only [constantAt, raw, type]
  rw [replacement, replacement, same, offset]
  cases patcher.constantAt site with
  | error error => rfl
  | ok constant =>
    show some (constant.kind, constant.load.placedAt (move site.offset)) =
      some (constant.kind, (constant.load.placedAt site.offset).moved move)
    rw [constant.moved_load]

/-- A literal that has moved stands for the same constant, and its load goes where the literal
went. -/
theorem loadFor_map_moved (move : Nat → Nat) (front : List Instruction) (call : Instruction) :
    (patcher.loadFor (front.map (·.moved move)) (call.moved move)).toOption =
      (patcher.loadFor front call).toOption.map fun (kind, load) => (kind, load.moved move) := by
  unfold loadFor
  rw [List.getLast?_map]
  cases front.getLast? with
  | none => rfl
  | some literal =>
    have number : (literal.moved move).int32Literal? = literal.int32Literal? :=
      literal.int32Literal?_moved move
    simp only [Option.map_some, number, Instruction.instantiation?, Instruction.token?_moved]
    cases literal.int32Literal? with
    | none => rfl
    | some raw =>
      cases (call.token?.bind patcher.resolver.instantiation).bind (·.arguments.head?) with
      | none => rfl
      | some type =>
        exact patcher.toOption_replacement_moved rfl rfl rfl

end Patcher

/-- One rewrite has put out what another has, moved by one map, and their reports agree. -/
structure Rewrite.Shifted (move : Nat → Nat) (code : List Instruction) (done other : Rewrite) :
    Prop where
  /-- The reports agree. -/
  reports : done.report.Agrees other.report
  /-- The code so far is the same, moved. -/
  output : other.output = done.output.map (·.moved move)
  /-- Both have stopped, or neither has. -/
  stopped : other.stopped = done.stopped
  /-- No slot of the code so far changes what it follows. -/
  aims : ∀ instruction ∈ done.output, instruction.KeepsAim move code

namespace Rewrite

variable (patcher : Patcher) {move : Nat → Nat} {code : List Instruction} {done other : Rewrite}

/-- A step with an instruction and one with the moved instruction keep rewrites together. -/
theorem Shifted.advance (shifted : Shifted move code done other) (method : Method)
    {next : Instruction} (member : next ∈ code) (aim : next.KeepsAim move code) :
    Shifted move code (patcher.advance method done next)
      (patcher.advance method other (next.moved move)) := by
  obtain ⟨reports, output, stopped, aims⟩ := shifted
  have same := next.isGetterCall_moved move patcher.getter patcher.resolver
  have extended (front : List Instruction) (last : Instruction) :
      front.map (·.moved move) ++ [last.moved move] = (front ++ [last]).map (·.moved move) := by
    rw [List.map_append, List.map_singleton]
  -- Both rewrites drop the same jump, so they look at the same literal, and replace it or fail alike.
  have kept := withoutForward_map_moved aims member
  have loads := patcher.loadFor_map_moved move (withoutForward done.output next) next
  rw [← kept, ← output] at loads
  have left : ∀ instruction ∈ withoutForward done.output next, instruction.KeepsAim move code :=
    fun instruction inside => aims instruction ((withoutForward_sublist _ next).subset inside)
  rcases patcher.advance_cases method done next with
    ⟨passes, step⟩ | ⟨running, calls, kind, load, found, step⟩ | ⟨running, calls, error, found, step⟩
  · rw [step, Patcher.advance_of_passes method (by rwa [stopped, same]), output]
    refine ⟨reports, extended _ _, stopped, ?_⟩
    exact List.forall_mem_append.2 ⟨aims, List.forall_mem_singleton.2 aim⟩
  · cases elsewhere : patcher.loadFor (withoutForward other.output (next.moved move))
        (next.moved move) with
    | error fault =>
      rw [found, elsewhere] at loads
      cases loads
    | ok pair =>
      rw [found, elsewhere] at loads
      obtain rfl : pair = (kind, load.moved move) := Option.some_inj.1 loads
      rw [step, Patcher.advance_of_ok method (stopped.trans running) (same.trans calls) elsewhere,
        output, kept]
      obtain ⟨constant, offset, -, rfl⟩ := patcher.exists_constant_of_loadFor found
      refine ⟨reports.record kind, ?_, rfl, ?_⟩
      · rw [← List.map_dropLast]
        exact extended _ _
      · refine List.forall_mem_append.2 ⟨?_, List.forall_mem_singleton.2 ?_⟩
        · exact fun instruction inside => left instruction (List.dropLast_subset _ inside)
        · exact constant.keepsAim_load offset move code
  · cases elsewhere : patcher.loadFor (withoutForward other.output (next.moved move))
        (next.moved move) with
    | ok pair =>
      rw [found, elsewhere] at loads
      cases loads
    | error fault =>
      rw [step,
        Patcher.advance_of_error method (stopped.trans running) (same.trans calls) elsewhere,
        output, kept]
      refine ⟨reports.fail method _ _ error fault, extended _ _, rfl, ?_⟩
      exact List.forall_mem_append.2 ⟨left, List.forall_mem_singleton.2 aim⟩

/-- Rewrites stay together over a part of the code and that part moved. -/
theorem Shifted.foldl (shifted : Shifted move code done other) (method : Method)
    (aims : ∀ instruction ∈ code, instruction.KeepsAim move code) {rest : List Instruction}
    (part : rest ⊆ code) :
    Shifted move code (rest.foldl (patcher.advance method) done)
      ((rest.map (·.moved move)).foldl (patcher.advance method) other) := by
  induction rest generalizing done other with
  | nil => exact shifted
  | cons next rest ih =>
    obtain ⟨member, part⟩ := List.cons_subset.1 part
    exact ih (shifted.advance patcher method member (aims next member)) part

end Rewrite

/-- In an ascending stream whose instructions take room, a jump that goes to where an instruction
starts, or behind all of them, keeps its aim when the stream is renumbered. -/
theorem JumpsToStarts.keepsAim {code : List Instruction} {move : Nat → Nat}
    (aims : JumpsToStarts code)
    (keeps : ∀ instruction ∈ code, ∀ target,
      move instruction.offset < move target ↔ instruction.offset < target) :
    ∀ instruction ∈ code, instruction.KeepsAim move code := by
  intro jump inside
  refine Instruction.keepsAim_of_target fun jumps target goes call member same => ?_
  have stays : ¬ call.offset < target := by
    intro behind
    have order := (keeps call member target).2 behind
    omega
  rcases aims jump inside jumps target goes with start | past
  · obtain ⟨other, there, rfl⟩ := List.mem_map.1 start
    have front : ¬ other.offset < call.offset := by
      intro behind
      have order := (keeps other there call.offset).2 behind
      omega
    omega
  · exact absurd (past call.offset (List.mem_map_of_mem member)) stays

/-- Renumbering a body before it is patched changes nothing: what the report counts, whether it has
a failure, and the new body. -/
theorem Patcher.patchMethod_renumber (patcher : Patcher) (unaided : patcher.cleaner? = none)
    (method : Method) (sharing : Option Interner) (ascending : Ascending method.body)
    (room : ∀ instruction ∈ method.body, 0 < instruction.size) (aims : JumpsToStarts method.body) :
    let patched := ((patcher.patchMethod method).run sharing).1
    let settled :=
      ((patcher.patchMethod { method with body := renumber method.body }).run sharing).1
    patched.1.Agrees settled.1 ∧ settled.2.body = patched.2.body := by
  intro patched settled
  let move := landing method.body (settle 0 method.body)
  have keeps (instruction : Instruction) (member : instruction ∈ method.body) (target : Nat) :
      move instruction.offset < move target ↔ instruction.offset < target := by
    obtain ⟨position, here⟩ := List.mem_iff_getElem?.1 member
    exact ascending.landing_lt_landing_iff here (room instruction member) target
  have start : Rewrite.Shifted move method.body ⟨.ofMethod, [], false⟩ ⟨.ofMethod, [], false⟩ :=
    ⟨.refl _, rfl, rfl, fun _ inside => absurd inside List.not_mem_nil⟩
  have shifted : Rewrite.Shifted move method.body (patcher.rewritten method)
      (patcher.rewritten { method with body := method.body.map (·.moved move) }) :=
    start.foldl patcher method (aims.keepsAim keeps) (List.Subset.refl _)
  have places : (offsets (patcher.rewritten method).output).Sublist (offsets method.body) := by
    have edits := patcher.edits_sweep method .ofMethod [] method.body
    rw [sweep_eq_foldl] at edits
    exact (remains_of_edits edits).offsets
  have left : ∀ instruction ∈ (patcher.rewritten method).output, ∀ target,
      move instruction.offset < move target ↔ instruction.offset < target := by
    intro instruction member
    obtain ⟨old, inside, same⟩ := List.mem_map.1 (places.subset (List.mem_map_of_mem member))
    rw [← same]
    exact keeps old inside
  have outcome : patched = _ := patcher.run_patchMethod_eq_rewritten unaided method sharing
  have after : settled = _ := patcher.run_patchMethod_eq_rewritten unaided _ sharing
  rw [ascending.renumber_eq_map_moved] at after
  rw [outcome, after]
  refine ⟨shifted.reports, ?_⟩
  show renumber _ = renumber _
  rw [shifted.output, renumber_map_moved left]

end ConstantRecovery
