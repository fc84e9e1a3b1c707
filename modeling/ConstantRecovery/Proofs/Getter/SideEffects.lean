import ConstantRecovery.Proofs.Getter.Reader
import ConstantRecovery.Proofs.Getter.Reduction
import ConstantRecovery.Proofs.Machine.Frames
import ConstantRecovery.Proofs.Machine.States

/-!
# A skeleton has no side effects

What survives neutralizing loads numbers and local variables, widens, compares and jumps.
Whatever a run of a skeleton starts from, it therefore leaves arguments, local variables
and arrays as they are, in the state in which it fails too, and every value it has on the
stack is a number of the skeleton, the value of a local variable, or one of these widened.
It asks for no argument and reaches into no array.
-/

namespace ConstantRecovery

/-- The value is a number that the code loads, or one that a local variable holds. -/
inductive Value.Given (code : List Instruction) (locals : FiniteMap UInt16 Value) : Value → Prop
  /-- An instruction loads it as a 32-bit number. -/
  | narrow {instruction : Instruction} {number : Int32} (member : instruction ∈ code)
      (loads : instruction.int32Literal? = some number) : Given code locals (.int32 number)
  /-- An instruction loads it as a 64-bit number. -/
  | wide {instruction : Instruction} {number : Int64} (member : instruction ∈ code)
      (plain : instruction.isPlain Opcode.Code.ldcI8)
      (loads : instruction.operand = .immediate (.int64 number)) : Given code locals (.int64 number)
  | held {index : UInt16} {value : Value} (holds : locals.get? index = some value) :
      Given code locals value

/-- The value is given, or a given 32-bit number widened with its sign. -/
def Value.Sourced (code : List Instruction) (locals : FiniteMap UInt16 Value) (value : Value) :
    Prop :=
  value.Given code locals ∨
    ∃ number : Int32, (Value.int32 number).Given code locals ∧ value = .int64 number.toInt64

section Steps

variable {code : List Instruction} {locals : FiniteMap UInt16 Value} {instruction : Instruction}
  {context after : Context} {value : Value}

/-- Of the instructions that carry a 64-bit number or a float, only the loads of 64-bit numbers
drive the dispatch. -/
theorem Instruction.IsBuilt.isPlain_ldcI8 (built : instruction.IsBuilt)
    (drives : instruction.drivesDispatch = true) (narrow : instruction.int32Literal? = none)
    (carries : instruction.opcode ∈
      [Opcode.Code.ldcI8, Opcode.Code.ldcR4, Opcode.Code.ldcR8]) :
    instruction.isPlain Opcode.Code.ldcI8 = true := by
  have table : ∀ lead ∈ [0, Opcode.extendedLead],
      ∀ code ∈ [Opcode.Code.ldcI8, Opcode.Code.ldcR4, Opcode.Code.ldcR8],
        Operation.ofOpcode? lead code ∈ [some .loadConstant, none] ∧
          ((Opcode.lookup lead code).map (·.flow)).getD .sequential = .sequential := by
    decide +kernel
  obtain ⟨lead, opcode, operand, known, same⟩ := id built
  have bytes : instruction.lead = lead ∧ instruction.opcode = opcode := by
    rw [same]
    exact build_bytes lead opcode operand
  have flow : instruction.flow = ((Opcode.lookup lead opcode).map (·.flow)).getD .sequential := by
    rw [same]
    exact build_flow lead opcode operand
  rw [bytes.2] at carries
  obtain ⟨operations, straight⟩ := table lead (List.mem_pair.2 known) opcode carries
  rw [← bytes.1, ← bytes.2] at operations
  simp only [drivesDispatch, Bool.or_eq_true] at drives
  rcases drives with ((((loads | number) | wide) | widens) | returns) | branches
  · obtain ⟨index, loads⟩ := Option.isSome_iff_exists.1 loads
    rw [operation_of_loadedLocal? loads] at operations
    exact absurd operations (by decide)
  · rw [isInt32Load, narrow] at number
    cases number
  · exact wide
  · rw [operation_of_isPlain widens rfl] at operations
    exact absurd operations (by decide)
  · rw [operation_of_isPlain returns rfl] at operations
    exact absurd operations (by decide)
  · rw [isBranch, flow, straight] at branches
    cases branches

/-- What an instruction of a skeleton loads is given by it. -/
theorem Instruction.IsSkeletal.given (skeletal : instruction.IsSkeletal)
    (member : instruction ∈ code) (loads : instruction.literal? = some value) :
    value.Given code locals := by
  obtain ⟨built, shape⟩ := skeletal
  have wide (narrow : instruction.int32Literal? = none)
      (carries : instruction.opcode ∈
        [Opcode.Code.ldcI8, Opcode.Code.ldcR4, Opcode.Code.ldcR8]) :
      instruction.isPlain Opcode.Code.ldcI8 = true := by
    rcases shape with drives | idle
    · exact built.isPlain_ldcI8 drives narrow carries
    · rw [(isPlain_iff.1 idle).2] at carries
      exact absurd carries (by decide)
  unfold literal? at loads
  split at loads
  · rename_i number narrow
    cases loads
    exact .narrow member narrow
  · rename_i narrow
    split at loads
    · rename_i number immediate
      split at loads
      · rename_i opcode
        cases loads
        exact .wide member (wide narrow (by rw [opcode]; decide)) immediate
      · cases loads
    · split at loads
      · rename_i opcode
        have plain := (isPlain_iff.1 (wide narrow (by rw [opcode]; decide))).2
        exact absurd (opcode.symm.trans plain) (by decide)
      · cases loads
    · split at loads
      · rename_i opcode
        have plain := (isPlain_iff.1 (wide narrow (by rw [opcode]; decide))).2
        exact absurd (opcode.symm.trans plain) (by decide)
      · cases loads
    · cases loads

/-- What a dispatch leaves on the stack has a source, if all that was there has one. -/
theorem Value.From.sourced (origin : value.From instruction context)
    (skeletal : instruction.IsSkeletal) (member : instruction ∈ code)
    (sourced : ∀ value ∈ context.stack, value.Sourced code context.locals) :
    value.Sourced code context.locals := by
  cases origin with
  | kept there => exact sourced value there
  | literal loads => exact .inl (skeletal.given member loads)
  | held holds => exact .inl (.held holds)
  | @widened narrow wide there widens =>
    cases narrow with
    | int32 number =>
      cases widens
      rcases sourced _ there with given | ⟨other, -, same⟩
      · exact .inr ⟨number, given, rfl⟩
      · cases same
    | _ => cases widens

end Steps

/-! ## Faults -/

/-- The fault of a load of an argument, or of an access to an array. -/
def Fault.ReachesOut : Fault → Prop
  | uninitializedArgument _ | invalidArrayReference | arrayIndexOutOfRange _ _ => True
  | _ => False

/-- A value of the wrong kind reaches out for nothing. -/
theorem Fault.IsMismatch.not_reachesOut {fault : Fault} (mismatch : fault.IsMismatch) :
    ¬ fault.ReachesOut := by
  cases fault <;> first | exact id | cases mismatch

/-- An operation of a dispatch asks for no argument and reaches into no array. -/
theorem Operation.avoids_of_dispatches {operation : Operation} (instruction : Instruction)
    (dispatches : operation.dispatches = true) :
    (operation.perform instruction).Avoids Fault.ReachesOut := by
  cases operation with
  | skip | finish => exact .pure _
  | loadConstant =>
    exact .bind (.require id instruction.literal?) fun value => .bind (.push value) fun _ => .pure _
  | loadLocal =>
    exact .bind (.require id instruction.loadedLocal?) fun index => .bind .get fun context =>
      .bind (.ofExcept fun _ failed => Context.eq_of_localValue failed ▸ id) fun value =>
        .bind (.push value) fun _ => .pure _
  | widen =>
    exact .bind (.pop fun _ => id) fun value =>
      .bind (.ofExcept fun _ failed => (Value.isMismatch_of_widen failed).not_reachesOut)
        fun wide => .bind (.push wide) fun _ => .pure _
  | jump => exact .bind (.require id instruction.target?) fun _ => .pure _
  | jumpIfEqual wanted =>
    exact .bind (.require id instruction.target?) fun _ => .bind (.pop fun _ => id) fun right =>
      .bind (.pop fun _ => id) fun left =>
        .bind (.ofExcept fun _ failed => (Value.isMismatch_of_equals failed).not_reachesOut)
          fun _ => .pure _
  | _ => cases dispatches

/-- No instruction of a skeleton asks for an argument or reaches into an array. -/
theorem Instruction.IsSkeletal.staysIn {instruction : Instruction}
    (skeletal : instruction.IsSkeletal) : (step instruction).Avoids Fault.ReachesOut := by
  unfold step
  cases known : Operation.ofOpcode? instruction.lead instruction.opcode with
  | some operation => exact operation.avoids_of_dispatches instruction (skeletal.dispatches known)
  | none => exact .throw id

/-! ## Runs -/

/-- A state in which a skeleton has had no side effects since the seeds: they are as they were, and
every value on the stack has a source. -/
structure Context.Untouched (routine : Routine) (context : Context) : Prop where
  /-- The arguments are those of the routine. -/
  arguments : context.arguments = routine.arguments
  /-- So are the local variables. -/
  locals : context.locals = routine.locals
  /-- So are the arrays. -/
  arrays : context.arrays = routine.arrays
  /-- What is on the stack comes from the code or from local variables. -/
  sourced : ∀ value ∈ context.stack, value.Sourced routine.code routine.locals

section Runs

variable {routine : Routine} {instruction : Instruction} {before after : Context}

/-- A state stays untouched when an instruction is fetched. -/
theorem Context.Untouched.placed (untouched : before.Untouched routine) :
    (before.at instruction).Untouched routine :=
  ⟨untouched.arguments, untouched.locals, untouched.arrays, untouched.sourced⟩

/-- An instruction of a skeleton that succeeds has no side effects. -/
theorem Context.Untouched.of_step {next : Next} (untouched : before.Untouched routine)
    (member : instruction ∈ routine.code) (skeletal : instruction.IsSkeletal)
    (done : step instruction before = .ok next after) : after.Untouched routine := by
  unfold step at done
  cases known : Operation.ofOpcode? instruction.lead instruction.opcode with
  | none =>
    rw [known] at done
    cases done
  | some operation =>
    rw [known] at done
    obtain ⟨stack, rfl, origins⟩ :=
      operation.exists_stack_of_dispatches (skeletal.dispatches known) done
    obtain ⟨arguments, locals, arrays, sourced⟩ := untouched
    refine ⟨arguments, locals, arrays, fun value there => ?_⟩
    rw [← locals] at sourced ⊢
    exact (origins value there).sourced skeletal member sourced

/-- An instruction that fails has taken values from the stack and done nothing else. -/
theorem Context.Untouched.of_failed_step {fault : Fault} (untouched : before.Untouched routine)
    (failed : step instruction before = .error fault after) : after.Untouched routine := by
  obtain ⟨taken, -, -, rfl⟩ := exists_without_of_step failed
  exact ⟨untouched.arguments, untouched.locals, untouched.arrays,
    fun value there => untouched.sourced value (List.mem_of_mem_drop there)⟩

end Runs

/-- What stands in a skeleton may stand in one. -/
theorem forall_isSkeletal_of_dispatchSkeleton {resolver : Resolver}
    {body skeleton : List Instruction} (built : ∀ instruction ∈ body, instruction.IsBuilt)
    (done : dispatchSkeleton resolver body = .ok skeleton) :
    ∀ instruction ∈ skeleton, instruction.IsSkeletal := by
  obtain ⟨kept, pruned⟩ := exists_prune?_buildBlocks body
  obtain ⟨dropped, reduces⟩ := exists_reduces built pruned done
  intro instruction member
  obtain ⟨cursor, here⟩ := List.mem_iff_getElem?.1 member
  obtain ⟨offset, shape⟩ := reduces.getElem?_skeleton cursor
  rw [here] at shape
  obtain ⟨original, there, rfl⟩ := Option.map_eq_some_iff.1 shape.symm
  exact ((reduces.skeletal original (List.mem_of_getElem? there)).mapSlots _).placedAt offset

/-- Running a skeleton has no side effects. Whatever a run of it starts from and however long it may
take, in every state it comes through, the one it ends or fails in included, arguments, local
variables and arrays are as they were, and every value on the stack is a number that the skeleton
loads, one that a local variable holds, or such a 32-bit number widened. And it never fails for
want of an argument or at an access to an array. -/
theorem skeleton_has_no_side_effects {resolver : Resolver} {body skeleton : List Instruction}
    (built : ∀ instruction ∈ body, instruction.IsBuilt)
    (done : dispatchSkeleton resolver body = .ok skeleton) (limits : Limits)
    (arguments locals : FiniteMap UInt16 Value) (arrays : List (List Int32)) :
    let routine : Routine := { code := skeleton, limits, arguments, locals, arrays }
    (∀ state ∈ routine.states, state.arguments = arguments ∧ state.locals = locals ∧
      state.arrays = arrays ∧ ∀ value ∈ state.stack, value.Sourced skeleton locals) ∧
    (∀ after, routine.emulate = .ok after → after ∈ routine.states) ∧
    (∀ index, routine.emulate ≠ .error (.uninitializedArgument index)) ∧
    routine.emulate ≠ .error .invalidArrayReference ∧
    ∀ index length, routine.emulate ≠ .error (.arrayIndexOutOfRange index length) := by
  intro routine
  have skeletal := forall_isSkeletal_of_dispatchSkeleton built done
  have untouched : ∀ state ∈ routine.states, state.Untouched routine := by
    refine forall_mem_states (fun instruction member before next after kept stepped => ?_)
      (fun instruction member before fault after kept failed => ?_) ⟨rfl, rfl, rfl, nofun⟩
    · exact kept.placed.of_step member (skeletal instruction member) stepped
    · exact kept.placed.of_failed_step failed
  have stays {fault : Fault} (failed : routine.emulate = .error fault) : ¬ fault.ReachesOut := by
    rcases cause_of_runFrom failed with
      rfl | ⟨target, rfl⟩ | ⟨instruction, member, before, after, stepped⟩
    · unfold Limits.exceeded
      split <;> exact id
    · exact id
    · exact (skeletal instruction member).staysIn before fault after stepped
  refine ⟨fun state member => ?_, fun after ended => mem_states_of_runFrom ended,
    fun index failed => stays failed trivial, fun failed => stays failed trivial,
    fun index length failed => stays failed trivial⟩
  obtain ⟨arguments, locals, arrays, sourced⟩ := untouched state member
  exact ⟨arguments, locals, arrays, sourced⟩

open GetterReader.Specimen in
/-- A prologue that loads a 64-bit number and widens the tag, probed for a tag below zero next to an
argument and an array: the run ends with both numbers still on the stack, and nothing else has
changed. -/
theorem skeleton_has_no_side_effects_of_negative_tag :
    let body := (plan [.ldcI8 7, .ldloc 0, .plain Opcode.Code.convU8 .bare]).body
    let skeleton := match dispatchSkeleton reader.resolver body with
      | .ok skeleton => skeleton
      | .error _ => []
    let arguments : FiniteMap UInt16 Value := FiniteMap.empty.set 0 (.arrayRef 0)
    let locals : FiniteMap UInt16 Value := (FiniteMap.empty.set 0 (.int32 (-1))).set 1 (.int32 9)
    let routine : Routine :=
      { code := skeleton, limits := reader.limits, arguments, locals, arrays := [[5]] }
    (∀ instruction ∈ body, instruction.IsBuilt) ∧
      dispatchSkeleton reader.resolver body = .ok skeleton ∧
      ∃ after, routine.emulate = .ok after ∧
        after.stack = [.int32 9, .int64 (-1), .int64 7, .int32 30, .int32 9] ∧
        after.arguments = arguments ∧ after.locals = locals ∧ after.arrays = [[5]] ∧
        (Value.int64 (-1)).Sourced skeleton locals := by
  intro body skeleton arguments locals routine
  have built : ∀ instruction ∈ body, instruction.IsBuilt := by decide +kernel
  have done : dispatchSkeleton reader.resolver body = .ok skeleton := by decide +kernel
  obtain ⟨kept, ends, -⟩ :=
    skeleton_has_no_side_effects built done reader.limits arguments locals [[5]]
  have stack : routine.emulate.map (·.stack) =
      .ok [.int32 9, .int64 (-1), .int64 7, .int32 30, .int32 9] := by
    decide +kernel
  cases emulated : routine.emulate with
  | error fault =>
    rw [emulated] at stack
    cases stack
  | ok after =>
    rw [emulated] at stack
    have shape : after.stack = [.int32 9, .int64 (-1), .int64 7, .int32 30, .int32 9] :=
      Except.ok.inj stack
    obtain ⟨sameArguments, sameLocals, sameArrays, sourced⟩ := kept after (ends after emulated)
    have wide : Value.int64 (-1) ∈ after.stack := by
      rw [shape]
      decide
    exact ⟨built, done, after, rfl, shape, sameArguments, sameLocals, sameArrays, sourced _ wide⟩

end ConstantRecovery
