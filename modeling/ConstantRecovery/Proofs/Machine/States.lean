import ConstantRecovery.Proofs.Machine.Execution

/-!
# The states of a run

The states that a run comes through are listed in order: the one it starts from, the one behind
each instruction, and, where an instruction fails, the one it fails in. What every step keeps,
failing or not, holds in all of them. A run that fails has reached its limit, has jumped to where
no instruction starts, or has executed an instruction that fails with the same fault.
-/

namespace ConstantRecovery

/-- The states that a run comes through, in order. -/
def states (code : List Instruction) (left cursor : Nat) (context : Context) : List Context :=
  match code[cursor]? with
  | none => [context]
  | some instruction =>
    match left with
    | 0 => [context]
    | left + 1 =>
      match step instruction { context with position := instruction.offset } with
      | .error _ after => [context, after]
      | .ok .proceed after => context :: states code left (cursor + 1) after
      | .ok (.jump target) after =>
        match after.indexOf target with
        | .ok cursor => context :: states code left cursor after
        | .error _ => [context, after]
      | .ok .finish after => [context, after]

/-- The states that a run of the routine comes through. -/
def Routine.states (routine : Routine) : List Context :=
  ConstantRecovery.states routine.code routine.limits.allowance 0 routine.start

/-- A lookup fails with the offset that it looked for. -/
theorem Context.invalidBranchTarget_of_indexOf {context : Context} {target : Nat} {fault : Fault}
    (lost : context.indexOf target = .error fault) : fault = .invalidBranchTarget target := by
  unfold indexOf at lost
  split at lost
  · cases lost
  · cases lost
    rfl

section Runs

variable {limits : Limits} {code : List Instruction} {left cursor : Nat} {context after : Context}

/-- What every instruction of the code keeps, succeeding or failing, holds in every state of a run.
The induction follows the run. -/
theorem forall_mem_states {keeps : Context → Prop}
    (succeeds : ∀ instruction ∈ code, ∀ before next after, keeps before →
      step instruction (before.at instruction) = .ok next after → keeps after)
    (fails : ∀ instruction ∈ code, ∀ before fault after, keeps before →
      step instruction (before.at instruction) = .error fault after → keeps after)
    (start : keeps context) : ∀ state ∈ states code left cursor context, keeps state := by
  fun_induction states code left cursor context with
  | case1 | case2 => exact List.forall_mem_singleton.2 start
  | case3 cursor context instruction here left fault after stepped =>
    have kept := fails instruction (List.mem_of_getElem? here) context fault after start stepped
    exact List.forall_mem_cons.2 ⟨start, List.forall_mem_singleton.2 kept⟩
  | case4 cursor context instruction here left after stepped ih =>
    have kept := succeeds instruction (List.mem_of_getElem? here) context _ after start stepped
    exact List.forall_mem_cons.2 ⟨start, ih kept⟩
  | case5 cursor context instruction here left target after stepped place lands ih =>
    have kept := succeeds instruction (List.mem_of_getElem? here) context _ after start stepped
    exact List.forall_mem_cons.2 ⟨start, ih kept⟩
  | case6 cursor context instruction here left target after stepped =>
    have kept := succeeds instruction (List.mem_of_getElem? here) context _ after start stepped
    exact List.forall_mem_cons.2 ⟨start, List.forall_mem_singleton.2 kept⟩
  | case7 cursor context instruction here left after stepped =>
    have kept := succeeds instruction (List.mem_of_getElem? here) context _ after start stepped
    exact List.forall_mem_cons.2 ⟨start, List.forall_mem_singleton.2 kept⟩

/-- A run that succeeds ends in one of its states. The induction follows the run. -/
theorem mem_states_of_runFrom (ended : runFrom limits code left cursor context = .ok after) :
    after ∈ states code left cursor context := by
  fun_induction runFrom limits code left cursor context with
  | case1 left cursor context behind =>
    cases ended
    unfold states
    rw [behind]
    exact List.mem_singleton_self _
  | case2 | case3 | case6 => cases ended
  | case4 cursor context instruction here left middle stepped ih =>
    unfold states
    simp only [here, stepped]
    exact List.mem_cons_of_mem _ (ih ended)
  | case5 cursor context instruction here left target middle stepped place lands ih =>
    unfold states
    simp only [here, stepped, lands]
    exact List.mem_cons_of_mem _ (ih ended)
  | case7 cursor context instruction here left middle stepped =>
    cases ended
    unfold states
    simp only [here, stepped]
    exact List.mem_cons_of_mem _ (List.mem_singleton_self _)

/-- Why a run fails: the limit, a jump to where no instruction starts, or an instruction of the
code. The induction follows the run. -/
theorem cause_of_runFrom {fault : Fault}
    (failed : runFrom limits code left cursor context = .error fault) :
    fault = limits.exceeded ∨ (∃ target, fault = .invalidBranchTarget target) ∨
      ∃ instruction ∈ code, ∃ before after, step instruction before = .error fault after := by
  fun_induction runFrom limits code left cursor context with
  | case1 | case7 => cases failed
  | case2 =>
    cases failed
    exact .inl rfl
  | case3 cursor context instruction here left other after stepped =>
    cases failed
    exact .inr (.inr ⟨instruction, List.mem_of_getElem? here, _, after, stepped⟩)
  | case4 cursor context instruction here left after stepped ih => exact ih failed
  | case5 cursor context instruction here left target after stepped place lands ih =>
    exact ih failed
  | case6 cursor context instruction here left target after stepped other lost =>
    cases failed
    exact .inr (.inl ⟨target, Context.invalidBranchTarget_of_indexOf lost⟩)

end Runs

end ConstantRecovery
