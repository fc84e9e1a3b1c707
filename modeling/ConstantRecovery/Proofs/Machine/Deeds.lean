import ConstantRecovery.Proofs.Code.Built
import ConstantRecovery.Proofs.Machine.Execution
import Mathlib.Data.List.Forall2

/-!
# Straight code

Straight code loads arguments, numbers and local variables, combines two values into one
and stores into local variables. What it does can be worked out without the machine, and
without asking where an instruction stands or in which of its forms it is written. Where
that gives a result, the machine runs through the code and comes out with the same one.
-/

namespace ConstantRecovery

/-- What an operation makes of two values, if it takes two and puts one in their place. -/
def Operation.combination? : Operation → Option (Value → Value → Except Fault Value)
  | .arithmetic operation => some operation.apply
  | .bitwise operation => some operation.apply
  | .shift operation => some operation.apply
  | _ => none

/-- What an instruction of straight code is there for. -/
inductive Deed where
  | loadArgument (index : UInt16)
  | loadNumber (value : Int32)
  | loadLocal (index : UInt16)
  | storeLocal (index : UInt16)
  /-- Puts a value in the place of two. -/
  | combine (operation : Operation)
deriving DecidableEq

/-- The instruction is there for the deed, in any of its forms. -/
def Instruction.Does (instruction : Instruction) : Deed → Prop
  | .loadArgument index => instruction.loadedArgument? = some index
  | .loadNumber value => instruction.int32Literal? = some value
  | .loadLocal index => instruction.loadedLocal? = some index
  | .storeLocal index => instruction.storedLocal? = some index
  | .combine operation =>
    Operation.ofOpcode? instruction.lead instruction.opcode = some operation

/-- What an instruction is there for does not depend on where it stands. -/
theorem forall₂_does_settle {code : List Instruction} {deeds : List Deed}
    (does : List.Forall₂ Instruction.Does code deeds) (start : Nat) :
    List.Forall₂ Instruction.Does (settle start code) deeds := by
  induction does generalizing start with
  | nil => exact .nil
  | @cons instruction deed code deeds first _ ih =>
    have placed : (instruction.placedAt start).Does deed := by
      cases deed <;> exact first
    exact .cons placed (ih _)

/-- The state after a deed, if it can be done. -/
def Deed.on? (context : Context) : Deed → Option Context
  | .loadArgument index => (context.arguments.get? index).map context.push
  | .loadNumber value => some (context.push (.int32 value))
  | .loadLocal index => (context.locals.get? index).map context.push
  | .storeLocal index =>
    match context.stack with
    | value :: stack => some ({ context with stack }.setLocal index value)
    | [] => none
  | .combine operation =>
    match operation.combination?, context.stack with
    | some combined, right :: left :: stack =>
      match combined left right with
      | .ok value => some { context with stack := value :: stack }
      | .error _ => none
    | _, _ => none

section Steps

variable {instruction : Instruction} {deed : Deed} {context after : Context}

/-- Combining takes two values from the stack and puts the result there. -/
theorem step_of_combination? {operation : Operation} {left right value : Value}
    {stack : List Value} {combined : Value → Value → Except Fault Value}
    (known : Operation.ofOpcode? instruction.lead instruction.opcode = some operation)
    (combines : operation.combination? = some combined)
    (loaded : context.stack = right :: left :: stack) (result : combined left right = .ok value) :
    step instruction context = .ok .proceed { context with stack := value :: stack } := by
  have perform : operation.perform instruction = Action.combine combined := by
    cases operation with
    | arithmetic | bitwise | shift =>
      cases combines
      rfl
    | _ => cases combines
  obtain ⟨arguments, locals, starts, _, arrays, position⟩ := context
  cases loaded
  have body (context : Context) :
      step instruction context = Action.combine combined context := by
    rw [step, known]
    exact congrFun perform context
  have unfolded : Action.combine combined
        ⟨arguments, locals, starts, right :: left :: stack, arrays, position⟩ =
      ((Action.ofExcept (combined left right) >>= fun value => do
        Action.push value
        return .proceed : Action Next)) ⟨arguments, locals, starts, stack, arrays, position⟩ := rfl
  rw [body, unfolded, result]
  rfl

/-- The machine does what the deed is. -/
theorem step_of_does (does : instruction.Does deed) (done : deed.on? context = some after) :
    step instruction context = .ok .proceed after := by
  cases deed with
  | loadArgument index =>
    obtain ⟨value, passed, rfl⟩ := Option.map_eq_some_iff.1 done
    exact step_of_loadedArgument? does passed
  | loadNumber value =>
    cases done
    exact step_of_int32Literal? does
  | loadLocal index =>
    obtain ⟨value, held, rfl⟩ := Option.map_eq_some_iff.1 done
    exact step_of_loadedLocal? does held
  | storeLocal index =>
    unfold Deed.on? at done
    dsimp only at done
    split at done
    · rename_i value stack loaded
      cases done
      exact step_of_storedLocal? does loaded
    · cases done
  | combine operation =>
    unfold Deed.on? at done
    dsimp only at done
    split at done
    · rename_i combined right left stack combines loaded
      split at done
      · rename_i value result
        cases done
        exact step_of_combination? does combines loaded result
      · cases done
    · cases done

/-- A deed has nothing to do with where its instruction stands. -/
theorem Deed.on?_position (context : Context) (deed : Deed) (position : Nat) :
    deed.on? { context with position } =
      (deed.on? context).map fun after => { after with position } := by
  obtain ⟨arguments, locals, starts, stack, arrays, there⟩ := context
  cases deed with
  | loadArgument index => simp only [on?, Option.map_map]; rfl
  | loadNumber value => rfl
  | loadLocal index => simp only [on?, Option.map_map]; rfl
  | storeLocal index => cases stack <;> rfl
  | combine operation =>
    simp only [on?]
    split
    · split <;> rfl
    · rfl

end Steps

/-- The machine runs through straight code whose deeds can be done one after the other, and comes
out in the state they lead to. -/
theorem executes_of_forall₂ {limits : Limits} {code stretch behind : List Instruction}
    {deeds : List Deed} (does : List.Forall₂ Instruction.Does stretch deeds) {cursor : Nat}
    (stands : code.drop cursor = stretch ++ behind) {context after : Context}
    (done : deeds.foldlM Deed.on? context = some after) (start : Nat) :
    ∃ position, Executes limits code deeds.length cursor { context with position := start }
      (cursor + deeds.length) { after with position } := by
  induction does generalizing cursor context start with
  | nil =>
    cases done
    exact ⟨start, .refl limits code cursor _⟩
  | @cons instruction deed rest deeds first _ ih =>
    rw [List.foldlM_cons] at done
    obtain ⟨middle, now, later⟩ := Option.bind_eq_some_iff.1 done
    have here : code[cursor]? = some instruction := by
      rw [← List.head?_drop, stands]
      rfl
    have next : code.drop (cursor + 1) = rest ++ behind := by
      rw [← List.tail_drop, stands]
      rfl
    -- The machine is at the instruction now; for the deed that makes no difference.
    have moved : deed.on? { context with position := instruction.offset } =
        some { middle with position := instruction.offset } := by
      rw [Deed.on?_position, now]
      rfl
    have front : Executes limits code 1 cursor { context with position := start } (cursor + 1)
        { middle with position := instruction.offset } :=
      executes_of_proceed here (step_of_does first moved)
    obtain ⟨position, back⟩ := ih next later instruction.offset
    have whole := front.trans back
    rw [Nat.add_assoc, Nat.add_comm 1] at whole
    exact ⟨position, whole⟩

/-- A routine of straight code and a return ends in the state the deeds lead to, if the limit allows
them and the return. -/
theorem emulate_of_forall₂ {routine : Routine} {stretch : List Instruction} {last : Instruction}
    {deeds : List Deed} {after : Context} (shape : routine.code = stretch ++ [last])
    (does : List.Forall₂ Instruction.Does stretch deeds)
    (returns : last.isPlain Opcode.Code.ret = true)
    (done : deeds.foldlM Deed.on? routine.start = some after) :
    ∃ position, routine.emulate =
      if deeds.length + 1 ≤ routine.limits.allowance then .ok { after with position }
      else .error routine.limits.exceeded := by
  have stands : routine.code.drop 0 = stretch ++ [last] := shape
  obtain ⟨position, front⟩ := @executes_of_forall₂ routine.limits _ _ _ _ does 0 stands _ _ done 0
  have here : routine.code[0 + deeds.length]? = some last := by
    rw [shape, Nat.zero_add, ← does.length_eq, List.getElem?_concat_length]
  have ends : step last ({ after with position : Context }.at last) =
      .ok .finish { after with position := last.offset } := by
    rw [step, Instruction.operation_of_isPlain returns rfl]
    rfl
  exact ⟨last.offset, front.finishes (finishes_of_finish here ends) routine.limits.allowance⟩

end ConstantRecovery
