import ConstantRecovery.Machine.Step

/-!
# Which faults a step can raise

An operation on values fails for their kinds alone, and a look-up fails with what it looked for.
A fault that no part of a computation raises is not raised by the whole. So no instruction fails
with the fault of a limit: cutting a run off is left to the run.
-/

namespace ConstantRecovery

/-! ## Operations on values -/

/-- The fault says that a value is of the wrong kind. -/
def Fault.IsMismatch : Fault → Prop
  | typeMismatch _ _ _ => True
  | _ => False

section Values

variable {fault : Fault} {left right value amount : Value} {context : Context}

/-- Adding, subtracting and multiplying fail for the kinds of the operands only. -/
theorem Arithmetic.isMismatch_of_apply {operation : Arithmetic}
    (failed : operation.apply left right = .error fault) : fault.IsMismatch := by
  cases left <;> cases right <;> cases failed <;> trivial

/-- Bitwise operations fail for the kinds of the operands only. -/
theorem Bitwise.isMismatch_of_apply {operation : Bitwise}
    (failed : operation.apply left right = .error fault) : fault.IsMismatch := by
  cases left <;> cases right <;> cases failed <;> trivial

/-- Shifts fail for the kinds of the number and of the amount only. -/
theorem Shift.isMismatch_of_apply {operation : Shift}
    (failed : operation.apply value amount = .error fault) : fault.IsMismatch := by
  cases amount <;> cases value <;> cases failed <;> trivial

/-- Negating fails for the kind of the value only. -/
theorem Value.isMismatch_of_negate (failed : value.negate = .error fault) : fault.IsMismatch := by
  cases value <;> cases failed
  trivial

/-- Complementing fails for the kind of the value only. -/
theorem Value.isMismatch_of_complement (failed : value.complement = .error fault) :
    fault.IsMismatch := by
  cases value <;> cases failed <;> trivial

/-- Widening to 64 bits fails for the kind of the value only. -/
theorem Value.isMismatch_of_widen (failed : value.widen = .error fault) : fault.IsMismatch := by
  cases value <;> cases failed <;> trivial

/-- Comparing fails for the kinds of the two values only. -/
theorem Value.isMismatch_of_equals {operation : String}
    (failed : left.equals operation right = .error fault) : fault.IsMismatch := by
  cases left <;> cases right <;> cases failed <;> trivial

/-- An argument that cannot be read was not passed, and the fault says which one. -/
theorem Context.eq_of_argument {index : UInt16}
    (failed : context.argument index = .error fault) : fault = .uninitializedArgument index := by
  unfold argument at failed
  split at failed <;> cases failed
  rfl

/-- A local variable that cannot be read has no value, and the fault says which one. -/
theorem Context.eq_of_localValue {index : UInt16}
    (failed : context.localValue index = .error fault) : fault = .uninitializedLocal index := by
  unfold localValue at failed
  split at failed <;> cases failed
  rfl

/-- An array whose elements cannot be read is not there. -/
theorem Context.eq_of_elements {array : Nat} (failed : context.elements array = .error fault) :
    fault = .invalidArrayReference := by
  unfold elements at failed
  split at failed <;> cases failed
  rfl

/-- An index that names no place in an array is no integer, or lies outside the array. -/
theorem isMismatch_or_of_elementSlot {operation : String} {length : Nat} {index : Value}
    (failed : elementSlot operation length index = .error fault) :
    fault.IsMismatch ∨ ∃ number : Int, fault = .arrayIndexOutOfRange number length := by
  cases index with
  | int32 index | int64 index =>
    dsimp only [elementSlot] at failed
    split at failed <;> cases failed
    exact .inr ⟨_, rfl⟩
  | _ =>
    cases failed
    exact .inl trivial

end Values

/-! ## Computations -/

namespace Action

variable {α β : Type} {avoided : Fault → Prop}

/-- The computation raises no fault of this kind. -/
def Avoids (avoided : Fault → Prop) (action : Action α) : Prop :=
  ∀ context fault after, action context = .error fault after → ¬ avoided fault

/-- A result that is given at once raises nothing. -/
theorem Avoids.pure (result : α) : Avoids avoided (Pure.pure result) :=
  fun _ _ _ failed => nomatch failed

/-- A computation that only fails raises its own fault and no other. -/
theorem Avoids.throw {fault : Fault} (spared : ¬ avoided fault) :
    Avoids avoided (throw fault : Action α) := by
  intro context other after failed
  cases failed
  exact spared

/-- Two computations in a row raise what one of them raises. -/
theorem Avoids.bind {first : Action α} {rest : α → Action β} (front : first.Avoids avoided)
    (last : ∀ value, (rest value).Avoids avoided) : Avoids avoided (first >>= rest) := by
  intro context fault after failed
  change EStateM.bind first rest context = _ at failed
  unfold EStateM.bind at failed
  cases done : first context with
  | error other middle =>
    rw [done] at failed
    cases failed
    exact front context fault after done
  | ok value middle =>
    rw [done] at failed
    exact last value middle fault after failed

/-- Reading the state raises nothing. -/
theorem Avoids.get : Avoids avoided get :=
  nofun

/-- Changing the state raises nothing. -/
theorem Avoids.modify (change : Context → Context) : Avoids avoided (modify change) :=
  nofun

/-- Putting a value on the stack raises nothing. -/
theorem Avoids.push (value : Value) : Avoids avoided (push value) :=
  nofun

/-- Taking a value off the stack raises an underflow at most. -/
theorem Avoids.pop (spared : ∀ offset, ¬ avoided (.stackUnderflow offset)) :
    Avoids avoided pop := by
  intro context fault after failed
  obtain ⟨arguments, locals, starts, stack, arrays, position⟩ := context
  cases stack <;> cases failed
  exact spared position

/-- Asking for a result that may be missing raises the fault that is named for it at most. -/
theorem Avoids.require {fault : Fault} (spared : ¬ avoided fault) (result : Option α) :
    Avoids avoided (require fault result) := by
  intro context other after failed
  cases result <;> cases failed
  exact spared

/-- A partial result raises its own fault at most. -/
theorem Avoids.ofExcept {result : Except Fault α}
    (spared : ∀ fault, result = .error fault → ¬ avoided fault) :
    Avoids avoided (ofExcept result) := by
  intro context fault after failed
  cases result <;> cases failed
  exact spared fault rfl

end Action

/-! ## Limits -/

/-- The fault of a run that is cut off. -/
def Fault.CutsOff : Fault → Prop
  | instructionLimitExceeded _ _ | stepCounterExhausted => True
  | _ => False

/-- A value of the wrong kind cuts no run off. -/
theorem Fault.IsMismatch.not_cutsOff {fault : Fault} (mismatch : fault.IsMismatch) :
    ¬ fault.CutsOff := by
  cases fault <;> first | exact id | cases mismatch

namespace Action

/-- Combining two values cuts no run off, if the operation fails for their kinds only. -/
theorem avoids_combine {operation : Value → Value → Except Fault Value}
    (spared : ∀ left right fault, operation left right = .error fault → fault.IsMismatch) :
    (combine operation).Avoids Fault.CutsOff :=
  .bind (.pop fun _ => id) fun right => .bind (.pop fun _ => id) fun left =>
    .bind (.ofExcept fun fault failed => (spared left right fault failed).not_cutsOff)
      fun value => .bind (.push value) fun _ => .pure _

/-- Converting a value cuts no run off, if the operation fails for its kind only. -/
theorem avoids_convert {operation : Value → Except Fault Value}
    (spared : ∀ value fault, operation value = .error fault → fault.IsMismatch) :
    (convert operation).Avoids Fault.CutsOff :=
  .bind (.pop fun _ => id) fun value =>
    .bind (.ofExcept fun fault failed => (spared value fault failed).not_cutsOff)
      fun result => .bind (.push result) fun _ => .pure _

/-- Looking up an array cuts no run off. -/
theorem avoids_elements (context : Context) (array : Nat) :
    (ofExcept (context.elements array)).Avoids Fault.CutsOff :=
  .ofExcept fun _ failed => Context.eq_of_elements failed ▸ id

/-- Looking up a place in an array cuts no run off. -/
theorem avoids_elementSlot (operation : String) (length : Nat) (index : Value) :
    (ofExcept (elementSlot operation length index)).Avoids Fault.CutsOff := by
  refine .ofExcept fun fault failed => ?_
  rcases isMismatch_or_of_elementSlot failed with mismatch | ⟨number, rfl⟩
  · exact mismatch.not_cutsOff
  · exact id

/-- Loading an element cuts no run off. -/
theorem avoids_loadElement : loadElement.Avoids Fault.CutsOff :=
  .bind (.pop fun _ => id) fun index => .bind (.pop fun _ => id) fun value =>
    .bind (.require id value.arrayRef?) fun array => .bind .get fun context =>
      .bind (avoids_elements context array) fun elements =>
        .bind (avoids_elementSlot _ elements.length index) fun _ =>
          .bind (.push _) fun _ => .pure _

/-- Storing an element cuts no run off. -/
theorem avoids_storeElement : storeElement.Avoids Fault.CutsOff :=
  .bind (.pop fun _ => id) fun value => .bind (.pop fun _ => id) fun index =>
    .bind (.pop fun _ => id) fun target => .bind (.require id value.int32?) fun _ =>
      .bind (.require id target.arrayRef?) fun array => .bind .get fun context =>
        .bind (avoids_elements context array) fun elements =>
          .bind (avoids_elementSlot _ elements.length index) fun _ =>
            .bind (.modify _) fun _ => .pure _

end Action

/-- No operation fails with the fault of a limit. -/
theorem Operation.avoids_perform (instruction : Instruction) (operation : Operation) :
    (operation.perform instruction).Avoids Fault.CutsOff := by
  cases operation with
  | skip | finish => exact .pure _
  | loadConstant =>
    exact .bind (.require id instruction.literal?) fun value => .bind (.push value) fun _ => .pure _
  | loadArgument =>
    exact .bind (.require id instruction.loadedArgument?) fun _ => .bind .get fun _ =>
      .bind (.ofExcept fun _ failed => Context.eq_of_argument failed ▸ id) fun value =>
        .bind (.push value) fun _ => .pure _
  | loadLocal =>
    exact .bind (.require id instruction.loadedLocal?) fun _ => .bind .get fun _ =>
      .bind (.ofExcept fun _ failed => Context.eq_of_localValue failed ▸ id) fun value =>
        .bind (.push value) fun _ => .pure _
  | storeLocal =>
    exact .bind (.require id instruction.storedLocal?) fun _ => .bind (.pop fun _ => id)
      fun _ => .bind (.modify _) fun _ => .pure _
  | loadElement => exact Action.avoids_loadElement
  | storeElement => exact Action.avoids_storeElement
  | arithmetic operation => exact Action.avoids_combine fun _ _ _ => Arithmetic.isMismatch_of_apply
  | bitwise operation => exact Action.avoids_combine fun _ _ _ => Bitwise.isMismatch_of_apply
  | shift operation => exact Action.avoids_combine fun _ _ _ => Shift.isMismatch_of_apply
  | negate => exact Action.avoids_convert fun _ _ => Value.isMismatch_of_negate
  | complement => exact Action.avoids_convert fun _ _ => Value.isMismatch_of_complement
  | widen => exact Action.avoids_convert fun _ _ => Value.isMismatch_of_widen
  | jump => exact .bind (.require id instruction.target?) fun _ => .pure _
  | jumpIfEqual wanted =>
    exact .bind (.require id instruction.target?) fun _ => .bind (.pop fun _ => id)
      fun _ => .bind (.pop fun _ => id) fun _ =>
        .bind (.ofExcept fun _ failed => (Value.isMismatch_of_equals failed).not_cutsOff)
          fun _ => .pure _

/-- No step fails with the fault of a limit. -/
theorem avoids_step (instruction : Instruction) : (step instruction).Avoids Fault.CutsOff := by
  unfold step
  cases Operation.ofOpcode? instruction.lead instruction.opcode with
  | some operation => exact operation.avoids_perform instruction
  | none => exact .throw id

end ConstantRecovery
