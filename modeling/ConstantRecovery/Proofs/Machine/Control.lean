import ConstantRecovery.Proofs.Code.Built
import ConstantRecovery.Proofs.Machine.Relocation

/-!
# Where a step goes on

What an instruction does to control is decided by its operation alone: all but three
proceed, `ret` finishes, and the branches jump to the target in their operand. For a
built instruction the flow says the same. No step touches the offsets of the code, and
a step that fails names no offset but its own.
-/

namespace ConstantRecovery

/-- A computation yields results of some kind, stays where it is, and names no other place when
it fails. -/
def Action.Yields {α : Type} (action : Action α) (kind : α → Prop) : Prop :=
  ∀ context, match action context with
    | .ok result after =>
      kind result ∧ after.starts = context.starts ∧ after.position = context.position
    | .error fault _ => ∀ offset, fault.offset? = some offset → offset = context.position

namespace Action

variable {α β : Type} {kind : β → Prop}

/-- A result that is given at once is yielded. -/
theorem Yields.pure {result : β} (holds : kind result) :
    Action.Yields (Pure.pure result : Action β) kind :=
  fun _ => ⟨holds, rfl, rfl⟩

/-- What comes last decides about the result. -/
theorem Yields.bind {middle : α → Prop} {first : Action α} {rest : α → Action β}
    (front : first.Yields middle) (last : ∀ value, middle value → (rest value).Yields kind) :
    Action.Yields (first >>= rest) kind := by
  intro context
  change match EStateM.bind first rest context with
    | .ok result after => _
    | .error fault _ => _
  have here := front context
  unfold EStateM.bind
  cases done : first context with
  | error fault after =>
    rw [done] at here
    exact here
  | ok value after =>
    rw [done] at here
    obtain ⟨holds, starts, position⟩ := here
    have there := last value holds after
    rw [starts, position] at there
    exact there

/-- Reading the state moves nothing. -/
theorem Yields.get : Action.Yields get fun _ => True :=
  fun _ => ⟨trivial, rfl, rfl⟩

/-- Taking a value moves nothing, and an underflow names the place it is at. -/
theorem Yields.pop : Action.Yields pop fun _ => True := by
  intro context
  obtain ⟨arguments, locals, starts, stack, arrays, position⟩ := context
  cases stack with
  | nil =>
    intro offset named
    exact (Option.some.inj named).symm
  | cons top rest => exact ⟨trivial, rfl, rfl⟩

/-- Putting a value on the stack moves nothing. -/
theorem Yields.push (value : Value) : (push value).Yields fun _ => True :=
  fun _ => ⟨trivial, rfl, rfl⟩

/-- A result that is required is there. -/
theorem Yields.require {fault : Fault} (placeless : fault.offset? = none) (result : Option α) :
    (require fault result).Yields (result = some ·) := by
  intro context
  cases result with
  | some result => exact ⟨rfl, rfl, rfl⟩
  | none =>
    intro offset named
    rw [placeless] at named
    cases named

/-- A partial result moves nothing, if its fault names no place. -/
theorem Yields.ofExcept {result : Except Fault α} (placeless : Fault.PlacelessIn result) :
    (ofExcept result).Yields fun _ => True := by
  intro context
  cases result with
  | ok result => exact ⟨trivial, rfl, rfl⟩
  | error fault =>
    intro offset named
    rw [placeless fault rfl] at named
    cases named

/-- Combining two values proceeds. -/
theorem yields_combine {operation : Value → Value → Except Fault Value}
    (placeless : ∀ left right, Fault.PlacelessIn (operation left right)) :
    (combine operation).Yields (· = .proceed) :=
  .bind .pop fun right _ => .bind .pop fun left _ => .bind (.ofExcept (placeless left right))
    fun value _ => .bind (.push value) fun _ _ => .pure rfl

/-- Converting a value proceeds. -/
theorem yields_convert {operation : Value → Except Fault Value}
    (placeless : ∀ value, Fault.PlacelessIn (operation value)) :
    (convert operation).Yields (· = .proceed) :=
  .bind .pop fun value _ => .bind (.ofExcept (placeless value)) fun result _ =>
    .bind (.push result) fun _ _ => .pure rfl

/-- A reference to an array is yielded, if the value is one. -/
theorem yields_arrayOf (operation : String) (value : Value) :
    (arrayOf operation value).Yields (value.arrayRef? = some ·) :=
  .require rfl value.arrayRef?

/-- Loading an element proceeds. -/
theorem yields_loadElement : loadElement.Yields (· = .proceed) :=
  .bind .pop fun index _ => .bind .pop fun value _ => .bind (yields_arrayOf _ value)
    fun array _ => .bind .get fun context _ =>
      .bind (.ofExcept (Fault.placelessIn_elements context array)) fun elements _ =>
        .bind (.ofExcept (Fault.placelessIn_elementSlot _ elements.length index)) fun _ _ =>
          .bind (.push _) fun _ _ => .pure rfl

/-- Storing an element proceeds. -/
theorem yields_storeElement : storeElement.Yields (· = .proceed) := by
  have stored (array slot : Nat) (number : Int32) :
      Action.Yields (modify (·.setElement array slot number)) fun _ => True :=
    fun _ => ⟨trivial, rfl, rfl⟩
  exact .bind .pop fun value _ => .bind .pop fun index _ => .bind .pop fun target _ =>
    .bind (.require rfl value.int32?) fun number _ => .bind (yields_arrayOf _ target)
      fun array _ => .bind .get fun context _ =>
        .bind (.ofExcept (Fault.placelessIn_elements context array)) fun elements _ =>
          .bind (.ofExcept (Fault.placelessIn_elementSlot _ elements.length index)) fun slot _ =>
            .bind (stored array slot number) fun _ _ => .pure rfl

end Action

/-- The ways on that an operation leaves open. -/
def Operation.Allows (instruction : Instruction) (operation : Operation) (next : Next) : Prop :=
  match operation with
  | .jump => ∃ target, instruction.target? = some target ∧ next = .jump target
  | .jumpIfEqual _ =>
    next = .proceed ∨ ∃ target, instruction.target? = some target ∧ next = .jump target
  | .finish => next = .finish
  | _ => next = .proceed

/-- An operation goes on in a way it leaves open. -/
theorem Operation.yields_perform (instruction : Instruction) (operation : Operation) :
    (operation.perform instruction).Yields (operation.Allows instruction) := by
  cases operation with
  | skip => exact .pure rfl
  | loadConstant =>
    exact .bind (.require rfl _) fun value _ => .bind (.push value) fun _ _ => .pure rfl
  | loadArgument =>
    exact .bind (.require rfl _) fun index _ => .bind .get fun context _ =>
      .bind (.ofExcept (Fault.placelessIn_argument context index)) fun value _ =>
        .bind (.push value) fun _ _ => .pure rfl
  | loadLocal =>
    exact .bind (.require rfl _) fun index _ => .bind .get fun context _ =>
      .bind (.ofExcept (Fault.placelessIn_localValue context index)) fun value _ =>
        .bind (.push value) fun _ _ => .pure rfl
  | storeLocal =>
    refine .bind (.require rfl _) fun index _ => .bind .pop fun value _ => ?_
    have stored : Action.Yields (modify (·.setLocal index value)) fun _ => True :=
      fun _ => ⟨trivial, rfl, rfl⟩
    exact .bind stored fun _ _ => .pure rfl
  | loadElement => exact Action.yields_loadElement
  | storeElement => exact Action.yields_storeElement
  | arithmetic operation => exact Action.yields_combine (Fault.placelessIn_arithmetic operation)
  | bitwise operation => exact Action.yields_combine (Fault.placelessIn_bitwise operation)
  | shift operation => exact Action.yields_combine (Fault.placelessIn_shift operation)
  | negate => exact Action.yields_convert Fault.placelessIn_negate
  | complement => exact Action.yields_convert Fault.placelessIn_complement
  | widen => exact Action.yields_convert Fault.placelessIn_widen
  | jump => exact .bind (.require rfl _) fun target known => .pure ⟨target, known, rfl⟩
  | jumpIfEqual wanted =>
    refine .bind (.require rfl _) fun target known => .bind .pop fun right _ =>
      .bind .pop fun left _ => .bind (.ofExcept (Fault.placelessIn_equals _ left right))
        fun equal _ => ?_
    by_cases hit : equal = wanted
    · rw [if_pos hit]
      exact .pure (.inr ⟨target, known, rfl⟩)
    · rw [if_neg hit]
      exact .pure (.inl rfl)
  | finish => exact .pure rfl

/-- What a step can do: go on in a way its operation leaves open, or fail where it is. -/
theorem yields_step (instruction : Instruction) {context : Context}
    (here : context.position = instruction.offset) :
    match step instruction context with
    | .ok next after =>
      after.starts = context.starts ∧
        ∃ operation, Operation.ofOpcode? instruction.lead instruction.opcode = some operation ∧
          operation.Allows instruction next
    | .error fault _ => ∀ offset, fault.offset? = some offset → offset = instruction.offset := by
  cases known : Operation.ofOpcode? instruction.lead instruction.opcode with
  | none =>
    simp only [step, known]
    intro offset named
    exact (Option.some.inj named).symm
  | some operation =>
    simp only [step, known]
    have done := operation.yields_perform instruction context
    cases result : operation.perform instruction context with
    | ok next after =>
      rw [result] at done
      obtain ⟨allowed, starts, -⟩ := done
      exact ⟨starts, operation, rfl, allowed⟩
    | error fault after =>
      rw [result, here] at done
      exact done

/-- A jump goes to the target of its instruction. -/
theorem Operation.Allows.target? {instruction : Instruction} {operation : Operation}
    {target : Nat} (allowed : operation.Allows instruction (.jump target)) :
    instruction.target? = some target := by
  cases operation <;> simp_all [Operation.Allows]

/-- A built instruction that proceeds is straight code or a conditional branch. -/
theorem Instruction.IsBuilt.flow_of_proceed {instruction : Instruction}
    (built : instruction.IsBuilt) {operation : Operation}
    (known : Operation.ofOpcode? instruction.lead instruction.opcode = some operation)
    (allowed : operation.Allows instruction .proceed) :
    instruction.flow = .sequential ∨ instruction.flow = .conditional := by
  rw [built.flow_eq known]
  cases operation <;> simp_all [Operation.Allows, Operation.flow]

end ConstantRecovery
