import ConstantRecovery.Machine.Run
import ConstantRecovery.Proofs.Machine.Faults

/-!
# Steps of code that has moved

When code moves, offsets change everywhere they occur: where instructions stand, where
jumps go, and in the faults that name a place. Nothing else tells the two places apart:
one step of a moved instruction is the step of the instruction itself with the offsets
moved.
-/

namespace ConstantRecovery

/-- The instruction in its new place, with its jumps following. -/
def Instruction.moved (move : Nat → Nat) (instruction : Instruction) : Instruction :=
  (instruction.mapSlots move).placedAt (move instruction.offset)

/-- The way on, with its offset moved. -/
def Next.moved (move : Nat → Nat) : Next → Next
  | .jump offset => .jump (move offset)
  | next => next

/-- The fault, with the offset it names moved. -/
def Fault.moved (move : Nat → Nat) : Fault → Fault
  | .unhandledOpcode mnemonic offset => .unhandledOpcode mnemonic (move offset)
  | .stackUnderflow offset => .stackUnderflow (move offset)
  | .invalidBranchTarget offset => .invalidBranchTarget (move offset)
  | fault => fault

/-- The offset that a fault names. -/
def Fault.offset? : Fault → Option Nat
  | .unhandledOpcode _ offset | .stackUnderflow offset | .invalidBranchTarget offset => some offset
  | _ => none

/-- A fault that names no offset stays as it is. -/
theorem Fault.moved_of_placeless {fault : Fault} (placeless : fault.offset? = none)
    (move : Nat → Nat) : fault.moved move = fault := by
  cases fault <;> first | rfl | cases placeless

/-- Every fault of a partial result names no offset. -/
def Fault.PlacelessIn {α : Type} (result : Except Fault α) : Prop :=
  ∀ fault, result = .error fault → fault.offset? = none

/-- The state of a run of moved code, whose instructions start at `starts`. -/
def Context.moved (move : Nat → Nat) (starts : List Nat) (context : Context) : Context :=
  { context with starts, position := move context.position }

namespace Instruction

variable (move : Nat → Nat) (instruction : Instruction)

/-- A moved instruction stands where its offset moves. -/
@[simp] theorem offset_moved : (instruction.moved move).offset = move instruction.offset := rfl

/-- Moving keeps everything but the place and the operand. -/
theorem moved_frame : ∃ operand, instruction.moved move =
    { instruction with offset := move instruction.offset, operand } := by
  obtain ⟨operand, same⟩ := mapSlots_frame move instruction
  exact ⟨operand, by rw [moved, same]; rfl⟩

/-- Moving changes no lead byte. -/
@[simp] theorem lead_moved : (instruction.moved move).lead = instruction.lead := by
  obtain ⟨operand, same⟩ := moved_frame move instruction
  rw [same]

/-- Moving changes no opcode. -/
@[simp] theorem opcode_moved : (instruction.moved move).opcode = instruction.opcode := by
  obtain ⟨operand, same⟩ := moved_frame move instruction
  rw [same]

/-- Moving changes no mnemonic. -/
@[simp] theorem mnemonic_moved : (instruction.moved move).mnemonic = instruction.mnemonic := by
  obtain ⟨operand, same⟩ := moved_frame move instruction
  rw [same]

/-- The target moves. -/
theorem target?_moved : (instruction.moved move).target? = instruction.target?.map move := by
  obtain ⟨offset, size, opcode, lead, mnemonic, flow, operand⟩ := instruction
  cases flow <;> cases operand <;> rfl

/-- Moving changes no token. -/
theorem token?_moved : (instruction.moved move).token? = instruction.token? := by
  obtain ⟨offset, size, opcode, lead, mnemonic, flow, operand⟩ := instruction
  cases flow <;> cases operand <;> rfl

/-- An operand that moves is neither a number nor an index. -/
theorem operand_moved :
    (instruction.moved move).operand = instruction.operand ∨
      ((instruction.moved move).index? = none ∧ instruction.index? = none ∧
        (∀ value, (instruction.moved move).operand ≠ .immediate value) ∧
          ∀ value, instruction.operand ≠ .immediate value) := by
  obtain ⟨offset, size, opcode, lead, mnemonic, flow, operand⟩ := instruction
  cases operand with
  | target _ => cases flow <;> exact .inr ⟨rfl, rfl, by intro; nofun, by intro; nofun⟩
  | table _ => cases flow <;> exact .inr ⟨rfl, rfl, by intro; nofun, by intro; nofun⟩
  | _ => cases flow <;> exact .inl rfl

/-- Moving changes no index. -/
theorem index?_moved : (instruction.moved move).index? = instruction.index? := by
  rcases operand_moved move instruction with same | ⟨none, other, -⟩
  · simp only [index?, same]
  · rw [none, other]

/-- Moving changes no indexed access. -/
theorem accessed?_moved (first short long : UInt8) :
    accessed? first short long (instruction.moved move) =
      accessed? first short long instruction := by
  simp only [accessed?, isExtended, lead_moved, opcode_moved, index?_moved]
  rfl

/-- Moving changes no 32-bit literal. -/
theorem int32Literal?_moved :
    (instruction.moved move).int32Literal? = instruction.int32Literal? := by
  obtain ⟨offset, size, opcode, lead, mnemonic, flow, operand⟩ := instruction
  simp only [int32Literal?, lead_moved, opcode_moved]
  cases operand <;> cases flow <;> rfl

/-- Moving changes no literal. -/
theorem literal?_moved : (instruction.moved move).literal? = instruction.literal? := by
  simp only [literal?, int32Literal?_moved, opcode_moved]
  rcases operand_moved move instruction with same | ⟨-, -, new, old⟩
  · rw [same]
  · cases instruction.int32Literal? with
    | some value => rfl
    | none => grind

end Instruction

namespace Action

variable {α β : Type} {move : Nat → Nat} {starts : List Nat}

/-- One computation does on moved states what another does on the states themselves; `shift`
says what moving means for their results. -/
def Follows (move : Nat → Nat) (starts : List Nat) (shift : α → β) (old : Action α)
    (new : Action β) : Prop :=
  ∀ context, new (Context.moved move starts context) =
    match old context with
    | .ok result after => .ok (shift result) (after.moved move starts)
    | .error fault after => .error (fault.moved move) (after.moved move starts)

/-- A result given at once moves. -/
theorem Follows.pure (shift : α → β) (result : α) :
    Follows move starts shift (Pure.pure result) (Pure.pure (shift result)) :=
  fun _ => rfl

/-- A failure moves. -/
theorem Follows.throw (shift : α → β) (fault : Fault) :
    Follows move starts shift (throw fault) (throw (fault.moved move)) :=
  fun _ => rfl

/-- Computations that follow each other step by step follow each other. -/
theorem Follows.bind {γ δ : Type} {inner : α → β} {outer : γ → δ} {old : Action α} {new : Action β}
    {oldRest : α → Action γ} {newRest : β → Action δ} (first : Follows move starts inner old new)
    (rest : ∀ result, Follows move starts outer (oldRest result) (newRest (inner result))) :
    Follows move starts outer (old >>= oldRest) (new >>= newRest) := by
  intro context
  change EStateM.bind new newRest _ = match EStateM.bind old oldRest context with
    | .ok result after => _
    | .error fault after => _
  have here := first context
  unfold EStateM.bind
  cases done : old context with
  | ok result after =>
    rw [done] at here
    rw [here]
    exact rest result after
  | error fault after =>
    rw [done] at here
    rw [here]

/-- The state moves. -/
theorem Follows.get : Follows move starts (Context.moved move starts) get get :=
  fun _ => rfl

/-- The top of the stack stays. -/
theorem Follows.pop : Follows move starts id pop pop := by
  intro context
  obtain ⟨arguments, locals, _, stack, arrays, position⟩ := context
  cases stack <;> rfl

/-- Putting a value on the stack is the same everywhere. -/
theorem Follows.push (value : Value) : Follows move starts id (push value) (push value) :=
  fun _ => rfl

/-- A change that leaves the code alone is the same everywhere. -/
theorem Follows.modify {change : Context → Context}
    (aside : ∀ context, change (context.moved move starts) = (change context).moved move starts) :
    Follows move starts id (modify change) (modify change) := by
  intro context
  show EStateM.Result.ok _ (change (context.moved move starts)) = _
  rw [aside]
  rfl

/-- A result is required in the same way everywhere, if the fault names no place. -/
theorem Follows.require (shift : α → β) {fault : Fault} (placeless : fault.offset? = none)
    (result : Option α) :
    Follows move starts shift (require fault result) (require fault (result.map shift)) := by
  cases result with
  | some result => exact .pure shift result
  | none =>
    intro context
    change EStateM.Result.error fault _ = EStateM.Result.error (fault.moved move) _
    rw [Fault.moved_of_placeless placeless]

/-- A partial result is the same everywhere, if its fault names no place. -/
theorem Follows.ofExcept {result : Except Fault α} (placeless : Fault.PlacelessIn result) :
    Follows move starts id (ofExcept result) (ofExcept result) := by
  cases result with
  | ok result => exact .pure id result
  | error fault =>
    intro context
    change EStateM.Result.error fault _ = EStateM.Result.error (fault.moved move) _
    rw [Fault.moved_of_placeless (placeless fault rfl)]

end Action

namespace Fault

/-- A value of the wrong kind is reported without a place. -/
theorem IsMismatch.placeless {fault : Fault} (mismatch : fault.IsMismatch) :
    fault.offset? = none := by
  cases fault <;> first | rfl | cases mismatch

/-- A missing argument is reported without a place. -/
theorem placelessIn_argument (context : Context) (index : UInt16) :
    PlacelessIn (context.argument index) :=
  fun _ failed => Context.eq_of_argument failed ▸ rfl

/-- A local variable without a value is reported without a place. -/
theorem placelessIn_localValue (context : Context) (index : UInt16) :
    PlacelessIn (context.localValue index) :=
  fun _ failed => Context.eq_of_localValue failed ▸ rfl

/-- A missing array is reported without a place. -/
theorem placelessIn_elements (context : Context) (array : Nat) :
    PlacelessIn (context.elements array) :=
  fun _ failed => Context.eq_of_elements failed ▸ rfl

/-- An index that names no place in an array is reported without an offset. -/
theorem placelessIn_elementSlot (operation : String) (length : Nat) (index : Value) :
    PlacelessIn (elementSlot operation length index) := by
  intro fault failed
  rcases isMismatch_or_of_elementSlot failed with mismatch | ⟨number, rfl⟩
  · exact mismatch.placeless
  · rfl

/-- Arithmetic fails without naming a place. -/
theorem placelessIn_arithmetic (operation : Arithmetic) (left right : Value) :
    PlacelessIn (operation.apply left right) :=
  fun _ failed => (Arithmetic.isMismatch_of_apply failed).placeless

/-- Bitwise operations fail without naming a place. -/
theorem placelessIn_bitwise (operation : Bitwise) (left right : Value) :
    PlacelessIn (operation.apply left right) :=
  fun _ failed => (Bitwise.isMismatch_of_apply failed).placeless

/-- Shifts fail without naming a place. -/
theorem placelessIn_shift (operation : Shift) (value amount : Value) :
    PlacelessIn (operation.apply value amount) :=
  fun _ failed => (Shift.isMismatch_of_apply failed).placeless

/-- Negating fails without naming a place. -/
theorem placelessIn_negate (value : Value) : PlacelessIn value.negate :=
  fun _ failed => (Value.isMismatch_of_negate failed).placeless

/-- Complementing fails without naming a place. -/
theorem placelessIn_complement (value : Value) : PlacelessIn value.complement :=
  fun _ failed => (Value.isMismatch_of_complement failed).placeless

/-- Widening fails without naming a place. -/
theorem placelessIn_widen (value : Value) : PlacelessIn value.widen :=
  fun _ failed => (Value.isMismatch_of_widen failed).placeless

/-- Comparing fails without naming a place. -/
theorem placelessIn_equals (operation : String) (left right : Value) :
    PlacelessIn (left.equals operation right) :=
  fun _ failed => (Value.isMismatch_of_equals failed).placeless

end Fault

namespace Action

variable {move : Nat → Nat} {starts : List Nat}

/-- Combining two values is the same everywhere. -/
theorem follows_combine {operation : Value → Value → Except Fault Value}
    (placeless : ∀ left right, Fault.PlacelessIn (operation left right)) :
    Follows move starts (Next.moved move) (combine operation) (combine operation) :=
  .bind .pop fun right => .bind .pop fun left =>
    .bind (.ofExcept (placeless left right)) fun _ =>
      .bind (.push _) fun _ => .pure (Next.moved move) .proceed

/-- Converting a value is the same everywhere. -/
theorem follows_convert {operation : Value → Except Fault Value}
    (placeless : ∀ value, Fault.PlacelessIn (operation value)) :
    Follows move starts (Next.moved move) (convert operation) (convert operation) :=
  .bind .pop fun value =>
    .bind (.ofExcept (placeless value)) fun _ =>
      .bind (.push _) fun _ => .pure (Next.moved move) .proceed

/-- A reference to an array is the same everywhere. -/
theorem follows_arrayOf (operation : String) (value : Value) :
    Follows move starts id (arrayOf operation value) (arrayOf operation value) := by
  have followed : Follows move starts id (arrayOf operation value)
      (require (.typeMismatch operation (.exactly .arrayRef) value.kind)
        (value.arrayRef?.map id)) := .require id rfl value.arrayRef?
  rwa [Option.map_id] at followed

/-- Loading an element is the same everywhere. -/
theorem follows_loadElement :
    Follows move starts (Next.moved move) loadElement loadElement :=
  .bind .pop fun index => .bind .pop fun value => .bind (follows_arrayOf _ value) fun array =>
    .bind .get fun context =>
      .bind (.ofExcept (Fault.placelessIn_elements context array)) fun elements =>
        .bind (.ofExcept (Fault.placelessIn_elementSlot _ elements.length index)) fun _ =>
          .bind (.push _) fun _ => .pure (Next.moved move) .proceed

/-- Storing an element is the same everywhere. -/
theorem follows_storeElement :
    Follows move starts (Next.moved move) storeElement storeElement := by
  have number (value : Value) : Follows move starts id
      (require (.typeMismatch "stelem.i4" (.exactly .int32) value.kind) value.int32?)
      (require (.typeMismatch "stelem.i4" (.exactly .int32) value.kind) value.int32?) := by
    have followed : Follows move starts id
        (require (.typeMismatch "stelem.i4" (.exactly .int32) value.kind) value.int32?)
        (require (.typeMismatch "stelem.i4" (.exactly .int32) value.kind)
          (value.int32?.map id)) := .require id rfl value.int32?
    rwa [Option.map_id] at followed
  exact .bind .pop fun value => .bind .pop fun index => .bind .pop fun target =>
    .bind (number value) fun stored => .bind (follows_arrayOf _ target) fun array =>
      .bind .get fun context =>
        .bind (.ofExcept (Fault.placelessIn_elements context array)) fun elements =>
          .bind (.ofExcept (Fault.placelessIn_elementSlot _ elements.length index)) fun slot =>
            .bind (.modify fun _ => rfl) fun _ => .pure (Next.moved move) .proceed

end Action

/-- An operation is the same everywhere, up to the offsets in its operand. -/
theorem Operation.follows_perform (move : Nat → Nat) (starts : List Nat)
    (instruction : Instruction) (operation : Operation) :
    Action.Follows move starts (Next.moved move) (operation.perform instruction)
      (operation.perform (instruction.moved move)) := by
  -- Only the branches look at an offset in the operand; the others ask for what moving keeps.
  have kept {α : Type} (shape : OperandShape) (result : Option α) :
      Action.Follows move starts id
        (Action.require (.invalidOperand instruction.mnemonic shape) result)
        (Action.require (.invalidOperand instruction.mnemonic shape) result) := by
    have followed : Action.Follows move starts id
        (Action.require (.invalidOperand instruction.mnemonic shape) result)
        (Action.require (.invalidOperand instruction.mnemonic shape) (result.map id)) :=
      .require id rfl result
    rwa [Option.map_id] at followed
  have aimed : Action.Follows move starts move
      (Action.require (.invalidOperand instruction.mnemonic .branchTarget) instruction.target?)
      (Action.require (.invalidOperand (instruction.moved move).mnemonic .branchTarget)
        (instruction.moved move).target?) := by
    rw [Instruction.mnemonic_moved, Instruction.target?_moved]
    exact .require move rfl instruction.target?
  cases operation with
  | skip => exact .pure (Next.moved move) .proceed
  | loadConstant =>
    simp only [perform, Instruction.mnemonic_moved, Instruction.literal?_moved]
    exact .bind (kept _ _) fun value => .bind (.push value) fun _ =>
      .pure (Next.moved move) .proceed
  | loadArgument =>
    simp only [perform, Instruction.mnemonic_moved, Instruction.loadedArgument?,
      Instruction.accessed?_moved]
    exact .bind (kept _ _) fun index => .bind .get fun context =>
      .bind (.ofExcept (Fault.placelessIn_argument context index)) fun value =>
        .bind (.push value) fun _ => .pure (Next.moved move) .proceed
  | loadLocal =>
    simp only [perform, Instruction.mnemonic_moved, Instruction.loadedLocal?,
      Instruction.accessed?_moved]
    exact .bind (kept _ _) fun index => .bind .get fun context =>
      .bind (.ofExcept (Fault.placelessIn_localValue context index)) fun value =>
        .bind (.push value) fun _ => .pure (Next.moved move) .proceed
  | storeLocal =>
    simp only [perform, Instruction.mnemonic_moved, Instruction.storedLocal?,
      Instruction.accessed?_moved]
    exact .bind (kept _ _) fun index => .bind .pop fun value =>
      .bind (.modify fun _ => rfl) fun _ => .pure (Next.moved move) .proceed
  | loadElement => exact Action.follows_loadElement
  | storeElement => exact Action.follows_storeElement
  | arithmetic operation => exact Action.follows_combine (Fault.placelessIn_arithmetic operation)
  | bitwise operation => exact Action.follows_combine (Fault.placelessIn_bitwise operation)
  | shift operation => exact Action.follows_combine (Fault.placelessIn_shift operation)
  | negate => exact Action.follows_convert Fault.placelessIn_negate
  | complement => exact Action.follows_convert Fault.placelessIn_complement
  | widen => exact Action.follows_convert Fault.placelessIn_widen
  | jump => exact .bind aimed fun target => .pure (Next.moved move) (.jump target)
  | jumpIfEqual wanted =>
    refine .bind aimed fun target => .bind .pop fun right => .bind .pop fun left => ?_
    simp only [Instruction.mnemonic_moved]
    refine .bind (.ofExcept (Fault.placelessIn_equals _ left right)) fun equal => ?_
    by_cases hit : equal = wanted
    · simp only [id_eq, hit, if_true]
      exact .pure (Next.moved move) (.jump target)
    · simp only [id_eq, hit, if_false]
      exact .pure (Next.moved move) .proceed
  | finish => exact .pure (Next.moved move) .finish

/-- One step of a moved instruction is the step of the instruction, moved. -/
theorem follows_step (move : Nat → Nat) (starts : List Nat) (instruction : Instruction) :
    Action.Follows move starts (Next.moved move) (step instruction)
      (step (instruction.moved move)) := by
  simp only [step, Instruction.lead_moved, Instruction.opcode_moved]
  cases Operation.ofOpcode? instruction.lead instruction.opcode with
  | some operation => exact operation.follows_perform move starts instruction
  | none =>
    simp only [Instruction.mnemonic_moved]
    exact .throw (Next.moved move) (.unhandledOpcode instruction.mnemonic instruction.offset)

end ConstantRecovery
