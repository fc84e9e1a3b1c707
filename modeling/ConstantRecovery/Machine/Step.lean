import ConstantRecovery.Machine.Arithmetic
import ConstantRecovery.Machine.Context

/-!
# One instruction

The opcode bytes select an operation, and the operation is carried out on the
context. What an operation has popped before it fails stays popped; nothing else
changes then. Fields are not part of the state, so storing into one does nothing.
-/

namespace ConstantRecovery

/-- Where a run goes on. -/
inductive Next where
  /-- At the instruction behind this one. -/
  | proceed
  /-- At the instruction that starts at an offset. -/
  | jump (offset : Nat)
  /-- Nowhere: the run is over. -/
  | finish
deriving DecidableEq

/-- What an instruction does. -/
inductive Operation where
  /-- Nothing. -/
  | skip
  /-- Loads the number in the operand. -/
  | loadConstant
  | loadArgument | loadLocal | storeLocal
  /-- Loads an unsigned 32-bit element of an array. -/
  | loadElement
  /-- Stores a 32-bit element of an array. -/
  | storeElement
  | arithmetic (operation : Arithmetic)
  | bitwise (operation : Bitwise)
  | shift (operation : Shift)
  | negate
  | complement
  | widen
  /-- Jumps to the target. -/
  | jump
  /-- Jumps to the target if the comparison of two integers for equality comes out as `wanted`. -/
  | jumpIfEqual (wanted : Bool)
  /-- Ends the run. -/
  | finish
deriving DecidableEq

namespace Operation

/-- The operations of one-byte opcodes. -/
def plainTable : List (UInt8 × Operation) :=
  [(0x00, skip),
   (0x02, loadArgument), (0x03, loadArgument), (0x04, loadArgument), (0x05, loadArgument),
   (0x06, loadLocal), (0x07, loadLocal), (0x08, loadLocal), (0x09, loadLocal),
   (0x0A, storeLocal), (0x0B, storeLocal), (0x0C, storeLocal), (0x0D, storeLocal),
   (0x0E, loadArgument), (0x11, loadLocal), (0x13, storeLocal),
   (0x15, loadConstant), (0x16, loadConstant), (0x17, loadConstant), (0x18, loadConstant),
   (0x19, loadConstant), (0x1A, loadConstant), (0x1B, loadConstant), (0x1C, loadConstant),
   (0x1D, loadConstant), (0x1E, loadConstant), (0x1F, loadConstant), (0x20, loadConstant),
   (0x21, loadConstant), (0x22, loadConstant), (0x23, loadConstant),
   (0x2A, finish), (0x2B, jump), (0x2E, jumpIfEqual true), (0x33, jumpIfEqual false),
   (0x38, jump), (0x3B, jumpIfEqual true), (0x40, jumpIfEqual false),
   (0x58, arithmetic .add), (0x59, arithmetic .sub), (0x5A, arithmetic .mul),
   (0x5F, bitwise .and), (0x60, bitwise .or), (0x61, bitwise .xor),
   (0x62, shift .left), (0x63, shift .right), (0x64, shift .rightUnsigned),
   (0x65, negate), (0x66, complement), (0x6E, widen), (0x7D, skip),
   (0x95, loadElement), (0x9E, storeElement)]

/-- The operations of opcodes behind the lead byte. -/
def extendedTable : List (UInt8 × Operation) :=
  [(0x09, loadArgument), (0x0C, loadLocal), (0x0E, storeLocal)]

/-- The operation of an opcode, if the machine knows it. -/
def ofOpcode? (lead code : UInt8) : Option Operation :=
  if lead = 0 then plainTable.lookup code
  else if lead = Opcode.extendedLead then extendedTable.lookup code
  else none

end Operation

/-- A computation on a context that may fail; a failure keeps the context as it is then. -/
abbrev Action := EStateM Fault Context

namespace Action

/-- Fails if a result is an error. -/
def ofExcept {α : Type} : Except Fault α → Action α
  | .ok result => pure result
  | .error fault => throw fault

/-- Fails unless there is a result. -/
def require {α : Type} (fault : Fault) : Option α → Action α
  | some result => pure result
  | none => throw fault

/-- Takes the top of the stack. -/
def pop : Action Value := fun context =>
  match context.stack with
  | [] => .error (.stackUnderflow context.position) context
  | top :: rest => .ok top { context with stack := rest }

/-- Puts a value on the stack. -/
def push (value : Value) : Action Unit :=
  modify (·.push value)

end Action

/-- The number an instruction loads. -/
def Instruction.literal? (instruction : Instruction) : Option Value :=
  match instruction.int32Literal? with
  | some value => some (.int32 value)
  | none =>
    match instruction.operand with
    | .immediate (.int64 value) =>
      if instruction.opcode = Opcode.Code.ldcI8 then some (.int64 value) else none
    | .immediate (.float32 bits) =>
      if instruction.opcode = Opcode.Code.ldcR4 then some (.float32 bits) else none
    | .immediate (.float64 bits) =>
      if instruction.opcode = Opcode.Code.ldcR8 then some (.float64 bits) else none
    | _ => none

/-- The place in an array that an index names. -/
def elementSlot (operation : String) (length : Nat) (index : Value) : Except Fault Nat :=
  let slot (index : Int) : Except Fault Nat :=
    if 0 ≤ index ∧ index < length then .ok index.toNat
    else .error (.arrayIndexOutOfRange index length)
  match index with
  | .int32 index => slot index.toInt
  | .int64 index => slot index.toInt
  | other => .error (.typeMismatch operation (.exactly .int32) other.kind)

namespace Action

/-- The array that a value refers to. -/
def arrayOf (operation : String) (value : Value) : Action Nat :=
  require (.typeMismatch operation (.exactly .arrayRef) value.kind) value.arrayRef?

/-- Takes two values and puts their combination in their place. -/
def combine (operation : Value → Value → Except Fault Value) : Action Next := do
  let right ← pop
  let left ← pop
  push (← ofExcept (operation left right))
  return .proceed

/-- Takes a value and puts another in its place. -/
def convert (operation : Value → Except Fault Value) : Action Next := do
  let value ← pop
  push (← ofExcept (operation value))
  return .proceed

/-- Takes an index and an array, and puts the element there. -/
def loadElement : Action Next := do
  let index ← pop
  let value ← pop
  let array ← arrayOf "ldelem.u4" value
  let elements ← ofExcept ((← get).elements array)
  let slot ← ofExcept (elementSlot "ldelem.u4" elements.length index)
  push (.int32 (elements.getD slot 0))
  return .proceed

/-- Takes a number, an index and an array, and overwrites the element. -/
def storeElement : Action Next := do
  let value ← pop
  let index ← pop
  let target ← pop
  let number ← require (.typeMismatch "stelem.i4" (.exactly .int32) value.kind) value.int32?
  let array ← arrayOf "stelem.i4" target
  let elements ← ofExcept ((← get).elements array)
  let slot ← ofExcept (elementSlot "stelem.i4" elements.length index)
  modify (·.setElement array slot number)
  return .proceed

end Action

/-- Carries out an operation with the operand of an instruction. -/
def Operation.perform (instruction : Instruction) : Operation → Action Next
  | skip => return .proceed
  | loadConstant => do
    Action.push (← Action.require (.invalidOperand instruction.mnemonic .numericLiteral)
      instruction.literal?)
    return .proceed
  | loadArgument => do
    let index ← Action.require (.invalidOperand instruction.mnemonic .argumentIndex)
      instruction.loadedArgument?
    Action.push (← Action.ofExcept ((← get).argument index))
    return .proceed
  | loadLocal => do
    let index ← Action.require (.invalidOperand instruction.mnemonic .localIndex)
      instruction.loadedLocal?
    Action.push (← Action.ofExcept ((← get).localValue index))
    return .proceed
  | storeLocal => do
    let index ← Action.require (.invalidOperand instruction.mnemonic .localIndex)
      instruction.storedLocal?
    let value ← Action.pop
    modify (·.setLocal index value)
    return .proceed
  | loadElement => Action.loadElement
  | storeElement => Action.storeElement
  | arithmetic operation => Action.combine operation.apply
  | bitwise operation => Action.combine operation.apply
  | shift operation => Action.combine operation.apply
  | negate => Action.convert Value.negate
  | complement => Action.convert Value.complement
  | widen => Action.convert Value.widen
  | jump => do
    let target ← Action.require (.invalidOperand instruction.mnemonic .branchTarget)
      instruction.target?
    return .jump target
  | jumpIfEqual wanted => do
    let target ← Action.require (.invalidOperand instruction.mnemonic .branchTarget)
      instruction.target?
    let right ← Action.pop
    let left ← Action.pop
    let equal ← Action.ofExcept (left.equals instruction.mnemonic right)
    return if equal = wanted then .jump target else .proceed
  | finish => return .finish

/-- Executes one instruction. -/
def step (instruction : Instruction) : Action Next :=
  match Operation.ofOpcode? instruction.lead instruction.opcode with
  | some operation => operation.perform instruction
  | none => throw (.unhandledOpcode instruction.mnemonic instruction.offset)

end ConstantRecovery
