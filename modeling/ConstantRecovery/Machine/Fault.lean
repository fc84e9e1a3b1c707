import ConstantRecovery.Machine.Value

/-!
# Faults

Why a run of the machine stops without a result.
-/

namespace ConstantRecovery

/-- What an operation accepts. -/
inductive Expectation where
  /-- A value of one kind. -/
  | exactly (kind : ValueKind)
  /-- An integer of either width. -/
  | integer
  /-- Any number. -/
  | numeric
deriving DecidableEq

namespace Expectation

/-- An expectation in words. -/
def name : Expectation → String
  | exactly kind => kind.name
  | integer => "I32 or I64"
  | numeric => "numeric"

end Expectation

/-- The shape of operand an instruction needs. -/
inductive OperandShape where
  | numericLiteral | argumentIndex | localIndex | branchTarget
deriving DecidableEq

namespace OperandShape

/-- A shape in words. -/
def name : OperandShape → String
  | numericLiteral => "numeric literal"
  | argumentIndex => "argument index"
  | localIndex => "local index"
  | branchTarget => "branch target"

end OperandShape

/-- What stops a run. -/
inductive Fault where
  /-- The machine does not know the opcode. -/
  | unhandledOpcode (mnemonic : String) (offset : Nat)
  /-- A value is of the wrong kind. -/
  | typeMismatch (operation : String) (expected : Expectation) (found : ValueKind)
  /-- An operation takes more values than there are. -/
  | stackUnderflow (offset : Nat)
  /-- A local variable is loaded before anything was stored in it. -/
  | uninitializedLocal (index : UInt16)
  /-- An argument is loaded that was not passed. -/
  | uninitializedArgument (index : UInt16)
  /-- The operand has the wrong shape. -/
  | invalidOperand (mnemonic : String) (expected : OperandShape)
  /-- A jump goes to an offset where no instruction starts. -/
  | invalidBranchTarget (offset : Nat)
  /-- A reference names no array. -/
  | invalidArrayReference
  /-- An index lies outside its array. -/
  | arrayIndexOutOfRange (index : Int) (length : Nat)
  /-- The run needs more instructions than the limit allows. -/
  | instructionLimitExceeded (executed limit : Nat)
  /-- A run without a limit has used up the 64-bit counter of its instructions. -/
  | stepCounterExhausted
deriving DecidableEq

namespace Fault

/-- The fault in words. -/
def message : Fault → String
  | unhandledOpcode mnemonic offset =>
    "Unhandled opcode '" ++ mnemonic ++ "' at " ++ Text.offsetLabel offset
  | typeMismatch operation expected found =>
    "Type mismatch in " ++ operation ++ ": expected " ++ expected.name ++ ", found " ++ found.name
  | stackUnderflow offset => "Evaluation stack underflow at " ++ Text.offsetLabel offset
  | uninitializedLocal index =>
    "Local " ++ toString index.toNat ++ " read before assignment"
  | uninitializedArgument index =>
    "Argument " ++ toString index.toNat ++ " was not provided"
  | invalidOperand mnemonic expected =>
    "Invalid operand for '" ++ mnemonic ++ "': expected " ++ expected.name
  | invalidBranchTarget offset =>
    "Branch target " ++ Text.offsetLabel offset ++ " is not an instruction boundary"
  | invalidArrayReference => "Invalid array reference"
  | arrayIndexOutOfRange index length =>
    "Array index " ++ toString index ++ " out of range for length " ++ toString length
  | instructionLimitExceeded executed limit =>
    "Instruction limit exceeded: executed " ++ toString executed ++ ", limit " ++ toString limit
  | stepCounterExhausted => "Step counter exhausted"

end Fault

end ConstantRecovery
