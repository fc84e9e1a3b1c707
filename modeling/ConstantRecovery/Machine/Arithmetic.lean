import ConstantRecovery.Machine.Fault

/-!
# Arithmetic on values

Integers are words of their own width: results wrap, and a shift amount counts
modulo the width. Both operands of an operation have one kind; the operation names
itself when they have not. Float operations work on bit patterns.
-/

namespace ConstantRecovery

/-- Operations on two numbers of any kind. -/
inductive Arithmetic where
  | add | sub | mul
deriving DecidableEq

/-- Operations on the bits of two integers. -/
inductive Bitwise where
  | and | or | xor
deriving DecidableEq

/-- Shifts of an integer. -/
inductive Shift where
  /-- To the left. -/
  | left
  /-- To the right, copying the sign. -/
  | right
  /-- To the right, filling with zeros. -/
  | rightUnsigned
deriving DecidableEq

/-- The fault of two operands that do not go together: of different kinds, or of one kind that
the operation does not accept. -/
def mismatch (operation : String) (left right : Value) : Fault :=
  .typeMismatch operation (if left.sameKind right then .integer else .exactly left.kind) right.kind

namespace Arithmetic

/-- The operation in words. -/
def name : Arithmetic → String
  | add => "add"
  | sub => "sub"
  | mul => "mul"

/-- The operation on 32-bit words. -/
def onInt32 : Arithmetic → Int32 → Int32 → Int32
  | add, left, right => left + right
  | sub, left, right => left - right
  | mul, left, right => left * right

/-- The operation on 64-bit words. -/
def onInt64 : Arithmetic → Int64 → Int64 → Int64
  | add, left, right => left + right
  | sub, left, right => left - right
  | mul, left, right => left * right

/-- The operation on single-precision bit patterns. -/
def onFloat32 (operation : Arithmetic) (left right : UInt32) : UInt32 :=
  let left := Float32.ofBits left
  let right := Float32.ofBits right
  match operation with
  | add => (left + right).toBits
  | sub => (left - right).toBits
  | mul => (left * right).toBits

/-- The operation on double-precision bit patterns. -/
def onFloat64 (operation : Arithmetic) (left right : UInt64) : UInt64 :=
  let left := Float.ofBits left
  let right := Float.ofBits right
  match operation with
  | add => (left + right).toBits
  | sub => (left - right).toBits
  | mul => (left * right).toBits

/-- The operation on two values. -/
def apply (operation : Arithmetic) : Value → Value → Except Fault Value
  | .int32 left, .int32 right => .ok (.int32 (operation.onInt32 left right))
  | .int64 left, .int64 right => .ok (.int64 (operation.onInt64 left right))
  | .float32 left, .float32 right => .ok (.float32 (operation.onFloat32 left right))
  | .float64 left, .float64 right => .ok (.float64 (operation.onFloat64 left right))
  | left, right => .error (mismatch operation.name left right)

end Arithmetic

namespace Bitwise

/-- The operation in words. -/
def name : Bitwise → String
  | and => "and"
  | or => "or"
  | xor => "xor"

/-- The operation on 32-bit words. -/
def onInt32 : Bitwise → Int32 → Int32 → Int32
  | and, left, right => left &&& right
  | or, left, right => left ||| right
  | xor, left, right => left ^^^ right

/-- The operation on 64-bit words. -/
def onInt64 : Bitwise → Int64 → Int64 → Int64
  | and, left, right => left &&& right
  | or, left, right => left ||| right
  | xor, left, right => left ^^^ right

/-- The operation on two values. -/
def apply (operation : Bitwise) : Value → Value → Except Fault Value
  | .int32 left, .int32 right => .ok (.int32 (operation.onInt32 left right))
  | .int64 left, .int64 right => .ok (.int64 (operation.onInt64 left right))
  | left, right => .error (mismatch operation.name left right)

end Bitwise

namespace Shift

/-- The operation in words. -/
def name : Shift → String
  | left => "shl"
  | right => "shr"
  | rightUnsigned => "shr.un"

/-- The shift of a 32-bit word. -/
def onInt32 : Shift → Int32 → Int32 → Int32
  | left, value, amount => value <<< amount
  | right, value, amount => value >>> amount
  | rightUnsigned, value, amount => (value.toUInt32 >>> amount.toUInt32).toInt32

/-- The shift of a 64-bit word. -/
def onInt64 : Shift → Int64 → Int32 → Int64
  | left, value, amount => value <<< amount.toInt64
  | right, value, amount => value >>> amount.toInt64
  | rightUnsigned, value, amount => (value.toUInt64 >>> amount.toInt64.toUInt64).toInt64

/-- The shift of a value by an amount; the amount is looked at first. -/
def apply (operation : Shift) (value amount : Value) : Except Fault Value :=
  match amount with
  | .int32 amount =>
    match value with
    | .int32 value => .ok (.int32 (operation.onInt32 value amount))
    | .int64 value => .ok (.int64 (operation.onInt64 value amount))
    | value => .error (.typeMismatch operation.name .integer value.kind)
  | amount => .error (.typeMismatch operation.name (.exactly .int32) amount.kind)

end Shift

namespace Value

/-- The value with its sign changed; a float changes nothing but its sign bit. -/
def negate : Value → Except Fault Value
  | int32 value => .ok (int32 (-value))
  | int64 value => .ok (int64 (-value))
  | float32 bits => .ok (float32 (bits ^^^ 0x80000000))
  | float64 bits => .ok (float64 (bits ^^^ 0x8000000000000000))
  | arrayRef _ => .error (.typeMismatch "neg" .numeric .arrayRef)

/-- The integer with every bit changed. -/
def complement : Value → Except Fault Value
  | int32 value => .ok (int32 (~~~value))
  | int64 value => .ok (int64 (~~~value))
  | value => .error (.typeMismatch "not" .integer value.kind)

/-- The 32-bit number as a 64-bit one, sign included. -/
def widen : Value → Except Fault Value
  | int32 value => .ok (int64 value.toInt64)
  | value => .error (.typeMismatch "conv.u8" (.exactly .int32) value.kind)

/-- Both values are one integer. -/
def equals (operation : String) : Value → Value → Except Fault Bool
  | int32 left, int32 right => .ok (left = right)
  | int64 left, int64 right => .ok (left = right)
  | left, right => .error (mismatch operation left right)

end Value

end ConstantRecovery
