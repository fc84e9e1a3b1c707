import ConstantRecovery.Decimal.Plain
import ConstantRecovery.Text.Hex

/-!
# Machine values

A value is a number of one of four widths or a reference to an array of 32-bit
numbers. Kinds never mix: no operation turns one kind into another by itself.
Floats are bit patterns.
-/

namespace ConstantRecovery

/-- What a value is. -/
inductive ValueKind where
  | int32 | int64 | float32 | float64 | arrayRef
deriving DecidableEq

namespace ValueKind

/-- A kind in words. -/
def name : ValueKind → String
  | int32 => "I32"
  | int64 => "I64"
  | float32 => "F32"
  | float64 => "F64"
  | arrayRef => "ArrayRef"

end ValueKind

/-- A value on the stack or in a slot. -/
inductive Value where
  | int32 (value : Int32)
  | int64 (value : Int64)
  /-- A single-precision bit pattern. -/
  | float32 (bits : UInt32)
  /-- A double-precision bit pattern. -/
  | float64 (bits : UInt64)
  /-- The number of an array. -/
  | arrayRef (array : Nat)
deriving DecidableEq

namespace Value

/-- The kind of a value. -/
def kind : Value → ValueKind
  | int32 _ => .int32
  | int64 _ => .int64
  | float32 _ => .float32
  | float64 _ => .float64
  | arrayRef _ => .arrayRef

/-- The 32-bit number, if the value is one. -/
def int32? : Value → Option Int32
  | int32 value => some value
  | _ => none

/-- The 64-bit number, if the value is one. -/
def int64? : Value → Option Int64
  | int64 value => some value
  | _ => none

/-- The number of the array, if the value refers to one. -/
def arrayRef? : Value → Option Nat
  | arrayRef array => some array
  | _ => none

/-- Both values are of one kind. -/
def sameKind (left right : Value) : Bool := left.kind = right.kind

/-- A reference as it is listed. -/
def arrayText (array : Nat) : String := "HeapRef(" ++ toString array ++ ")"

/-- A value as it is listed: integers in decimal and as a bit pattern. -/
def text : Value → String
  | int32 value =>
    toString value.toInt ++ " (0x" ++ Text.hexUpper 8 value.toUInt32.toNat ++ ")"
  | int64 value =>
    toString value.toInt ++ "L (0x" ++ Text.hexUpper 16 value.toUInt64.toNat ++ ")"
  | float32 bits => Decimal.float32Text bits ++ "f"
  | float64 bits => Decimal.float64Text bits ++ "d"
  | arrayRef array => arrayText array

end Value

end ConstantRecovery
