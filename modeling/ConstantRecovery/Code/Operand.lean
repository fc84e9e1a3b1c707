import ConstantRecovery.Decimal.Plain
import ConstantRecovery.Metadata.TypeSignature
import ConstantRecovery.Text.Quoted

/-!
# Operands

Jump targets are absolute offsets, so that a stream can be cut, joined and laid out
anew without touching encodings. Floats are kept as bit patterns: every bit counts
when a literal is written back. Two operands appear only after recovery: the text
of a string literal and the type of a default value.
-/

namespace ConstantRecovery

/-- A number inside an instruction. -/
inductive Immediate where
  | int8 (value : Int8)
  | uint8 (value : UInt8)
  | int32 (value : Int32)
  | int64 (value : Int64)
  /-- A single-precision bit pattern. -/
  | float32 (bits : UInt32)
  /-- A double-precision bit pattern. -/
  | float64 (bits : UInt64)
deriving DecidableEq

namespace Immediate

/-- The encoded bytes of a number. -/
def size : Immediate → Nat
  | int8 _ | uint8 _ => 1
  | int32 _ | float32 _ => 4
  | int64 _ | float64 _ => 8

/-- A number in decimal. -/
def text : Immediate → String
  | int8 value => toString value.toInt
  | uint8 value => toString value.toNat
  | int32 value => toString value.toInt
  | int64 value => toString value.toInt
  | float32 bits => Decimal.float32Text bits
  | float64 bits => Decimal.float64Text bits

/-- The bit pattern of a number, two's complement for a negative one. -/
def pattern : Immediate → String
  | int8 value => Text.hexUpper 2 value.toUInt8.toNat
  | uint8 value => Text.hexUpper 2 value.toNat
  | int32 value => Text.hexUpper 8 value.toUInt32.toNat
  | int64 value => Text.hexUpper 16 value.toUInt64.toNat
  | float32 bits => Text.hexUpper 8 bits.toNat
  | float64 bits => Text.hexUpper 16 bits.toNat

end Immediate

/-- What an instruction works on. -/
inductive Operand where
  /-- Nothing. -/
  | bare
  /-- A number. -/
  | immediate (value : Immediate)
  /-- The offset a branch jumps to. -/
  | target (offset : Nat)
  /-- The offsets of a jump table. -/
  | table (offsets : List Nat)
  /-- A metadata token. -/
  | token (token : Token)
  /-- The index of a local variable. -/
  | localIndex (index : UInt16)
  /-- The index of an argument. -/
  | argumentIndex (index : UInt16)
  /-- The text of a string literal. -/
  | text (value : String)
  /-- The type of a default value. -/
  | type (signature : TypeSignature)
deriving DecidableEq

namespace Operand

/-- Encoded bytes by the operand's own shape, for opcodes that do not fix them. -/
def size : Operand → Nat
  | bare => 0
  | immediate value => value.size
  | localIndex _ | argumentIndex _ => 2
  | table offsets => 4 + 4 * offsets.length
  | target _ | token _ | text _ | type _ => 4

/-- An operand as it is listed, if there is one. -/
def listing? : Operand → Option String
  | bare => none
  | immediate value => some value.text
  | target offset => some (Text.offsetLabel offset)
  | table offsets => some ("(" ++ ", ".intercalate (offsets.map Text.offsetLabel) ++ ")")
  | token value => some value.text
  | localIndex index => some ("V_" ++ toString index.toNat)
  | argumentIndex index => some ("A_" ++ toString index.toNat)
  | text value => some (Text.quoted value)
  | type signature => some signature.text

end Operand

end ConstantRecovery
