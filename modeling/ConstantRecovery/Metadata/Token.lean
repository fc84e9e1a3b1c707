import ConstantRecovery.Text.Hex

/-!
# Metadata tokens

A token names a row of a metadata table in one 32-bit word: the table in the top
byte, the row in the three bytes below.
-/

namespace ConstantRecovery

/-- A reference to a metadata row. -/
structure Token where
  /-- The whole word. -/
  value : UInt32
deriving DecidableEq

namespace Token

/-- Table of type references. -/
def typeRefTable : UInt8 := 0x01
/-- Table of type definitions. -/
def typeDefTable : UInt8 := 0x02
/-- Table of method definitions. -/
def methodDefTable : UInt8 := 0x06
/-- Table of type specifications. -/
def typeSpecTable : UInt8 := 0x1B
/-- Table of method instantiations. -/
def methodSpecTable : UInt8 := 0x2B

/-- The bits of a token that number the row. -/
def rowMask : UInt32 := 0x00FFFFFF

/-- The token of a row of a table; a row number is cut to 24 bits. -/
def ofParts (table : UInt8) (row : UInt32) : Token :=
  ⟨(table.toUInt32 <<< 24) ||| (row &&& rowMask)⟩

/-- The table a token points into. -/
def table (token : Token) : UInt8 := (token.value >>> 24).toUInt8

/-- The row within the table. -/
def row (token : Token) : UInt32 := token.value &&& rowMask

/-- The token that names nothing. -/
def isNull (token : Token) : Bool := token.value = 0

/-- The token names a method definition. -/
def isMethodDef (token : Token) : Bool := token.table = methodDefTable

/-- The token names a method instantiation. -/
def isMethodSpec (token : Token) : Bool := token.table = methodSpecTable

/-- The token names a type in one of the three ways a signature may. -/
def isTypeDefOrRef (token : Token) : Bool :=
  token.table = typeRefTable || token.table = typeDefTable || token.table = typeSpecTable

/-- A token as it is listed. -/
def text (token : Token) : String := "0x" ++ Text.hexLower 8 token.value.toNat

/-- A token with its parts spelled out. -/
def details (token : Token) : String :=
  "Token(" ++ token.text ++ ", table: 0x" ++ Text.hexLower 2 token.table.toNat ++
    ", row: " ++ toString token.row.toNat ++ ")"

end Token

end ConstantRecovery
