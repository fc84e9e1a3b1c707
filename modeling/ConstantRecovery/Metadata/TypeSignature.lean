import ConstantRecovery.Metadata.Token

/-!
# Type signatures

Of a type only its shape matters here: a number constant is read by the width of
its type, and a default constant is an instance of the type it is asked for.
-/

namespace ConstantRecovery

/-- The shape of a type argument. -/
inductive TypeSignature where
  | boolean | char
  | int8 | uint8 | int16 | uint16 | int32 | uint32 | int64 | uint64
  | float32 | float64
  | string | object
  /-- A value type, by the token that names it. -/
  | valueType (token : Token)
  /-- A reference type, by the token that names it. -/
  | classType (token : Token)
deriving DecidableEq

namespace TypeSignature

/-- The element-type byte of a signature. -/
def elementType : TypeSignature → UInt8
  | boolean => 0x02
  | char => 0x03
  | int8 => 0x04
  | uint8 => 0x05
  | int16 => 0x06
  | uint16 => 0x07
  | int32 => 0x08
  | uint32 => 0x09
  | int64 => 0x0A
  | uint64 => 0x0B
  | float32 => 0x0C
  | float64 => 0x0D
  | string => 0x0E
  | valueType _ => 0x11
  | classType _ => 0x12
  | object => 0x1C

/-- The width in bytes of a primitive type. -/
def byteWidth? : TypeSignature → Option Nat
  | boolean | int8 | uint8 => some 1
  | char | int16 | uint16 => some 2
  | int32 | uint32 | float32 => some 4
  | int64 | uint64 | float64 => some 8
  | string | object | valueType _ | classType _ => none

/-- The token that names a type which is not primitive. -/
def token? : TypeSignature → Option Token
  | valueType token | classType token => some token
  | _ => none

/-- A type as it is listed. -/
def text : TypeSignature → String
  | boolean => "bool"
  | char => "char"
  | int8 => "int8"
  | uint8 => "uint8"
  | int16 => "int16"
  | uint16 => "uint16"
  | int32 => "int32"
  | uint32 => "uint32"
  | int64 => "int64"
  | uint64 => "uint64"
  | float32 => "float32"
  | float64 => "float64"
  | string => "string"
  | object => "object"
  | valueType token => "valuetype(" ++ token.text ++ ")"
  | classType token => "class(" ++ token.text ++ ")"

end TypeSignature

end ConstantRecovery
