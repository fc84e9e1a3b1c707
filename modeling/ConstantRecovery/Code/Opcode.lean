/-!
# Opcodes

An opcode is one byte, or a byte behind the lead byte `FE`. The tables list the
opcodes that occur in constant getters and at their call sites, each with its
mnemonic, the encoding of its operand and its effect on control flow. A byte that
is in no table is still a possible instruction; it just has no description.
-/

namespace ConstantRecovery

/-- How the operand of an instruction is encoded. -/
inductive OperandType where
  /-- No operand. -/
  | bare
  | int8 | uint8 | uint16 | int32 | int64 | float32 | float64
  /-- A metadata token. -/
  | token
  /-- A jump table: a count, then one offset for each entry. -/
  | table
deriving DecidableEq

namespace OperandType

/-- Encoded bytes; a jump table is as long as its count says. -/
def size? : OperandType → Option Nat
  | bare => some 0
  | int8 | uint8 => some 1
  | uint16 => some 2
  | int32 | float32 | token => some 4
  | int64 | float64 => some 8
  | table => none

end OperandType

/-- What an instruction does to control flow. -/
inductive Flow where
  /-- Goes on to the next instruction. -/
  | sequential
  /-- Jumps or goes on. -/
  | conditional
  /-- Always jumps. -/
  | unconditional
  /-- Calls a method, then goes on. -/
  | call
  /-- Returns from the method. -/
  | returns
  /-- Jumps to an entry of a table, or goes on. -/
  | switch
  /-- Throws an exception. -/
  | throws
  /-- Ends a finally block. -/
  | endFinally
  /-- Leaves a protected region with a jump. -/
  | leave
deriving DecidableEq

/-- The description of an opcode. -/
structure Opcode where
  /-- Its name in listings. -/
  mnemonic : String
  /-- The encoding of its operand. -/
  operand : OperandType
  /-- Its effect on control flow. -/
  flow : Flow
deriving DecidableEq

namespace Opcode

/-- The byte in front of a two-byte opcode. -/
def extendedLead : UInt8 := 0xFE

/-- One-byte opcodes. -/
def plainTable : List (UInt8 × Opcode) :=
  [(0x00, ⟨"nop", .bare, .sequential⟩), (0x01, ⟨"break", .bare, .sequential⟩),
   (0x02, ⟨"ldarg.0", .bare, .sequential⟩), (0x03, ⟨"ldarg.1", .bare, .sequential⟩),
   (0x04, ⟨"ldarg.2", .bare, .sequential⟩), (0x05, ⟨"ldarg.3", .bare, .sequential⟩),
   (0x06, ⟨"ldloc.0", .bare, .sequential⟩), (0x07, ⟨"ldloc.1", .bare, .sequential⟩),
   (0x08, ⟨"ldloc.2", .bare, .sequential⟩), (0x09, ⟨"ldloc.3", .bare, .sequential⟩),
   (0x0A, ⟨"stloc.0", .bare, .sequential⟩), (0x0B, ⟨"stloc.1", .bare, .sequential⟩),
   (0x0C, ⟨"stloc.2", .bare, .sequential⟩), (0x0D, ⟨"stloc.3", .bare, .sequential⟩),
   (0x0E, ⟨"ldarg.s", .uint8, .sequential⟩), (0x0F, ⟨"ldarga.s", .uint8, .sequential⟩),
   (0x10, ⟨"starg.s", .uint8, .sequential⟩), (0x11, ⟨"ldloc.s", .uint8, .sequential⟩),
   (0x12, ⟨"ldloca.s", .uint8, .sequential⟩), (0x13, ⟨"stloc.s", .uint8, .sequential⟩),
   (0x14, ⟨"ldnull", .bare, .sequential⟩), (0x15, ⟨"ldc.i4.m1", .bare, .sequential⟩),
   (0x16, ⟨"ldc.i4.0", .bare, .sequential⟩), (0x17, ⟨"ldc.i4.1", .bare, .sequential⟩),
   (0x18, ⟨"ldc.i4.2", .bare, .sequential⟩), (0x19, ⟨"ldc.i4.3", .bare, .sequential⟩),
   (0x1A, ⟨"ldc.i4.4", .bare, .sequential⟩), (0x1B, ⟨"ldc.i4.5", .bare, .sequential⟩),
   (0x1C, ⟨"ldc.i4.6", .bare, .sequential⟩), (0x1D, ⟨"ldc.i4.7", .bare, .sequential⟩),
   (0x1E, ⟨"ldc.i4.8", .bare, .sequential⟩), (0x1F, ⟨"ldc.i4.s", .int8, .sequential⟩),
   (0x20, ⟨"ldc.i4", .int32, .sequential⟩), (0x21, ⟨"ldc.i8", .int64, .sequential⟩),
   (0x22, ⟨"ldc.r4", .float32, .sequential⟩), (0x23, ⟨"ldc.r8", .float64, .sequential⟩),
   (0x25, ⟨"dup", .bare, .sequential⟩), (0x26, ⟨"pop", .bare, .sequential⟩),
   (0x28, ⟨"call", .token, .call⟩), (0x2A, ⟨"ret", .bare, .returns⟩),
   (0x2B, ⟨"br.s", .int8, .unconditional⟩), (0x2C, ⟨"brfalse.s", .int8, .conditional⟩),
   (0x2D, ⟨"brtrue.s", .int8, .conditional⟩), (0x2E, ⟨"beq.s", .int8, .conditional⟩),
   (0x2F, ⟨"bge.s", .int8, .conditional⟩), (0x30, ⟨"bgt.s", .int8, .conditional⟩),
   (0x31, ⟨"ble.s", .int8, .conditional⟩), (0x32, ⟨"blt.s", .int8, .conditional⟩),
   (0x33, ⟨"bne.un.s", .int8, .conditional⟩), (0x34, ⟨"bge.un.s", .int8, .conditional⟩),
   (0x35, ⟨"bgt.un.s", .int8, .conditional⟩), (0x36, ⟨"ble.un.s", .int8, .conditional⟩),
   (0x37, ⟨"blt.un.s", .int8, .conditional⟩), (0x38, ⟨"br", .int32, .unconditional⟩),
   (0x39, ⟨"brfalse", .int32, .conditional⟩), (0x3A, ⟨"brtrue", .int32, .conditional⟩),
   (0x3B, ⟨"beq", .int32, .conditional⟩), (0x3C, ⟨"bge", .int32, .conditional⟩),
   (0x3D, ⟨"bgt", .int32, .conditional⟩), (0x3E, ⟨"ble", .int32, .conditional⟩),
   (0x3F, ⟨"blt", .int32, .conditional⟩), (0x40, ⟨"bne.un", .int32, .conditional⟩),
   (0x41, ⟨"bge.un", .int32, .conditional⟩), (0x42, ⟨"bgt.un", .int32, .conditional⟩),
   (0x43, ⟨"ble.un", .int32, .conditional⟩), (0x44, ⟨"blt.un", .int32, .conditional⟩),
   (0x45, ⟨"switch", .table, .switch⟩), (0x58, ⟨"add", .bare, .sequential⟩),
   (0x59, ⟨"sub", .bare, .sequential⟩), (0x5A, ⟨"mul", .bare, .sequential⟩),
   (0x5B, ⟨"div", .bare, .sequential⟩), (0x5C, ⟨"div.un", .bare, .sequential⟩),
   (0x5D, ⟨"rem", .bare, .sequential⟩), (0x5E, ⟨"rem.un", .bare, .sequential⟩),
   (0x5F, ⟨"and", .bare, .sequential⟩), (0x60, ⟨"or", .bare, .sequential⟩),
   (0x61, ⟨"xor", .bare, .sequential⟩), (0x62, ⟨"shl", .bare, .sequential⟩),
   (0x63, ⟨"shr", .bare, .sequential⟩), (0x64, ⟨"shr.un", .bare, .sequential⟩),
   (0x65, ⟨"neg", .bare, .sequential⟩), (0x66, ⟨"not", .bare, .sequential⟩),
   (0x67, ⟨"conv.i1", .bare, .sequential⟩), (0x68, ⟨"conv.i2", .bare, .sequential⟩),
   (0x69, ⟨"conv.i4", .bare, .sequential⟩), (0x6A, ⟨"conv.i8", .bare, .sequential⟩),
   (0x6B, ⟨"conv.r4", .bare, .sequential⟩), (0x6C, ⟨"conv.r8", .bare, .sequential⟩),
   (0x6D, ⟨"conv.u4", .bare, .sequential⟩), (0x6E, ⟨"conv.u8", .bare, .sequential⟩),
   (0x6F, ⟨"callvirt", .token, .call⟩), (0x72, ⟨"ldstr", .token, .sequential⟩),
   (0x73, ⟨"newobj", .token, .call⟩), (0x74, ⟨"castclass", .token, .sequential⟩),
   (0x75, ⟨"isinst", .token, .sequential⟩), (0x7A, ⟨"throw", .bare, .throws⟩),
   (0x7B, ⟨"ldfld", .token, .sequential⟩), (0x7D, ⟨"stfld", .token, .sequential⟩),
   (0x7E, ⟨"ldsfld", .token, .sequential⟩), (0x80, ⟨"stsfld", .token, .sequential⟩),
   (0x8C, ⟨"box", .token, .sequential⟩), (0x8D, ⟨"newarr", .token, .sequential⟩),
   (0x8E, ⟨"ldlen", .bare, .sequential⟩), (0x91, ⟨"ldelem.u1", .bare, .sequential⟩),
   (0x94, ⟨"ldelem.i4", .bare, .sequential⟩), (0x95, ⟨"ldelem.u4", .bare, .sequential⟩),
   (0x9C, ⟨"stelem.i1", .bare, .sequential⟩), (0x9E, ⟨"stelem.i4", .bare, .sequential⟩),
   (0xA5, ⟨"unbox.any", .token, .sequential⟩), (0xD0, ⟨"ldtoken", .token, .sequential⟩),
   (0xD1, ⟨"conv.u2", .bare, .sequential⟩), (0xD2, ⟨"conv.u1", .bare, .sequential⟩),
   (0xDC, ⟨"endfinally", .bare, .endFinally⟩), (0xDD, ⟨"leave", .int32, .leave⟩),
   (0xDE, ⟨"leave.s", .int8, .leave⟩)]

/-- Opcodes behind the lead byte. -/
def extendedTable : List (UInt8 × Opcode) :=
  [(0x01, ⟨"ceq", .bare, .sequential⟩), (0x02, ⟨"cgt", .bare, .sequential⟩),
   (0x03, ⟨"cgt.un", .bare, .sequential⟩), (0x04, ⟨"clt", .bare, .sequential⟩),
   (0x05, ⟨"clt.un", .bare, .sequential⟩), (0x09, ⟨"ldarg", .uint16, .sequential⟩),
   (0x0B, ⟨"starg", .uint16, .sequential⟩), (0x0C, ⟨"ldloc", .uint16, .sequential⟩),
   (0x0E, ⟨"stloc", .uint16, .sequential⟩), (0x15, ⟨"initobj", .token, .sequential⟩)]

/-- The description of an opcode, by the byte in front of it (zero for none) and its own. -/
def lookup (lead code : UInt8) : Option Opcode :=
  if lead = extendedLead then extendedTable.lookup code
  else if lead = 0 then plainTable.lookup code
  else none

/-- The four-byte form of a branch with a one-byte target; other opcodes stay as they are. -/
def longBranch (code : UInt8) : UInt8 :=
  if 0x2B ≤ code ∧ code ≤ 0x37 then code + 0x0D
  else if code = 0xDE then 0xDD
  else code

end Opcode

/-! ## Opcode bytes that the rest of the library names -/

namespace Opcode.Code

/-- `nop` -/
def nop : UInt8 := 0x00
/-- `ldarg.0`, the first of four -/
def ldarg0 : UInt8 := 0x02
/-- `ldloc.0`, the first of four -/
def ldloc0 : UInt8 := 0x06
/-- `stloc.0`, the first of four -/
def stloc0 : UInt8 := 0x0A
/-- `ldarg.s` -/
def ldargS : UInt8 := 0x0E
/-- `ldloc.s` -/
def ldlocS : UInt8 := 0x11
/-- `stloc.s` -/
def stlocS : UInt8 := 0x13
/-- `ldc.i4.m1`, the first of the ten one-byte literals -/
def ldcI4M1 : UInt8 := 0x15
/-- `ldc.i4.0` -/
def ldcI4Zero : UInt8 := 0x16
/-- `ldc.i4.8`, the last of the ten one-byte literals -/
def ldcI4Eight : UInt8 := 0x1E
/-- `ldc.i4.s` -/
def ldcI4S : UInt8 := 0x1F
/-- `ldc.i4` -/
def ldcI4 : UInt8 := 0x20
/-- `ldc.i8` -/
def ldcI8 : UInt8 := 0x21
/-- `ldc.r4` -/
def ldcR4 : UInt8 := 0x22
/-- `ldc.r8` -/
def ldcR8 : UInt8 := 0x23
/-- `call` -/
def call : UInt8 := 0x28
/-- `ret` -/
def ret : UInt8 := 0x2A
/-- `switch` -/
def switch : UInt8 := 0x45
/-- `conv.u8` -/
def convU8 : UInt8 := 0x6E
/-- `ldstr` -/
def ldstr : UInt8 := 0x72
/-- `newarr` -/
def newarr : UInt8 := 0x8D
/-- `ldtoken` -/
def ldtoken : UInt8 := 0xD0
/-- `ldarg`, behind the lead byte -/
def extendedLdarg : UInt8 := 0x09
/-- `ldloc`, behind the lead byte -/
def extendedLdloc : UInt8 := 0x0C
/-- `stloc`, behind the lead byte -/
def extendedStloc : UInt8 := 0x0E
/-- `initobj`, behind the lead byte -/
def extendedInitobj : UInt8 := 0x15

end Opcode.Code

end ConstantRecovery
