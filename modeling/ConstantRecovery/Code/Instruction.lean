import ConstantRecovery.Code.Opcode
import ConstantRecovery.Code.Operand

/-!
# Instructions

An instruction is a decoded record at an offset of a method body. The constructors
take mnemonic, size and flow from the opcode tables and choose the shortest form a
value allows. Every field is open: an instruction whose fields disagree with the
tables is still an instruction, and each question below says which fields it asks.
-/

namespace ConstantRecovery

/-- One instruction of a method body. -/
structure Instruction where
  /-- Where it starts in its method body. -/
  offset : Nat
  /-- Its encoded bytes. -/
  size : Nat
  /-- The opcode byte. -/
  opcode : UInt8
  /-- The byte in front of the opcode, zero for none. -/
  lead : UInt8
  /-- Its name in listings. -/
  mnemonic : String
  /-- Its effect on control flow. -/
  flow : Flow
  /-- What it works on. -/
  operand : Operand
deriving DecidableEq

namespace Instruction

/-! ## Construction -/

/-- An instruction at offset zero, described by the tables. An opcode that is in no table is
named `unknown`, goes on to the next instruction, and is as long as its operand needs. -/
def build (lead opcode : UInt8) (operand : Operand) : Instruction :=
  let head := if lead = 0 then 1 else 2
  match Opcode.lookup lead opcode with
  | some row =>
    { offset := 0, size := head + row.operand.size?.getD operand.size, opcode, lead,
      mnemonic := row.mnemonic, flow := row.flow, operand }
  | none =>
    { offset := 0, size := head + operand.size, opcode, lead,
      mnemonic := "unknown", flow := .sequential, operand }

/-- An instruction with a one-byte opcode. -/
def plain (opcode : UInt8) (operand : Operand) : Instruction :=
  build 0 opcode operand

/-- An instruction with an opcode behind the lead byte. -/
def extended (opcode : UInt8) (operand : Operand) : Instruction :=
  build Opcode.extendedLead opcode operand

/-- The same instruction elsewhere. -/
def placedAt (instruction : Instruction) (offset : Nat) : Instruction :=
  { instruction with offset }

/-- Loads a 32-bit number, in the shortest of three forms. -/
def ldcI4 (value : Int32) : Instruction :=
  let number := value.toInt
  if -1 ≤ number ∧ number ≤ 8 then
    plain (UInt8.ofNat (Opcode.Code.ldcI4Zero.toNat + number).toNat) .bare
  else if -128 ≤ number ∧ number ≤ 127 then
    plain Opcode.Code.ldcI4S (.immediate (.int8 (Int8.ofInt number)))
  else plain Opcode.Code.ldcI4 (.immediate (.int32 value))

/-- Loads a 64-bit number. -/
def ldcI8 (value : Int64) : Instruction :=
  plain Opcode.Code.ldcI8 (.immediate (.int64 value))

/-- Loads a single-precision bit pattern. -/
def ldcR4 (bits : UInt32) : Instruction :=
  plain Opcode.Code.ldcR4 (.immediate (.float32 bits))

/-- Loads a double-precision bit pattern. -/
def ldcR8 (bits : UInt64) : Instruction :=
  plain Opcode.Code.ldcR8 (.immediate (.float64 bits))

/-- Loads a text. -/
def ldstr (text : String) : Instruction :=
  plain Opcode.Code.ldstr (.text text)

/-- An indexed access in the shortest of three forms: four opcodes without operand, one with a
byte, one with two bytes. -/
def indexed (first short long : UInt8) (operand : UInt16 → Operand) (index : UInt16) :
    Instruction :=
  if index < 4 then plain (first + index.toUInt8) .bare
  else if index < 256 then plain short (operand index)
  else extended long (operand index)

/-- Loads a local variable. -/
def ldloc : UInt16 → Instruction :=
  indexed Opcode.Code.ldloc0 Opcode.Code.ldlocS Opcode.Code.extendedLdloc .localIndex

/-- Stores into a local variable. -/
def stloc : UInt16 → Instruction :=
  indexed Opcode.Code.stloc0 Opcode.Code.stlocS Opcode.Code.extendedStloc .localIndex

/-- Loads an argument. -/
def ldarg : UInt16 → Instruction :=
  indexed Opcode.Code.ldarg0 Opcode.Code.ldargS Opcode.Code.extendedLdarg .argumentIndex

/-- A branch to an absolute offset. -/
def branch (opcode : UInt8) (target : Nat) : Instruction :=
  plain opcode (.target target)

/-- A jump through a table of absolute offsets. -/
def switch (targets : List Nat) : Instruction :=
  plain Opcode.Code.switch (.table targets)

/-- Calls a method. -/
def call (method : Token) : Instruction :=
  plain Opcode.Code.call (.token method)

/-- Makes a default value of a type. -/
def initobj (signature : TypeSignature) : Instruction :=
  extended Opcode.Code.extendedInitobj (.type signature)

/-- Does nothing. -/
def nop : Instruction := plain Opcode.Code.nop .bare

/-- Returns from the method. -/
def ret : Instruction := plain Opcode.Code.ret .bare

/-! ## Questions about the opcode -/

/-- The instruction has this one-byte opcode. -/
def isPlain (instruction : Instruction) (opcode : UInt8) : Bool :=
  instruction.lead = 0 && instruction.opcode = opcode

/-- The instruction has this opcode behind the lead byte. -/
def isExtended (instruction : Instruction) (opcode : UInt8) : Bool :=
  instruction.lead = Opcode.extendedLead && instruction.opcode = opcode

/-! ## Questions about control flow -/

/-- It may jump within its protected region. -/
def isBranch (instruction : Instruction) : Bool :=
  match instruction.flow with
  | .conditional | .unconditional | .switch => true
  | _ => false

/-- It leaves a protected region. -/
def isLeave (instruction : Instruction) : Bool :=
  instruction.flow = .leave

/-- It always jumps within its protected region. -/
def isUnconditional (instruction : Instruction) : Bool :=
  instruction.flow = .unconditional

/-- It jumps or goes on. -/
def isConditional (instruction : Instruction) : Bool :=
  instruction.flow = .conditional

/-- Nothing behind it belongs to the same straight run. -/
def isTerminal (instruction : Instruction) : Bool :=
  match instruction.flow with
  | .sequential | .call => false
  | _ => true

/-- The offset a jump with a single target goes to. -/
def target? (instruction : Instruction) : Option Nat :=
  match instruction.operand with
  | .target offset => if instruction.isBranch || instruction.isLeave then some offset else none
  | _ => none

/-- Every offset control can jump to: the entries of a jump table in order, or the one target.
Going on to the next instruction is not a jump. -/
def targets (instruction : Instruction) : List Nat :=
  match instruction.operand with
  | .table offsets => if instruction.flow = .switch then offsets else []
  | _ => instruction.target?.toList

/-- The offsets inside a jump that have to follow when code moves. A jump table counts on any
kind of jump. -/
def jumpSlots (instruction : Instruction) : List Nat :=
  if instruction.isBranch || instruction.isLeave then
    match instruction.operand with
    | .target offset => [offset]
    | .table offsets => offsets
    | _ => []
  else []

/-- The same instruction with its jump slots moved. -/
def mapSlots (move : Nat → Nat) (instruction : Instruction) : Instruction :=
  if instruction.isBranch || instruction.isLeave then
    match instruction.operand with
    | .target offset => { instruction with operand := .target (move offset) }
    | .table offsets => { instruction with operand := .table (offsets.map move) }
    | _ => instruction
  else instruction

/-- Moving slots moves every slot, in place. -/
theorem jumpSlots_mapSlots (move : Nat → Nat) (instruction : Instruction) :
    (instruction.mapSlots move).jumpSlots = instruction.jumpSlots.map move := by
  obtain ⟨offset, size, opcode, lead, mnemonic, flow, operand⟩ := instruction
  cases flow <;> cases operand <;> rfl

/-- Moving slots changes nothing but the operand. -/
theorem mapSlots_frame (move : Nat → Nat) (instruction : Instruction) :
    ∃ operand, instruction.mapSlots move = { instruction with operand } := by
  obtain ⟨offset, size, opcode, lead, mnemonic, flow, operand⟩ := instruction
  cases flow <;> cases operand <;> exact ⟨_, rfl⟩

/-! ## Questions about the operand -/

/-- The metadata token it works on. -/
def token? (instruction : Instruction) : Option Token :=
  match instruction.operand with
  | .token token => some token
  | _ => none

/-- The index it works on, however it is written. -/
def index? (instruction : Instruction) : Option UInt16 :=
  match instruction.operand with
  | .localIndex index | .argumentIndex index => some index
  | .immediate (.uint8 index) => some index.toUInt16
  | _ => none

/-- The index accessed through one of the six opcodes of an indexed access. -/
def accessed? (first short long : UInt8) (instruction : Instruction) : Option UInt16 :=
  if instruction.lead = 0 then
    if first ≤ instruction.opcode ∧ instruction.opcode ≤ first + 3 then
      some (instruction.opcode - first).toUInt16
    else if instruction.opcode = short then instruction.index?
    else none
  else if instruction.isExtended long then instruction.index?
  else none

/-- The local variable it loads. -/
def loadedLocal? : Instruction → Option UInt16 :=
  accessed? Opcode.Code.ldloc0 Opcode.Code.ldlocS Opcode.Code.extendedLdloc

/-- The local variable it stores into. -/
def storedLocal? : Instruction → Option UInt16 :=
  accessed? Opcode.Code.stloc0 Opcode.Code.stlocS Opcode.Code.extendedStloc

/-- The argument it loads. -/
def loadedArgument? : Instruction → Option UInt16 :=
  accessed? Opcode.Code.ldarg0 Opcode.Code.ldargS Opcode.Code.extendedLdarg

/-- The 32-bit number it loads, in any form. An unsigned byte is read as a signed one. -/
def int32Literal? (instruction : Instruction) : Option Int32 :=
  if instruction.lead = 0 then
    if Opcode.Code.ldcI4M1 ≤ instruction.opcode ∧ instruction.opcode ≤ Opcode.Code.ldcI4Eight then
      some (Int32.ofInt (instruction.opcode.toNat - Opcode.Code.ldcI4Zero.toNat))
    else if instruction.opcode = Opcode.Code.ldcI4S then
      match instruction.operand with
      | .immediate (.int8 value) => some value.toInt32
      | .immediate (.uint8 value) => some value.toInt8.toInt32
      | _ => none
    else if instruction.opcode = Opcode.Code.ldcI4 then
      match instruction.operand with
      | .immediate (.int32 value) => some value
      | _ => none
    else none
  else none

/-- It loads a local variable. -/
def isLocalLoad (instruction : Instruction) : Bool :=
  instruction.loadedLocal?.isSome

/-- It loads a 32-bit number. -/
def isInt32Load (instruction : Instruction) : Bool :=
  instruction.int32Literal?.isSome

/-- What loads some local variable is a load of a local variable. -/
theorem isLocalLoad_of_loadedLocal? {instruction : Instruction} {index : UInt16}
    (loads : instruction.loadedLocal? = some index) : instruction.isLocalLoad = true := by
  rw [isLocalLoad, loads]
  rfl

/-- What loads some 32-bit number is a load of a 32-bit number. -/
theorem isInt32Load_of_int32Literal? {instruction : Instruction} {value : Int32}
    (loads : instruction.int32Literal? = some value) : instruction.isInt32Load = true := by
  rw [isInt32Load, loads]
  rfl

/-! ## Listing -/

/-- An instruction as it is listed: offset, mnemonic, operand. -/
def text (instruction : Instruction) : String :=
  let head := Text.offsetLabel instruction.offset ++ ": " ++ instruction.mnemonic
  match instruction.operand.listing? with
  | some operand => head ++ " " ++ operand
  | none => head

end Instruction

end ConstantRecovery
