import ConstantRecovery.Proofs.Code.Built
import ConstantRecovery.Proofs.Machine.Execution

/-!
# Forms of loads and stores

A load of a 32-bit number comes in three forms, and so does an access to a local variable or an
argument. The constructors choose a form by the number or the index; it reads back as what it was
chosen for, and the machine carries it out as that. No form of a load of a number is shorter than
the chosen one: what a form can hold bounds its number, and the shorter form holds less. What an
instruction reads as is bound to the operation of its opcode, so it never reads as two things.
-/

namespace ConstantRecovery

namespace Instruction

/-! ## Indexed accesses -/

/-- An indexed access in its shortest form reads back as an access to its index, if no opcode wraps
around and the opcode with a byte is none of the four without operand. -/
theorem accessed?_indexed {first short long : UInt8} {operand : UInt16 → Operand}
    (room : first.toNat + 3 < 256) (apart : ¬ (first ≤ short ∧ short ≤ first + 3))
    (works : ∀ (instruction : Instruction) (index : UInt16),
      instruction.operand = operand index → instruction.index? = some index) (index : UInt16) :
    (indexed first short long operand index).accessed? first short long = some index := by
  unfold indexed
  split
  · rename_i few
    obtain ⟨bare, code⟩ := build_bytes 0 (first + index.toUInt8) .bare
    have number : index.toNat < 4 := UInt16.lt_iff_toNat_lt.1 few
    have byte : index.toUInt8.toNat = index.toNat := by
      rw [UInt16.toNat_toUInt8]
      omega
    have last : (first + 3).toNat = first.toNat + 3 := by
      rw [UInt8.toNat_add]
      exact Nat.mod_eq_of_lt room
    have place : (first + index.toUInt8).toNat = first.toNat + index.toNat := by
      rw [UInt8.toNat_add, byte]
      omega
    have inside : first ≤ first + index.toUInt8 ∧ first + index.toUInt8 ≤ first + 3 := by
      rw [UInt8.le_iff_toNat_le, UInt8.le_iff_toNat_le, place, last]
      omega
    have back : (first + index.toUInt8 - first).toUInt16 = index := by
      rw [UInt8.add_comm, UInt8.add_sub_cancel, ← UInt16.toNat_inj, UInt8.toNat_toUInt16, byte]
    rw [accessed?, plain, bare, if_pos rfl, code, if_pos inside, back]
  · split
    · obtain ⟨bare, code⟩ := build_bytes 0 short (operand index)
      rw [accessed?, plain, bare, if_pos rfl, code, if_neg apart, if_pos rfl]
      exact works _ index (build_operand _ _ _)
    · obtain ⟨behind, code⟩ := build_bytes Opcode.extendedLead long (operand index)
      have leads : (extended long (operand index)).lead ≠ 0 := by
        rw [extended, behind]
        decide
      have asked : (extended long (operand index)).isExtended long = true := by
        rw [isExtended, extended, behind, code, decide_eq_true rfl, decide_eq_true rfl]
        rfl
      rw [accessed?, if_neg leads, if_pos asked]
      exact works _ index (build_operand _ _ _)

/-- An operand that is the index of a local variable is read as an index. -/
theorem index?_of_localIndex (instruction : Instruction) (index : UInt16)
    (works : instruction.operand = .localIndex index) : instruction.index? = some index := by
  rw [index?, works]

/-- An operand that is the index of an argument is read as an index. -/
theorem index?_of_argumentIndex (instruction : Instruction) (index : UInt16)
    (works : instruction.operand = .argumentIndex index) : instruction.index? = some index := by
  rw [index?, works]

/-- Whatever its form, a load of a local variable is read back as a load of that variable. -/
theorem loadedLocal?_ldloc (index : UInt16) : (ldloc index).loadedLocal? = some index :=
  accessed?_indexed (by decide) (by decide) index?_of_localIndex index

/-- Whatever its form, a store into a local variable is read back as a store into that variable. -/
theorem storedLocal?_stloc (index : UInt16) : (stloc index).storedLocal? = some index :=
  accessed?_indexed (by decide) (by decide) index?_of_localIndex index

/-- Whatever its form, a load of an argument is read back as a load of that argument. -/
theorem loadedArgument?_ldarg (index : UInt16) : (ldarg index).loadedArgument? = some index :=
  accessed?_indexed (by decide) (by decide) index?_of_argumentIndex index

/-! ## Sizes of loads -/

/-- The fewest bytes in which a 32-bit number can be loaded. -/
def literalSize (value : Int32) : Nat :=
  if -1 ≤ value.toInt ∧ value.toInt ≤ 8 then 1
  else if -128 ≤ value.toInt ∧ value.toInt ≤ 127 then 2
  else 5

/-- The opcodes from `ldc.i4.m1` to `ldc.i4.8` have no operand. -/
theorem size_of_one_byte_literal {code : UInt8} (operand : Operand)
    (range : Opcode.Code.ldcI4M1 ≤ code ∧ code ≤ Opcode.Code.ldcI4Eight) :
    (plain code operand).size = 1 := by
  have ten : ∀ code : UInt8, Opcode.Code.ldcI4M1 ≤ code ∧ code ≤ Opcode.Code.ldcI4Eight →
      ((Opcode.lookup 0 code).map (·.operand)) = some .bare := forall_byte (by decide +kernel)
  obtain ⟨row, known, bare⟩ := Option.map_eq_some_iff.1 (ten code range)
  simp only [plain, build, known, bare, OperandType.size?, Option.getD_some, if_true]

/-- The chosen form of a load takes the fewest bytes. -/
theorem size_ldcI4 (value : Int32) : (ldcI4 value).size = literalSize value := by
  unfold ldcI4 literalSize
  dsimp only
  split
  · rename_i small
    exact size_of_one_byte_literal _ (code_of_small small).1
  · split
    · rfl
    · rfl

/-- A widened byte is as small as a byte. -/
theorem byte_bounds (byte : Int8) : -128 ≤ byte.toInt32.toInt ∧ byte.toInt32.toInt ≤ 127 := by
  have low := byte.le_toInt
  have high := byte.toInt_lt
  rw [Int8.toInt_toInt32]
  omega

/-- A built load of a number has one of three sizes, and the two shorter ones bound its number. -/
theorem IsBuilt.size_of_int32Literal? {instruction : Instruction} (built : instruction.IsBuilt)
    {value : Int32} (loads : instruction.int32Literal? = some value) :
    instruction.size = 1 ∧ (-1 ≤ value.toInt ∧ value.toInt ≤ 8) ∨
      instruction.size = 2 ∧ (-128 ≤ value.toInt ∧ value.toInt ≤ 127) ∨
      instruction.size = 5 := by
  have size : instruction.size =
      (build instruction.lead instruction.opcode instruction.operand).size :=
    (congrArg Instruction.size ((isBuilt_iff instruction).1 built).2).trans rfl
  have ten : ∀ code : UInt8, Opcode.Code.ldcI4M1 ≤ code ∧ code ≤ Opcode.Code.ldcI4Eight →
      -1 ≤ (Int32.ofInt (code.toNat - Opcode.Code.ldcI4Zero.toNat)).toInt ∧
        (Int32.ofInt (code.toNat - Opcode.Code.ldcI4Zero.toNat)).toInt ≤ 8 :=
    forall_byte (by decide +kernel)
  unfold int32Literal? at loads
  split at loads
  · rename_i bare
    rw [bare] at size
    split at loads
    · rename_i range
      cases loads
      exact .inl ⟨size.trans (size_of_one_byte_literal _ range), ten _ range⟩
    · split at loads
      · rename_i short
        rw [short] at size
        refine .inr (.inl ⟨size, ?_⟩)
        split at loads
        · cases loads
          exact byte_bounds _
        · cases loads
          exact byte_bounds _
        · cases loads
      · split at loads
        · rename_i long
          rw [long] at size
          exact .inr (.inr size)
        · cases loads
  · cases loads

/-- No built instruction loads a number in fewer bytes. -/
theorem IsBuilt.literalSize_le {instruction : Instruction} (built : instruction.IsBuilt)
    {value : Int32} (loads : instruction.int32Literal? = some value) :
    literalSize value ≤ instruction.size := by
  unfold literalSize
  rcases built.size_of_int32Literal? loads with ⟨one, holds⟩ | ⟨two, holds⟩ | five
  · rw [if_pos holds]
    omega
  · rw [if_pos holds]
    split <;> omega
  · split
    · omega
    · split <;> omega

/-! ## One reading -/

/-- What an instruction reads as: a load of a 32-bit number, a load of or a store into a local
variable, a load of an argument. -/
def readings (instruction : Instruction) : List Bool :=
  [instruction.int32Literal?.isSome, instruction.loadedLocal?.isSome,
    instruction.storedLocal?.isSome, instruction.loadedArgument?.isSome]

/-- Each reading is bound to an operation of its own, so an instruction has at most one. -/
theorem count_readings_le (instruction : Instruction) : instruction.readings.count true ≤ 1 := by
  have literal (reads : instruction.int32Literal?.isSome = true) :
      Operation.ofOpcode? instruction.lead instruction.opcode = some .loadConstant := by
    obtain ⟨value, loads⟩ := Option.isSome_iff_exists.1 reads
    exact operation_of_int32Literal? loads
  have load (reads : instruction.loadedLocal?.isSome = true) :
      Operation.ofOpcode? instruction.lead instruction.opcode = some .loadLocal := by
    obtain ⟨index, loads⟩ := Option.isSome_iff_exists.1 reads
    exact operation_of_loadedLocal? loads
  have store (reads : instruction.storedLocal?.isSome = true) :
      Operation.ofOpcode? instruction.lead instruction.opcode = some .storeLocal := by
    obtain ⟨index, stores⟩ := Option.isSome_iff_exists.1 reads
    exact operation_of_storedLocal? stores
  have argument (reads : instruction.loadedArgument?.isSome = true) :
      Operation.ofOpcode? instruction.lead instruction.opcode = some .loadArgument := by
    obtain ⟨index, loads⟩ := Option.isSome_iff_exists.1 reads
    exact operation_of_loadedArgument? loads
  -- Two readings at once would stand for two operations.
  unfold readings
  generalize instruction.int32Literal?.isSome = one at literal ⊢
  generalize instruction.loadedLocal?.isSome = two at load ⊢
  generalize instruction.storedLocal?.isSome = three at store ⊢
  generalize instruction.loadedArgument?.isSome = four at argument ⊢
  generalize Operation.ofOpcode? instruction.lead instruction.opcode = operation at *
  cases one <;> cases two <;> cases three <;> cases four <;> simp_all

end Instruction

section Agreement

open Instruction

/-- The chosen forms, what they read as and what the machine makes of them agree. A 32-bit number is
loaded in the fewest bytes of all instructions that load it; an indexed access loads or stores by
its index in every state, or fails; and no instruction, however it was made, reads as two things. -/
theorem short_forms_agree :
    (∀ value : Int32, (ldcI4 value).int32Literal? = some value ∧
      (∀ context, step (ldcI4 value) context = .ok .proceed (context.push (.int32 value))) ∧
      ∀ other : Instruction, other.IsBuilt → other.int32Literal? = some value →
        (ldcI4 value).size ≤ other.size) ∧
    (∀ index : UInt16, (ldloc index).loadedLocal? = some index ∧
      (stloc index).storedLocal? = some index ∧ (ldarg index).loadedArgument? = some index ∧
      ∀ context : Context,
        (step (ldloc index) context = match context.locals.get? index with
          | some value => .ok .proceed (context.push value)
          | none => .error (.uninitializedLocal index) context) ∧
        (step (stloc index) context = match context.stack with
          | value :: stack => .ok .proceed ({ context with stack }.setLocal index value)
          | [] => .error (.stackUnderflow context.position) context) ∧
        (step (ldarg index) context = match context.arguments.get? index with
          | some value => .ok .proceed (context.push value)
          | none => .error (.uninitializedArgument index) context)) ∧
    ∀ instruction : Instruction, instruction.readings.count true ≤ 1 := by
  refine ⟨fun value => ?_, fun index => ?_, count_readings_le⟩
  · have reads := int32Literal?_ldcI4 value
    refine ⟨reads, fun context => step_of_int32Literal? reads, fun other built loads => ?_⟩
    rw [size_ldcI4]
    exact built.literalSize_le loads
  · have loads := loadedLocal?_ldloc index
    have stores := storedLocal?_stloc index
    have passes := loadedArgument?_ldarg index
    exact ⟨loads, stores, passes, fun context => ⟨step_eq_of_loadedLocal? loads context,
      step_eq_of_storedLocal? stores context, step_eq_of_loadedArgument? passes context⟩⟩

/-- An unsigned byte is read as a signed one, so 200 in the short form loads -56; it is no shorter
than the chosen form, and the long form of the same number is longer. -/
theorem short_forms_agree_of_unsigned_byte :
    let byte := plain Opcode.Code.ldcI4S (.immediate (.uint8 200))
    let long := (plain Opcode.Code.ldcI4 (.immediate (.int32 (-56)))).placedAt 7
    (byte.IsBuilt ∧ byte.int32Literal? = some (-56)) ∧
      (long.IsBuilt ∧ long.int32Literal? = some (-56)) ∧
      ((ldcI4 (-56)).size ≤ byte.size ∧ (ldcI4 (-56)).size ≤ long.size) ∧
      (ldcI4 (-56)).size = 2 ∧ byte.size = 2 ∧ long.size = 5 := by
  intro byte long
  have byteBuilt : byte.IsBuilt := isBuilt_plain _ _
  have longBuilt : long.IsBuilt := (isBuilt_plain _ _).placedAt 7
  have byteLoads : byte.int32Literal? = some (-56) := by decide
  have longLoads : long.int32Literal? = some (-56) := by decide
  obtain ⟨-, -, shortest⟩ := short_forms_agree.1 (-56)
  exact ⟨⟨byteBuilt, byteLoads⟩, ⟨longBuilt, longLoads⟩,
    ⟨shortest byte byteBuilt byteLoads, shortest long longBuilt longLoads⟩, by decide, rfl, rfl⟩

end Agreement

end ConstantRecovery
