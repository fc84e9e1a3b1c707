import ConstantRecovery.Code.Layout
import ConstantRecovery.Machine.Step

/-!
# Instructions as the constructors make them

A constructor takes size and flow from the opcode tables, so an instruction that one of
them made is never empty, and its flow agrees with what the machine does: only a branch
jumps, only `ret` ends a run, and a call is nothing the machine knows.
-/

namespace ConstantRecovery

namespace Instruction

/-- An instruction has a one-byte opcode if it has no lead byte and that opcode. -/
theorem isPlain_iff {instruction : Instruction} {code : UInt8} :
    instruction.isPlain code = true ↔ instruction.lead = 0 ∧ instruction.opcode = code := by
  rw [isPlain, Bool.and_eq_true, decide_eq_true_iff, decide_eq_true_iff]

/-- The machine knows a one-byte opcode without asking for the byte in front of it. -/
theorem operation_of_isPlain {instruction : Instruction} {code : UInt8} {operation : Operation}
    (plain : instruction.isPlain code = true)
    (known : Operation.ofOpcode? 0 code = some operation) :
    Operation.ofOpcode? instruction.lead instruction.opcode = some operation := by
  obtain ⟨lead, opcode⟩ := isPlain_iff.1 plain
  rw [lead, opcode, known]

/-- A constructor made the instruction, wherever it stands now. -/
def IsBuilt (instruction : Instruction) : Prop :=
  ∃ lead opcode operand, (lead = 0 ∨ lead = Opcode.extendedLead) ∧
    instruction = (build lead opcode operand).placedAt instruction.offset

/-- An instruction with a one-byte opcode is made by a constructor. -/
theorem isBuilt_plain (opcode : UInt8) (operand : Operand) : (plain opcode operand).IsBuilt := by
  refine ⟨0, opcode, operand, .inl rfl, ?_⟩
  simp only [plain, build]
  split <;> rfl

/-- An instruction with an opcode behind the lead byte is made by a constructor. -/
theorem isBuilt_extended (opcode : UInt8) (operand : Operand) :
    (extended opcode operand).IsBuilt := by
  refine ⟨Opcode.extendedLead, opcode, operand, .inr rfl, ?_⟩
  simp only [extended, build]
  split <;> rfl

/-- Moving an instruction keeps what its constructor gave it. -/
theorem IsBuilt.placedAt {instruction : Instruction} (built : instruction.IsBuilt) (offset : Nat) :
    (instruction.placedAt offset).IsBuilt := by
  obtain ⟨lead, opcode, operand, known, same⟩ := built
  exact ⟨lead, opcode, operand, known, by rw [same]; rfl⟩

/-- A 32-bit load is made by a constructor, in each of its forms. -/
theorem isBuilt_ldcI4 (value : Int32) : (ldcI4 value).IsBuilt := by
  unfold ldcI4
  dsimp only
  split
  · exact isBuilt_plain _ _
  · split <;> exact isBuilt_plain _ _

/-- Settling keeps what constructors gave. -/
theorem isBuilt_of_mem_settle {start : Nat} {code : List Instruction}
    (built : ∀ instruction ∈ code, instruction.IsBuilt) :
    ∀ instruction ∈ settle start code, instruction.IsBuilt := by
  induction code generalizing start with
  | nil => nofun
  | cons first rest ih =>
    obtain ⟨head, tail⟩ := List.forall_mem_cons.1 built
    exact List.forall_mem_cons.2 ⟨head.placedAt start, ih tail⟩

/-- The opcode bytes of a built instruction are the ones it was built from. -/
theorem build_bytes (lead opcode : UInt8) (operand : Operand) :
    (build lead opcode operand).lead = lead ∧ (build lead opcode operand).opcode = opcode := by
  simp only [build]
  split <;> exact ⟨rfl, rfl⟩

/-- The opcodes of the ten one-byte literals follow one another as their numbers do. -/
theorem code_of_small {number : Int} (small : -1 ≤ number ∧ number ≤ 8) :
    let code := UInt8.ofNat (Opcode.Code.ldcI4Zero.toNat + number).toNat
    (Opcode.Code.ldcI4M1 ≤ code ∧ code ≤ Opcode.Code.ldcI4Eight) ∧
      (code.toNat : Int) - Opcode.Code.ldcI4Zero.toNat = number := by
  have first : Opcode.Code.ldcI4M1.toNat = 21 := rfl
  have zero : Opcode.Code.ldcI4Zero.toNat = 22 := rfl
  have last : Opcode.Code.ldcI4Eight.toNat = 30 := rfl
  have fits : (Opcode.Code.ldcI4Zero.toNat + number).toNat < 256 := by omega
  intro code
  have byte : code.toNat = (Opcode.Code.ldcI4Zero.toNat + number).toNat :=
    UInt8.toNat_ofNat_of_lt fits
  rw [UInt8.le_iff_toNat_le, UInt8.le_iff_toNat_le, byte, first, zero, last]
  omega

/-- The shortest form of a load is a load of the same number. -/
theorem int32Literal?_ldcI4 (value : Int32) : (ldcI4 value).int32Literal? = some value := by
  unfold ldcI4
  dsimp only
  split
  · rename_i small
    obtain ⟨range, number⟩ := code_of_small small
    generalize UInt8.ofNat (Opcode.Code.ldcI4Zero.toNat + value.toInt).toNat = code at *
    obtain ⟨bare, opcode⟩ := build_bytes 0 code .bare
    rw [int32Literal?, plain, bare, opcode, if_pos rfl, if_pos range, number, Int32.ofInt_toInt]
  · split
    · rename_i byte
      have wide : (Int8.ofInt value.toInt).toInt32 = value := by
        apply Int32.toInt_inj.1
        rw [Int8.toInt_toInt32, Int8.toInt_ofInt_of_le byte.1 (by omega)]
      exact congrArg some wide
    · rfl

/-- The operand of a built instruction is the one it was built with. -/
@[simp] theorem build_operand (lead opcode : UInt8) (operand : Operand) :
    (build lead opcode operand).operand = operand := by
  simp only [build]
  split <;> rfl

/-- A branch holds the target it was made with. -/
theorem operand_branch (opcode : UInt8) (target : Nat) :
    (branch opcode target).operand = .target target :=
  build_operand 0 opcode (.target target)

/-- A load of a number has a number for an operand, or nothing. -/
theorem operand_ldcI4 (value : Int32) :
    (ldcI4 value).operand = .bare ∨ ∃ number, (ldcI4 value).operand = .immediate number := by
  unfold ldcI4
  dsimp only
  split
  · exact .inl (build_operand _ _ _)
  · split <;> exact .inr ⟨_, build_operand _ _ _⟩

/-- Whether a constructor made an instruction can be told from its own bytes and operand. -/
theorem isBuilt_iff (instruction : Instruction) :
    instruction.IsBuilt ↔ (instruction.lead = 0 ∨ instruction.lead = Opcode.extendedLead) ∧
      instruction = (build instruction.lead instruction.opcode instruction.operand).placedAt
        instruction.offset := by
  constructor
  · rintro ⟨lead, opcode, operand, known, same⟩
    have bytes := build_bytes lead opcode operand
    have front : instruction.lead = lead := (congrArg Instruction.lead same).trans bytes.1
    have code : instruction.opcode = opcode := (congrArg Instruction.opcode same).trans bytes.2
    have works : instruction.operand = operand :=
      (congrArg Instruction.operand same).trans (build_operand lead opcode operand)
    rw [front, code, works]
    exact ⟨known, same⟩
  · rintro ⟨known, same⟩
    exact ⟨_, _, _, known, same⟩

/-- Whether a constructor has made an instruction can be computed. -/
instance (instruction : Instruction) : Decidable instruction.IsBuilt :=
  decidable_of_iff' _ (isBuilt_iff instruction)

/-- The tables give a built instruction its flow. -/
theorem build_flow (lead opcode : UInt8) (operand : Operand) :
    (build lead opcode operand).flow =
      ((Opcode.lookup lead opcode).map (·.flow)).getD .sequential := by
  simp only [build]
  split <;> simp_all

/-- No built instruction is empty. -/
theorem IsBuilt.size_pos {instruction : Instruction} (built : instruction.IsBuilt) :
    0 < instruction.size := by
  obtain ⟨lead, opcode, operand, -, same⟩ := built
  rw [same]
  show 0 < (build lead opcode operand).size
  have head : 0 < if lead = 0 then 1 else 2 := by
    split <;> decide
  simp only [build]
  split
  · exact Nat.add_pos_left head _
  · exact Nat.add_pos_left head _

end Instruction

/-- The flow that an operation of the machine stands for. -/
def Operation.flow : Operation → Flow
  | .jump => .unconditional
  | .jumpIfEqual _ => .conditional
  | .finish => .returns
  | _ => .sequential

/-- An entry that is found is in the table. -/
theorem mem_of_lookup {Value : Type} {key : UInt8} {value : Value} {table : List (UInt8 × Value)}
    (found : table.lookup key = some value) : (key, value) ∈ table := by
  obtain ⟨front, back, rfl, -⟩ := List.lookup_eq_some_iff.1 found
  exact List.mem_append_right front List.mem_cons_self

/-- The opcode tables and the operation tables agree on control flow. -/
theorem flow_of_ofOpcode? {lead opcode : UInt8} {operation : Operation}
    (known : Operation.ofOpcode? lead opcode = some operation) :
    ((Opcode.lookup lead opcode).map (·.flow)).getD .sequential = operation.flow := by
  have plain : ∀ row ∈ Operation.plainTable,
      ((Opcode.lookup 0 row.1).map (·.flow)).getD .sequential = row.2.flow := by decide
  have extended : ∀ row ∈ Operation.extendedTable,
      ((Opcode.lookup Opcode.extendedLead row.1).map (·.flow)).getD .sequential = row.2.flow := by
    decide
  unfold Operation.ofOpcode? at known
  split at known
  · rename_i bare
    rw [bare]
    exact plain _ (mem_of_lookup known)
  · split at known
    · rename_i behind
      rw [behind]
      exact extended _ (mem_of_lookup known)
    · cases known

/-- A built instruction flows as its operation does. -/
theorem Instruction.IsBuilt.flow_eq {instruction : Instruction} (built : instruction.IsBuilt)
    {operation : Operation}
    (known : Operation.ofOpcode? instruction.lead instruction.opcode = some operation) :
    instruction.flow = operation.flow := by
  obtain ⟨lead, opcode, operand, -, same⟩ := built
  rw [same] at known ⊢
  have bytes := build_bytes lead opcode operand
  change Operation.ofOpcode? (build lead opcode operand).lead
    (build lead opcode operand).opcode = some operation at known
  rw [bytes.1, bytes.2] at known
  exact (build_flow lead opcode operand).trans (flow_of_ofOpcode? known)

end ConstantRecovery
