import ConstantRecovery.Patch.Patcher
import ConstantRecovery.Proofs.Code.Built

/-!
# What is no getter call

Patching moves instructions around getter calls and puts loads in their place. A literal
is no getter call, and neither is what a call site becomes; moving an instruction makes
and breaks none.
-/

namespace ConstantRecovery

namespace Instruction

variable {instruction : Instruction} {getter : Token} {resolver : Resolver}

/-- A getter call is a call, and has a token. -/
theorem call_of_isGetterCall (calls : instruction.isGetterCall getter resolver = true) :
    instruction.opcode = Opcode.Code.call ∧ ∃ token, instruction.token? = some token := by
  rw [isGetterCall, Bool.and_eq_true, isPlain_iff] at calls
  obtain ⟨⟨-, opcode⟩, instantiates⟩ := calls
  refine ⟨opcode, ?_⟩
  cases found : instruction.token? with
  | some token => exact ⟨token, rfl⟩
  | none =>
    rw [instantiation?, found] at instantiates
    cases instantiates

/-- An instruction without a token is no getter call. -/
theorem isGetterCall_of_no_token (bare : instruction.token? = none) :
    instruction.isGetterCall getter resolver = false := by
  rw [Bool.eq_false_iff]
  intro calls
  obtain ⟨-, token, found⟩ := call_of_isGetterCall calls
  rw [bare] at found
  cases found

/-- A literal is no getter call. -/
theorem isGetterCall_of_isInt32Load (loads : instruction.isInt32Load = true) :
    instruction.isGetterCall getter resolver = false := by
  rw [Bool.eq_false_iff]
  intro calls
  obtain ⟨opcode, -⟩ := call_of_isGetterCall calls
  have none : instruction.int32Literal? = Option.none := by
    have range : ¬ (Opcode.Code.ldcI4M1 ≤ Opcode.Code.call ∧
        Opcode.Code.call ≤ Opcode.Code.ldcI4Eight) := by decide
    have short : Opcode.Code.call ≠ Opcode.Code.ldcI4S := by decide
    have long : Opcode.Code.call ≠ Opcode.Code.ldcI4 := by decide
    rw [int32Literal?, opcode, if_neg range, if_neg short, if_neg long, ite_self]
  rw [isInt32Load, none] at loads
  cases loads

/-- Moving slots makes and breaks no getter call. -/
theorem isGetterCall_mapSlots (move : Nat → Nat) :
    (instruction.mapSlots move).isGetterCall getter resolver =
      instruction.isGetterCall getter resolver := by
  obtain ⟨offset, size, opcode, lead, mnemonic, flow, operand⟩ := instruction
  cases flow <;> cases operand <;> rfl

/-- Placing makes and breaks no getter call. -/
theorem isGetterCall_placedAt (offset : Nat) :
    (instruction.placedAt offset).isGetterCall getter resolver =
      instruction.isGetterCall getter resolver := rfl

end Instruction

namespace Constant

variable (constant : Constant) (offset : Nat)

/-- No constant is an object. -/
theorem kind_ne_object : constant.kind ≠ .object := by
  intro object
  cases constant <;> cases object

/-- What loads a constant is made by a constructor. -/
theorem isBuilt_load : constant.load.IsBuilt := by
  cases constant with
  | text value => exact Instruction.isBuilt_plain Opcode.Code.ldstr (.text value)
  | int32 value => exact Instruction.isBuilt_ldcI4 value
  | float32 bits => exact Instruction.isBuilt_plain Opcode.Code.ldcR4 (.immediate (.float32 bits))
  | float64 bits => exact Instruction.isBuilt_plain Opcode.Code.ldcR8 (.immediate (.float64 bits))
  | defaultOf type => exact Instruction.isBuilt_extended Opcode.Code.extendedInitobj (.type type)

/-- What loads a constant works on no token and jumps nowhere. -/
theorem operand_load : (constant.load.placedAt offset).token? = none ∧
    (constant.load.placedAt offset).target? = none := by
  cases constant with
  | int32 value =>
    show (Instruction.ldcI4 value).token? = none ∧ (Instruction.ldcI4 value).target? = none
    rw [Instruction.token?, Instruction.target?]
    rcases Instruction.operand_ldcI4 value with bare | ⟨number, immediate⟩
    · rw [bare]
      exact ⟨rfl, rfl⟩
    · rw [immediate]
      exact ⟨rfl, rfl⟩
  | _ => exact ⟨rfl, rfl⟩

/-- What loads a constant is no getter call. -/
theorem isGetterCall_load {getter : Token} {resolver : Resolver} :
    (constant.load.placedAt offset).isGetterCall getter resolver = false :=
  Instruction.isGetterCall_of_no_token (constant.operand_load offset).1

/-- What loads a constant forwards to nothing. -/
theorem forwardsTo_load (target : Nat) :
    (constant.load.placedAt offset).forwardsTo target = false := by
  rw [Instruction.forwardsTo, (constant.operand_load offset).2]
  exact Bool.and_false _

end Constant

end ConstantRecovery
