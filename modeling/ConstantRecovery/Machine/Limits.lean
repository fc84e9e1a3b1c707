import ConstantRecovery.Machine.Fault

/-!
# Limits

A run may be limited to a number of instructions; zero stands for no limit. The
instructions of a run are counted in a 64-bit word, so that even a run without a
limit has a last instruction it could execute.
-/

namespace ConstantRecovery

/-- How long a run may take. -/
structure Limits where
  /-- The greatest number of instructions, zero for any number. -/
  maxInstructions : UInt64
deriving DecidableEq

namespace Limits

/-- What a run is limited to unless something else is asked for. -/
def standard : Limits := ⟨10000⟩

/-- No limit. -/
def unlimited : Limits := ⟨0⟩

/-- Refuses another instruction when as many as allowed have been executed. -/
def check (limits : Limits) (executed : UInt64) : Except Fault Unit :=
  if limits.maxInstructions ≠ 0 ∧ limits.maxInstructions ≤ executed then
    .error (.instructionLimitExceeded executed.toNat limits.maxInstructions.toNat)
  else .ok ()

/-- How many instructions a run can execute at all. -/
def allowance (limits : Limits) : Nat :=
  if limits.maxInstructions = 0 then UInt64.size else limits.maxInstructions.toNat

/-- The fault of a run that needs more than its allowance. -/
def exceeded (limits : Limits) : Fault :=
  if limits.maxInstructions = 0 then .stepCounterExhausted
  else .instructionLimitExceeded limits.maxInstructions.toNat limits.maxInstructions.toNat

/-- The allowance is the first count that the check refuses, and it is refused with the fault
of a run that exceeds it. -/
theorem check_eq (limits : Limits) (executed : UInt64) (limited : limits.maxInstructions ≠ 0) :
    (limits.check executed = .ok () ↔ executed.toNat < limits.allowance) ∧
      limits.check limits.maxInstructions = .error limits.exceeded := by
  simp only [check, allowance, exceeded, limited, ne_eq, not_false_eq_true,
    true_and, UInt64.le_refl, if_true, and_true, UInt64.le_iff_toNat_le]
  by_cases reached : limits.maxInstructions.toNat ≤ executed.toNat
  · simp [reached, Nat.not_lt.2 reached]
  · simp [reached, Nat.lt_of_not_le reached]

end Limits

end ConstantRecovery
