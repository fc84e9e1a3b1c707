import Mathlib.Data.Int.ModEq
import ConstantRecovery.Proofs.Code.Built

/-!
# Integers as words

A 32-bit or 64-bit integer on the stack is a word of that width. This file reads every
integer operation as arithmetic on whole numbers: the result is the one number of the
width that is congruent to the exact result, has the bits that the operation gives, or is
the quotient that a shift leaves. A shift amount counts modulo the width, sign included.
Operands of kinds that do not go together are turned down.
-/

namespace ConstantRecovery

/-- The width of an integer. -/
inductive Width where
  | narrow | wide
deriving DecidableEq

namespace Width

/-- How many bits an integer of the width has. -/
def bits : Width → Nat
  | narrow => 32
  | wide => 64

/-- The kind of the integers of the width. -/
def kind : Width → ValueKind
  | narrow => .int32
  | wide => .int64

/-- A signed integer of the width can be the number. -/
def Holds (width : Width) (number : Int) : Prop :=
  -2 ^ (width.bits - 1) ≤ number ∧ number < 2 ^ (width.bits - 1)

/-- Whether a width holds a number can be computed. -/
instance (width : Width) (number : Int) : Decidable (width.Holds number) :=
  inferInstanceAs (Decidable (_ ∧ _))

/-- The integer of the width that stands for a number. -/
def value : Width → Int → Value
  | narrow, number => .int32 (.ofInt number)
  | wide, number => .int64 (.ofInt number)

/-- The bits of a number, read without a sign. -/
def pattern (width : Width) (number : Int) : Nat :=
  (number % 2 ^ width.bits).toNat

/-- A shift amount modulo the width. -/
def places (width : Width) (amount : Int32) : Nat :=
  (amount.toInt % width.bits).toNat

/-- The integer of the width with some bits. -/
def word : (width : Width) → BitVec width.bits → Value
  | narrow, bits => .int32 (.ofBitVec bits)
  | wide, bits => .int64 (.ofBitVec bits)

variable {width : Width} {number other : Int}

/-- No width is empty. -/
theorem bits_pos (width : Width) : 0 < width.bits := by
  cases width <;> decide

/-- A number that the width holds is read back from its bits. -/
theorem toInt_ofInt (held : width.Holds number) :
    (BitVec.ofInt width.bits number).toInt = number :=
  BitVec.toInt_ofInt_eq_self width.bits_pos held.1 held.2

/-- A number of a width is the reading of some bits. -/
theorem Holds.exists_bits (held : width.Holds number) :
    ∃ bits : BitVec width.bits, bits.toInt = number ∧ width.value number = width.word bits := by
  refine ⟨.ofInt width.bits number, toInt_ofInt held, ?_⟩
  cases width <;> rfl

/-- Any bits stand for a number that the width holds. -/
theorem holds_toInt (bits : BitVec width.bits) : width.Holds bits.toInt :=
  ⟨bits.le_toInt, bits.toInt_lt⟩

/-- The integer for the number that some bits stand for has these bits. -/
theorem value_toInt (bits : BitVec width.bits) : width.value bits.toInt = width.word bits := by
  obtain ⟨same, read, here⟩ := (holds_toInt bits).exists_bits
  rw [here, BitVec.toInt_inj.1 read]

/-- The bits of the number that some bits stand for are these bits, read without a sign. -/
theorem pattern_toInt (bits : BitVec width.bits) : width.pattern bits.toInt = bits.toNat := by
  have read : (BitVec.ofInt width.bits bits.toInt).toNat = _ := BitVec.toNat_ofInt bits.toInt
  rw [BitVec.ofInt_toInt] at read
  rw [pattern, read]
  push_cast
  rfl

/-- Congruent numbers of one width are equal. -/
theorem Holds.eq_of_modEq (held : width.Holds number) (again : width.Holds other)
    (congruent : number ≡ other [ZMOD 2 ^ width.bits]) : number = other := by
  unfold Holds at held again
  unfold Int.ModEq at congruent
  cases width <;> simp only [bits] at held again congruent <;> omega

/-- Numbers of one width with the same bits are equal. -/
theorem Holds.eq_of_pattern (held : width.Holds number) (again : width.Holds other)
    (same : width.pattern number = width.pattern other) : number = other := by
  refine held.eq_of_modEq again ?_
  have positive : (0 : Int) < 2 ^ width.bits := Int.pow_pos (by decide)
  have left := Int.emod_nonneg number positive.ne'
  have right := Int.emod_nonneg other positive.ne'
  unfold pattern at same
  show number % 2 ^ width.bits = other % 2 ^ width.bits
  omega

end Width

section Bits

variable {size : Nat}

/-- The operation on words of any width. -/
def Arithmetic.onBits : Arithmetic → BitVec size → BitVec size → BitVec size
  | add, left, right => left + right
  | sub, left, right => left - right
  | mul, left, right => left * right

/-- The operation on whole numbers. -/
def Arithmetic.exact : Arithmetic → Int → Int → Int
  | add, left, right => left + right
  | sub, left, right => left - right
  | mul, left, right => left * right

/-- Reducing a number to a width leaves a congruent one. -/
theorem modEq_of_bmod {number other : Int} (reduced : number = other.bmod (2 ^ size)) :
    number ≡ other [ZMOD 2 ^ size] := by
  have same := Int.bmod_emod (x := other) (m := 2 ^ size)
  push_cast at same
  rwa [← reduced] at same

/-- On words, an arithmetic operation is congruent to the exact one. -/
theorem Arithmetic.toInt_onBits (operation : Arithmetic) (left right : BitVec size) :
    (operation.onBits left right).toInt ≡
      operation.exact left.toInt right.toInt [ZMOD 2 ^ size] := by
  refine modEq_of_bmod ?_
  cases operation with
  | add => exact BitVec.toInt_add left right
  | sub => exact BitVec.toInt_sub
  | mul => exact BitVec.toInt_mul left right

/-- The operation on the bits of two integers. -/
def Bitwise.onBits : Bitwise → BitVec size → BitVec size → BitVec size
  | and, left, right => left &&& right
  | or, left, right => left ||| right
  | xor, left, right => left ^^^ right

/-- The operation on numbers without a sign. -/
def Bitwise.onPatterns : Bitwise → Nat → Nat → Nat
  | and, left, right => left &&& right
  | or, left, right => left ||| right
  | xor, left, right => left ^^^ right

/-- On words, a bitwise operation works on the numbers read without a sign. -/
theorem Bitwise.toNat_onBits (operation : Bitwise) (left right : BitVec size) :
    (operation.onBits left right).toNat = operation.onPatterns left.toNat right.toNat := by
  cases operation with
  | and => exact BitVec.toNat_and left right
  | or => exact BitVec.toNat_or left right
  | xor => exact BitVec.toNat_xor left right

/-- The shift by a number of places. -/
def Shift.onBits : Shift → BitVec size → Nat → BitVec size
  | left, bits, places => bits <<< places
  | right, bits, places => bits.sshiftRight places
  | rightUnsigned, bits, places => bits >>> places

/-- Reading a word with a sign or without makes no difference modulo its width. -/
theorem toInt_modEq_toNat (bits : BitVec size) : bits.toInt ≡ bits.toNat [ZMOD 2 ^ size] :=
  modEq_of_bmod bits.toInt_eq_toNat_bmod

/-- Negating a word negates its number modulo its width. -/
theorem toInt_neg_modEq (bits : BitVec size) : (-bits).toInt ≡ -bits.toInt [ZMOD 2 ^ size] :=
  modEq_of_bmod BitVec.toInt_neg

/-- The complement of a word stands for minus one minus its number, modulo its width. -/
theorem toInt_not_modEq (bits : BitVec size) :
    (~~~bits).toInt ≡ -1 - bits.toInt [ZMOD 2 ^ size] :=
  calc (~~~bits).toInt
    _ ≡ 2 ^ size - 1 - bits.toNat [ZMOD 2 ^ size] := modEq_of_bmod BitVec.toInt_not
    _ ≡ -1 - bits.toNat [ZMOD 2 ^ size] := by
      rw [sub_sub, sub_eq_add_neg, neg_add, ← sub_eq_add_neg]
      exact Int.add_modEq_left
    _ ≡ -1 - bits.toInt [ZMOD 2 ^ size] := (toInt_modEq_toNat bits).symm.sub_left _

/-- A word that stands for a number without a sign has its bits. -/
theorem toNat_of_toInt_nonneg {bits : BitVec size} (unsigned : 0 ≤ bits.toInt) :
    bits.toNat = bits.toInt.toNat := by
  have bound := bits.isLt
  rw [BitVec.toInt_eq_toNat_cond] at unsigned ⊢
  split at unsigned <;> omega

/-- The remainder of an amount by a divisor above zero. -/
theorem toNat_smod {amount divisor : BitVec size} (positive : 0 < divisor.toInt) :
    (amount.smod divisor).toNat = (amount.toInt % divisor.toInt).toNat := by
  have read : (amount.smod divisor).toInt = amount.toInt % divisor.toInt := by
    rw [BitVec.toInt_smod, Int.fmod_eq_emod_of_nonneg _ positive.le]
  rw [toNat_of_toInt_nonneg (read ▸ Int.emod_nonneg _ positive.ne'), read]

end Bits

section Words

variable {width : Width}

/-- An arithmetic operation takes two integers of one width to an integer of that width. -/
theorem Arithmetic.apply_word (operation : Arithmetic) (left right : BitVec width.bits) :
    operation.apply (width.word left) (width.word right) =
      .ok (width.word (operation.onBits left right)) := by
  cases width <;> cases operation <;> rfl

/-- A bitwise operation takes two integers of one width to an integer of that width. -/
theorem Bitwise.apply_word (operation : Bitwise) (left right : BitVec width.bits) :
    operation.apply (width.word left) (width.word right) =
      .ok (width.word (operation.onBits left right)) := by
  cases width <;> cases operation <;> rfl

/-- Negating an integer negates its word. -/
theorem Value.negate_word (bits : BitVec width.bits) :
    (width.word bits).negate = .ok (width.word (-bits)) := by
  cases width <;> rfl

/-- Complementing an integer complements its word. -/
theorem Value.complement_word (bits : BitVec width.bits) :
    (width.word bits).complement = .ok (width.word (~~~bits)) := by
  cases width <;> rfl

/-- An amount without its sign counts like the amount, where the count divides the words. -/
theorem toNat_mod_eq {size count : Nat} (amount : BitVec size)
    (divides : (count : Int) ∣ 2 ^ size) : amount.toNat % count = (amount.toInt % count).toNat := by
  have same : amount.toInt % count = amount.toNat % count :=
    (toInt_modEq_toNat amount).of_dvd divides
  rw [same]
  omega

/-- A shift moves the bits of an integer by the amount modulo the width, sign included. -/
theorem Shift.apply_word (operation : Shift) (bits : BitVec width.bits) (amount : Int32) :
    operation.apply (width.word bits) (.int32 amount) =
      .ok (width.word (operation.onBits bits (width.places amount))) := by
  cases width with
  | narrow =>
    have signed : (amount.toBitVec.smod 32).toNat = Width.narrow.places amount :=
      toNat_smod (by decide)
    have unsigned : (amount.toUInt32.mod 32).toBitVec.toNat = Width.narrow.places amount :=
      toNat_mod_eq amount.toBitVec (by decide)
    cases operation with
    | left | right =>
      rw [← signed]
      rfl
    | rightUnsigned =>
      rw [← unsigned]
      rfl
  | wide =>
    have whole : amount.toInt64.toBitVec.toInt = amount.toInt := amount.toInt_toInt64
    have signed : (amount.toInt64.toBitVec.smod 64).toNat = Width.wide.places amount := by
      rw [Width.places, ← whole]
      exact toNat_smod (by decide)
    have unsigned : (amount.toInt64.toUInt64.mod 64).toBitVec.toNat = Width.wide.places amount := by
      rw [Width.places, ← whole]
      exact toNat_mod_eq amount.toInt64.toBitVec (by decide)
    cases operation with
    | left | right =>
      rw [← signed]
      rfl
    | rightUnsigned =>
      rw [← unsigned]
      rfl

end Words

/-- What a shift of a number by some places leaves of it. -/
def Shift.Leaves (operation : Shift) (width : Width) (number : Int) (places : Nat) (result : Int) :
    Prop :=
  match operation with
  | left => result ≡ number * 2 ^ places [ZMOD 2 ^ width.bits]
  | right => result = number / 2 ^ places
  | rightUnsigned => width.pattern result = width.pattern number / 2 ^ places

namespace Instruction

/-- On every stack with the operands on top, the instruction takes them and puts in their place
the one number of the width that fits. -/
def Puts (instruction : Instruction) (operands : List Value) (width : Width)
    (fits : Int → Prop) : Prop :=
  ∃ number, (∀ other, width.Holds other ∧ fits other ↔ other = number) ∧
    ∀ (context : Context) (rest : List Value), context.stack = operands ++ rest →
      step instruction context =
        .ok .proceed { context with stack := width.value number :: rest }

/-- On every stack with the operands on top, the instruction takes them and fails. -/
def TurnsDown (instruction : Instruction) (operands : List Value) (fault : Fault) : Prop :=
  ∀ (context : Context) (rest : List Value), context.stack = operands ++ rest →
    step instruction context = .error fault { context with stack := rest }

end Instruction

/-- The opcode of the operation. -/
def Arithmetic.opcode : Arithmetic → UInt8
  | add => 0x58
  | sub => 0x59
  | mul => 0x5A

/-- The opcode of the operation. -/
def Bitwise.opcode : Bitwise → UInt8
  | and => 0x5F
  | or => 0x60
  | xor => 0x61

/-- The opcode of the shift. -/
def Shift.opcode : Shift → UInt8
  | left => 0x62
  | right => 0x63
  | rightUnsigned => 0x64

section Steps

variable {instruction : Instruction} {context : Context} {rest : List Value}

/-- Two operands are combined, or both are gone. -/
theorem Action.combine_eq {operation : Value → Value → Except Fault Value} {left right : Value}
    (stacked : context.stack = [right, left] ++ rest) :
    combine operation context =
      match operation left right with
      | .ok result => .ok .proceed { context with stack := result :: rest }
      | .error fault => .error fault { context with stack := rest } := by
  obtain ⟨arguments, locals, starts, stack, arrays, position⟩ := context
  subst stacked
  show EStateM.bind (ofExcept (operation left right)) _ _ = _
  cases operation left right <;> rfl

/-- One operand is converted, or it is gone. -/
theorem Action.convert_eq {operation : Value → Except Fault Value} {value : Value}
    (stacked : context.stack = [value] ++ rest) :
    convert operation context =
      match operation value with
      | .ok result => .ok .proceed { context with stack := result :: rest }
      | .error fault => .error fault { context with stack := rest } := by
  obtain ⟨arguments, locals, starts, stack, arrays, position⟩ := context
  subst stacked
  show EStateM.bind (ofExcept (operation value)) _ _ = _
  cases operation value <;> rfl

/-- An instruction with a one-byte opcode carries out its operation. -/
theorem step_of_isPlain {code : UInt8} {operation : Operation}
    (plain : instruction.isPlain code = true)
    (known : Operation.ofOpcode? 0 code = some operation) :
    step instruction = operation.perform instruction := by
  rw [step, Instruction.operation_of_isPlain plain known]

/-- The opcode of an arithmetic operation carries it out on the two values on top. -/
theorem step_arithmetic {operation : Arithmetic} (plain : instruction.isPlain operation.opcode) :
    step instruction = Action.combine operation.apply := by
  have known : Operation.ofOpcode? 0 operation.opcode = some (.arithmetic operation) := by
    cases operation <;> rfl
  exact step_of_isPlain plain known

/-- The opcode of a bitwise operation carries it out on the two values on top. -/
theorem step_bitwise {operation : Bitwise} (plain : instruction.isPlain operation.opcode) :
    step instruction = Action.combine operation.apply := by
  have known : Operation.ofOpcode? 0 operation.opcode = some (.bitwise operation) := by
    cases operation <;> rfl
  exact step_of_isPlain plain known

/-- The opcode of a shift carries it out on the two values on top. -/
theorem step_shift {operation : Shift} (plain : instruction.isPlain operation.opcode) :
    step instruction = Action.combine operation.apply := by
  have known : Operation.ofOpcode? 0 operation.opcode = some (.shift operation) := by
    cases operation <;> rfl
  exact step_of_isPlain plain known

/-- The opcode `neg` negates the value on top. -/
theorem step_negate (plain : instruction.isPlain 0x65) :
    step instruction = Action.convert Value.negate :=
  step_of_isPlain plain rfl

/-- The opcode `not` complements the value on top. -/
theorem step_complement (plain : instruction.isPlain 0x66) :
    step instruction = Action.convert Value.complement :=
  step_of_isPlain plain rfl

end Steps

namespace Instruction

variable {instruction : Instruction} {operands : List Value} {width : Width}

/-- A word that fits, and is the only one of its width that does, is what the instruction puts. -/
theorem puts_of_word {bits : BitVec width.bits} {fits : Int → Prop} (fit : fits bits.toInt)
    (alone : ∀ other, width.Holds other → fits other → other = bits.toInt)
    (done : ∀ (context : Context) (rest : List Value), context.stack = operands ++ rest →
      step instruction context = .ok .proceed { context with stack := width.word bits :: rest }) :
    instruction.Puts operands width fits := by
  refine ⟨bits.toInt, fun other => ⟨?_, ?_⟩, ?_⟩
  · rintro ⟨held, fits⟩
    exact alone other held fits
  · rintro rfl
    exact ⟨Width.holds_toInt bits, fit⟩
  · rwa [Width.value_toInt]

/-- An instruction that leaves a word congruent to the exact result puts the one integer of the
width that is congruent to it. -/
theorem puts_of_modEq {bits : BitVec width.bits} {exact : Int}
    (congruent : bits.toInt ≡ exact [ZMOD 2 ^ width.bits])
    (done : ∀ (context : Context) (rest : List Value), context.stack = operands ++ rest →
      step instruction context = .ok .proceed { context with stack := width.word bits :: rest }) :
    instruction.Puts operands width (· ≡ exact [ZMOD 2 ^ width.bits]) :=
  puts_of_word congruent (fun _ held fits =>
    held.eq_of_modEq (Width.holds_toInt bits) (fits.trans congruent.symm)) done

/-- An instruction that leaves a word with the right bits puts the one integer of the width that has
them. -/
theorem puts_of_pattern {bits : BitVec width.bits} {pattern : Nat} (same : bits.toNat = pattern)
    (done : ∀ (context : Context) (rest : List Value), context.stack = operands ++ rest →
      step instruction context = .ok .proceed { context with stack := width.word bits :: rest }) :
    instruction.Puts operands width (width.pattern · = pattern) := by
  have here : width.pattern bits.toInt = pattern := by rw [Width.pattern_toInt, same]
  exact puts_of_word here (fun _ held fits =>
    held.eq_of_pattern (Width.holds_toInt bits) (fits.trans here.symm)) done

variable {left right : Int} {amount : Int32}

/-- Adding, subtracting and multiplying put the integer that is congruent to the exact result. -/
theorem puts_arithmetic (operation : Arithmetic) (plain : instruction.isPlain operation.opcode)
    (held : width.Holds left) (again : width.Holds right) :
    instruction.Puts [width.value right, width.value left] width
      (· ≡ operation.exact left right [ZMOD 2 ^ width.bits]) := by
  obtain ⟨first, rfl, one⟩ := held.exists_bits
  obtain ⟨second, rfl, two⟩ := again.exists_bits
  refine puts_of_modEq (operation.toInt_onBits first second) fun context rest stacked => ?_
  rw [step_arithmetic plain, Action.combine_eq stacked, one, two, operation.apply_word]

/-- A bitwise operation puts the integer with the bits that it gives. -/
theorem puts_bitwise (operation : Bitwise) (plain : instruction.isPlain operation.opcode)
    (held : width.Holds left) (again : width.Holds right) :
    instruction.Puts [width.value right, width.value left] width
      (width.pattern · = operation.onPatterns (width.pattern left) (width.pattern right)) := by
  obtain ⟨first, rfl, one⟩ := held.exists_bits
  obtain ⟨second, rfl, two⟩ := again.exists_bits
  rw [Width.pattern_toInt, Width.pattern_toInt]
  refine puts_of_pattern (operation.toNat_onBits first second) fun context rest stacked => ?_
  rw [step_bitwise plain, Action.combine_eq stacked, one, two, operation.apply_word]

/-- Negating puts the integer that is congruent to the negated number. -/
theorem puts_negate (plain : instruction.isPlain 0x65) (held : width.Holds left) :
    instruction.Puts [width.value left] width (· ≡ -left [ZMOD 2 ^ width.bits]) := by
  obtain ⟨bits, rfl, one⟩ := held.exists_bits
  refine puts_of_modEq (toInt_neg_modEq bits) fun context rest stacked => ?_
  rw [step_negate plain, Action.convert_eq stacked, one, Value.negate_word]

/-- Complementing puts the integer that is congruent to minus one minus the number. -/
theorem puts_complement (plain : instruction.isPlain 0x66) (held : width.Holds left) :
    instruction.Puts [width.value left] width (· ≡ -1 - left [ZMOD 2 ^ width.bits]) := by
  obtain ⟨bits, rfl, one⟩ := held.exists_bits
  refine puts_of_modEq (toInt_not_modEq bits) fun context rest stacked => ?_
  rw [step_complement plain, Action.convert_eq stacked, one, Value.complement_word]

/-- A shift puts what it leaves of the number, moved by the amount modulo the width. -/
theorem puts_shift (operation : Shift) (plain : instruction.isPlain operation.opcode)
    (held : width.Holds left) :
    instruction.Puts [.int32 amount, width.value left] width
      (operation.Leaves width left (width.places amount)) := by
  obtain ⟨bits, rfl, one⟩ := held.exists_bits
  have done (context : Context) (rest : List Value)
      (stacked : context.stack = [.int32 amount, width.value bits.toInt] ++ rest) :
      step instruction context = .ok .proceed { context with
        stack := width.word (operation.onBits bits (width.places amount)) :: rest } := by
    rw [step_shift plain, Action.combine_eq stacked, one, operation.apply_word]
  cases operation with
  | left =>
    refine puts_of_modEq ?_ done
    have scaled : (bits <<< width.places amount).toInt ≡
        bits.toNat * 2 ^ width.places amount [ZMOD 2 ^ width.bits] := by
      rw [← Int.shiftLeft_eq]
      exact modEq_of_bmod BitVec.toInt_shiftLeft
    exact scaled.trans ((toInt_modEq_toNat bits).symm.mul_right _)
  | right =>
    have floor : (bits.sshiftRight (width.places amount)).toInt =
        bits.toInt / 2 ^ width.places amount := by
      rw [BitVec.toInt_sshiftRight, Int.shiftRight_eq_div_pow]
      push_cast
      rfl
    exact puts_of_word floor (fun _ _ fits => fits.trans floor.symm) done
  | rightUnsigned =>
    refine puts_of_pattern ?_ done
    rw [Width.pattern_toInt, Shift.onBits, BitVec.toNat_ushiftRight, Nat.shiftRight_eq_div_pow]

/-- Operands whose combination fails are turned down. -/
theorem turnsDown_of_combine {operation : Value → Value → Except Fault Value} {left right : Value}
    {fault : Fault} (steps : step instruction = Action.combine operation)
    (fails : operation left right = .error fault) :
    instruction.TurnsDown [right, left] fault := by
  intro context rest stacked
  rw [steps, Action.combine_eq stacked, fails]

/-- An instruction that converts a value turns down one that its operation fails on. -/
theorem turnsDown_of_convert {operation : Value → Except Fault Value} {value : Value}
    {fault : Fault} (steps : step instruction = Action.convert operation)
    (fails : operation value = .error fault) : instruction.TurnsDown [value] fault := by
  intro context rest stacked
  rw [steps, Action.convert_eq stacked, fails]

end Instruction

section Kinds

variable {left right value : Value}

/-- Arithmetic turns down values of two kinds, and asks for a second value of the first kind. -/
theorem Arithmetic.apply_of_kind_ne (operation : Arithmetic) (differ : left.kind ≠ right.kind) :
    operation.apply left right =
      .error (.typeMismatch operation.name (.exactly left.kind) right.kind) := by
  cases left <;> cases right <;> first | rfl | exact absurd rfl differ

/-- Bitwise operations turn down what is not two integers of one width. -/
theorem Bitwise.apply_of_no_width (operation : Bitwise)
    (unlike : ¬ ∃ width : Width, left.kind = width.kind ∧ right.kind = width.kind) :
    operation.apply left right = .error (.typeMismatch operation.name
      (if left.kind = right.kind then .integer else .exactly left.kind) right.kind) := by
  cases left <;> cases right <;>
    first | rfl | exact absurd ⟨.narrow, rfl, rfl⟩ unlike | exact absurd ⟨.wide, rfl, rfl⟩ unlike

/-- Complementing turns down what is no integer. -/
theorem Value.complement_of_no_width (odd : ¬ ∃ width : Width, value.kind = width.kind) :
    value.complement = .error (.typeMismatch "not" .integer value.kind) := by
  cases value <;> first | rfl | exact absurd ⟨.narrow, rfl⟩ odd | exact absurd ⟨.wide, rfl⟩ odd

/-- Shifts turn down an amount that is no 32-bit integer. -/
theorem Shift.apply_of_amount (operation : Shift) {amount : Value} (odd : amount.kind ≠ .int32) :
    operation.apply value amount =
      .error (.typeMismatch operation.name (.exactly .int32) amount.kind) := by
  cases amount <;> first | rfl | exact absurd rfl odd

/-- Shifts turn down a value that is no integer. -/
theorem Shift.apply_of_no_width (operation : Shift) (amount : Int32)
    (odd : ¬ ∃ width : Width, value.kind = width.kind) :
    operation.apply value (.int32 amount) =
      .error (.typeMismatch operation.name .integer value.kind) := by
  cases value <;> first | rfl | exact absurd ⟨.narrow, rfl⟩ odd | exact absurd ⟨.wide, rfl⟩ odd

/-- The values of the kind of a width are its integers. -/
theorem Width.kind_eq_iff (width : Width) :
    value.kind = width.kind ↔ ∃ number, width.Holds number ∧ value = width.value number := by
  constructor
  · intro same
    cases width with
    | narrow =>
      cases value with
      | int32 word =>
        exact ⟨word.toInt, ⟨word.le_toInt, word.toInt_lt⟩, congrArg _ word.ofInt_toInt.symm⟩
      | _ => cases same
    | wide =>
      cases value with
      | int64 word =>
        exact ⟨word.toInt, ⟨word.le_toInt, word.toInt_lt⟩, congrArg _ word.ofInt_toInt.symm⟩
      | _ => cases same
  · rintro ⟨number, -, rfl⟩
    cases width <;> rfl

end Kinds

/-- The integer instructions compute with words. For two integers of one width and a 32-bit shift
amount of any sign, each puts the one number of the width that is congruent to the exact result,
has the pattern that the operation gives, or is what the shift leaves. Where the kinds of the
operands do not go together, the instruction takes them and fails. -/
theorem computes_with_words (instruction : Instruction) :
    (∀ (width : Width) (left right : Int) (amount : Int32),
      width.Holds left → width.Holds right →
      (∀ operation : Arithmetic, instruction.isPlain operation.opcode →
        instruction.Puts [width.value right, width.value left] width
          (· ≡ operation.exact left right [ZMOD 2 ^ width.bits])) ∧
      (∀ operation : Bitwise, instruction.isPlain operation.opcode →
        instruction.Puts [width.value right, width.value left] width
          (width.pattern · = operation.onPatterns (width.pattern left) (width.pattern right))) ∧
      (∀ operation : Shift, instruction.isPlain operation.opcode →
        instruction.Puts [.int32 amount, width.value left] width
          (operation.Leaves width left (width.places amount))) ∧
      (instruction.isPlain 0x65 →
        instruction.Puts [width.value left] width (· ≡ -left [ZMOD 2 ^ width.bits])) ∧
      (instruction.isPlain 0x66 →
        instruction.Puts [width.value left] width (· ≡ -1 - left [ZMOD 2 ^ width.bits]))) ∧
    ∀ left right : Value,
      (∀ operation : Arithmetic, instruction.isPlain operation.opcode → left.kind ≠ right.kind →
        instruction.TurnsDown [right, left]
          (.typeMismatch operation.name (.exactly left.kind) right.kind)) ∧
      (∀ operation : Bitwise, instruction.isPlain operation.opcode →
        (¬ ∃ width : Width, left.kind = width.kind ∧ right.kind = width.kind) →
        instruction.TurnsDown [right, left] (.typeMismatch operation.name
          (if left.kind = right.kind then .integer else .exactly left.kind) right.kind)) ∧
      (∀ operation : Shift, instruction.isPlain operation.opcode →
        (right.kind ≠ .int32 → instruction.TurnsDown [right, left]
          (.typeMismatch operation.name (.exactly .int32) right.kind)) ∧
        (right.kind = .int32 → (¬ ∃ width : Width, left.kind = width.kind) →
          instruction.TurnsDown [right, left] (.typeMismatch operation.name .integer left.kind))) ∧
      (instruction.isPlain 0x66 → (¬ ∃ width : Width, left.kind = width.kind) →
        instruction.TurnsDown [left] (.typeMismatch "not" .integer left.kind)) := by
  refine ⟨fun width left right amount held again => ⟨?_, ?_, ?_, ?_, ?_⟩,
    fun left right => ⟨?_, ?_, ?_, ?_⟩⟩
  · exact fun operation plain => Instruction.puts_arithmetic operation plain held again
  · exact fun operation plain => Instruction.puts_bitwise operation plain held again
  · exact fun operation plain => Instruction.puts_shift operation plain held
  · exact fun plain => Instruction.puts_negate plain held
  · exact fun plain => Instruction.puts_complement plain held
  · exact fun operation plain differ => Instruction.turnsDown_of_combine (step_arithmetic plain)
      (operation.apply_of_kind_ne differ)
  · exact fun operation plain unlike => Instruction.turnsDown_of_combine (step_bitwise plain)
      (operation.apply_of_no_width unlike)
  · refine fun operation plain => ⟨fun odd => ?_, fun counts odd => ?_⟩
    · exact Instruction.turnsDown_of_combine (step_shift plain) (operation.apply_of_amount odd)
    · obtain ⟨amount, -, rfl⟩ := (Width.kind_eq_iff .narrow).1 counts
      exact Instruction.turnsDown_of_combine (step_shift plain) (operation.apply_of_no_width _ odd)
  · exact fun plain odd => Instruction.turnsDown_of_convert (step_complement plain)
      (Value.complement_of_no_width odd)

/-- The product of the least number and -1 is the least number again, a shift of a 64-bit number by
-1 places goes by 63, and the bits of integers of two widths are not combined. -/
theorem computes_with_words_at_extremes :
    let product := Instruction.plain 0x5A .bare
    let shift := Instruction.plain 0x64 .bare
    let conjunction := Instruction.plain 0x5F .bare
    (∀ context rest, context.stack = [.int32 (-1), .int32 (-2147483648)] ++ rest →
      step product context =
        .ok .proceed { context with stack := .int32 (-2147483648) :: rest }) ∧
    (∀ context rest, context.stack = [.int32 (-1), .int64 (-1)] ++ rest →
      step shift context = .ok .proceed { context with stack := .int64 1 :: rest }) ∧
    conjunction.TurnsDown [.int64 5, .int32 5] (.typeMismatch "and" (.exactly .int32) .int64) := by
  intro product shift conjunction
  refine ⟨?_, ?_, ?_⟩
  · obtain ⟨number, alone, done⟩ := ((computes_with_words product).1 .narrow (-2 ^ 31) (-1) 0
      (by decide) (by decide)).1 .mul rfl
    obtain rfl := (alone (-2 ^ 31)).1 ⟨by decide, by decide⟩
    exact done
  · obtain ⟨number, alone, done⟩ := ((computes_with_words shift).1 .wide (-1) 0 (-1)
      (by decide) (by decide)).2.2.1 .rightUnsigned rfl
    obtain rfl := (alone 1).1 ⟨by decide, show _ = _ by decide⟩
    exact done
  · have unlike : ¬ ∃ width : Width, ValueKind.int32 = width.kind ∧ .int64 = width.kind := by
      rintro ⟨width, one, two⟩
      cases one.trans two.symm
    exact ((computes_with_words conjunction).2 (.int32 5) (.int64 5)).2.1 .and rfl unlike

end ConstantRecovery
