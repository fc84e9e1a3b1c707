import ConstantRecovery.Proofs.Code.Built
import ConstantRecovery.Proofs.Getter.Keys
import ConstantRecovery.Proofs.Machine.Deeds

/-!
# Mixing on the machine

A getter starts by mixing its argument into an id and taking the id apart: the tag goes
into local variable 0, the place into local variable 1. It does so with signed 32-bit
words. Decoding does the same with unsigned words and numbers; the main statement is that
the two agree, for all keys and literals.
-/

namespace ConstantRecovery

namespace Keys

/-- What a getter does before it dispatches. -/
def mixing (keys : Keys) : List Deed :=
  [.loadArgument 0, .loadNumber keys.multiplier, .combine (.arithmetic .mul),
   .loadNumber keys.mask, .combine (.bitwise .xor), .storeLocal 1,
   .loadLocal 1, .loadNumber 30, .combine (.shift .rightUnsigned), .storeLocal 0,
   .loadLocal 1, .loadNumber 0x3FFFFFFF, .combine (.bitwise .and),
   .loadNumber 2, .combine (.shift .left), .storeLocal 1]

/-- The instructions for it, each in the shortest form. -/
def prologue (keys : Keys) : List Instruction :=
  [.ldarg 0, .ldcI4 keys.multiplier, .plain 0x5A .bare, .ldcI4 keys.mask, .plain 0x61 .bare,
   .stloc 1, .ldloc 1, .ldcI4 30, .plain 0x64 .bare, .stloc 0,
   .ldloc 1, .ldcI4 0x3FFFFFFF, .plain 0x5F .bare, .ldcI4 2, .plain 0x62 .bare, .stloc 1]

/-- The instructions are there for the deeds of the mixing, one for each. -/
theorem does_prologue (keys : Keys) :
    List.Forall₂ Instruction.Does keys.prologue keys.mixing := by
  have number (value : Int32) : (Instruction.ldcI4 value).Does (.loadNumber value) :=
    Instruction.int32Literal?_ldcI4 value
  have place : List.Forall₂ Instruction.Does (keys.prologue.drop 10) (keys.mixing.drop 10) :=
    .cons rfl (.cons (number _) (.cons rfl (.cons (number _) (.cons rfl (.cons rfl .nil)))))
  have tag : List.Forall₂ Instruction.Does (keys.prologue.drop 6) (keys.mixing.drop 6) :=
    .cons rfl (.cons (number _) (.cons rfl (.cons rfl place)))
  exact .cons rfl (.cons (number _) (.cons rfl (.cons (number _) (.cons rfl (.cons rfl tag)))))

variable (keys : Keys) (raw : Int32)

/-- A signed word is shifted by two like the unsigned one. -/
theorem toInt32_shiftLeft_two (word : UInt32) :
    word.toInt32 <<< (2 : Int32) = (word <<< 2).toInt32 := by
  apply Int32.toBitVec_inj.1
  rw [Int32.toBitVec_shiftLeft]
  rfl

/-- The place comes out of the signed operations as it comes out of the unsigned ones. -/
theorem toInt32_offset_decode :
    (UInt32.ofNat (keys.decode raw).offset).toInt32 =
      ((raw * keys.multiplier ^^^ keys.mask) &&& 0x3FFFFFFF) <<< (2 : Int32) := by
  unfold decode
  dsimp only
  rw [UInt32.ofNat_toNat, ← toInt32_shiftLeft_two, UInt32.toInt32_and]
  rfl

/-- The local variables behind the mixing. -/
def mixed (locals : FiniteMap UInt16 Value) : FiniteMap UInt16 Value :=
  ((locals.set 1 (.int32 (keys.decode raw).id)).set 0 (.int32 (keys.decode raw).tag.toInt32)).set 1
    (.int32 (UInt32.ofNat (keys.decode raw).offset).toInt32)

/-- The deeds of the mixing, one after the other, decode the argument. -/
theorem foldlM_mixing {context : Context}
    (passed : context.arguments.get? 0 = some (.int32 raw)) :
    keys.mixing.foldlM Deed.on? context =
      some { context with locals := keys.mixed raw context.locals } := by
  have folded : keys.mixing.foldlM Deed.on? context =
      some { context with
        locals := ((context.locals.set 1 (.int32 (raw * keys.multiplier ^^^ keys.mask))).set 0
          (.int32 ((raw * keys.multiplier ^^^ keys.mask).toUInt32 >>>
            (30 : Int32).toUInt32).toInt32)).set 1
          (.int32 (((raw * keys.multiplier ^^^ keys.mask) &&& 0x3FFFFFFF) <<< (2 : Int32))) } := by
    simp [mixing, Deed.on?, Operation.combination?, passed, Context.push, Context.setLocal,
      FiniteMap.get?_set, Arithmetic.apply, Arithmetic.onInt32, Bitwise.apply, Bitwise.onInt32,
      Shift.apply, Shift.onInt32]
  rw [folded, mixed, toInt32_offset_decode]
  rfl

end Keys

/-- Decoding a literal gives what the code of a getter makes of it. Whatever else the run starts
from, the code that mixes argument 0 and returns ends with an empty stack, the tag in local
variable 0 and the place in local variable 1, if the limit allows its seventeen instructions, and
changes nothing else. Every place is a multiple of four below 2^32. -/
theorem Keys.emulate_mixing {keys : Keys} {raw : Int32} {code : List Instruction}
    {last : Instruction} {arguments : FiniteMap UInt16 Value}
    (does : List.Forall₂ Instruction.Does code keys.mixing)
    (returns : last.isPlain Opcode.Code.ret = true)
    (passed : arguments.get? 0 = some (.int32 raw)) (limits : Limits)
    (locals : FiniteMap UInt16 Value) (arrays : List (List Int32)) :
    (∃ final : Context,
      Routine.emulate { code := code ++ [last], limits, arguments, locals, arrays } =
        (if 17 ≤ limits.allowance then .ok final else .error limits.exceeded) ∧
      final.stack = [] ∧
      final.locals.get? 0 = some (.int32 (keys.decode raw).tag.toInt32) ∧
      final.locals.get? 1 = some (.int32 (UInt32.ofNat (keys.decode raw).offset).toInt32) ∧
      (∀ index, index ≠ 0 → index ≠ 1 → final.locals.get? index = locals.get? index) ∧
      final.arguments = arguments ∧ final.arrays = arrays) ∧
    (keys.decode raw).offset % 4 = 0 ∧ (keys.decode raw).offset < UInt32.size := by
  refine ⟨?_, keys.offset_decode raw⟩
  have shape : (Routine.mk (code ++ [last]) limits arguments locals arrays).code = code ++ [last] :=
    rfl
  obtain ⟨position, ends⟩ :=
    emulate_of_forall₂ shape does returns (keys.foldlM_mixing raw passed)
  refine ⟨_, ends, rfl, ?_, ?_, ?_, rfl, rfl⟩
  · show FiniteMap.get? (keys.mixed raw locals) 0 = _
    simp [mixed, FiniteMap.get?_set]
  · show FiniteMap.get? (keys.mixed raw locals) 1 = _
    simp [mixed, FiniteMap.get?_set]
  · intro index zero one
    show FiniteMap.get? (keys.mixed raw locals) index = _
    simp [mixed, FiniteMap.get?_set, Ne.symm zero, Ne.symm one]

/-- A negative literal under the keys 17 and 0x5A, with local variables that the run overwrites:
seventeen instructions are enough. -/
theorem Keys.emulate_mixing_negative :
    let keys : Keys := ⟨17, 0x5A⟩
    let arguments := FiniteMap.empty.set 0 (.int32 (-9001))
    let locals := (FiniteMap.empty.set 0 (.int64 7)).set 2 (.arrayRef 0)
    List.Forall₂ Instruction.Does (settle 0 keys.prologue) keys.mixing ∧ ∃ final : Context,
      Routine.emulate
          { code := settle 0 keys.prologue ++ [.ret], limits := ⟨17⟩, arguments, locals
            arrays := [[1, 2]] } = .ok final ∧
      final.stack = [] ∧
      final.locals.get? 0 = some (.int32 3) ∧
      final.locals.get? 1 = some (.int32 (-612236)) ∧
      final.locals.get? 2 = some (.arrayRef 0) := by
  intro keys arguments locals
  have does := forall₂_does_settle keys.does_prologue 0
  have returns : Instruction.ret.isPlain Opcode.Code.ret = true := rfl
  have passed : arguments.get? 0 = some (.int32 (-9001)) := rfl
  obtain ⟨⟨final, ends, stack, tag, place, others, -⟩, -⟩ :=
    Keys.emulate_mixing does returns passed ⟨17⟩ locals [[1, 2]]
  have decoded : keys.decode (-9001) = ⟨-153059, 3, 4294355060⟩ := by decide
  have enough : 17 ≤ Limits.allowance ⟨17⟩ := by decide
  rw [if_pos enough] at ends
  rw [decoded] at tag place
  exact ⟨does, final, ends, stack, tag, place, others 2 (by decide) (by decide)⟩

end ConstantRecovery
