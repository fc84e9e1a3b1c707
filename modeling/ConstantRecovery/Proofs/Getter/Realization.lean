import ConstantRecovery.Getter.Keys
import ConstantRecovery.Proofs.Getter.Dispatch
import ConstantRecovery.Proofs.Getter.TagMapping

/-!
# Getters that hide a mapping

A plan realizes a mapping and keys if its arms compare the tag with the tags of the
mapping, the code around its dispatch is quiet, and the keys stand where a reader looks
for them. A quiet instruction leaves nothing in the skeleton that could fail or touch
anything but the stack, provided that a load of a 64-bit number has its number.
-/

namespace ConstantRecovery

namespace Instruction

variable {instruction : Instruction} {resolver : Resolver}

/-- An instruction as it may stand around a dispatch. -/
structure IsQuiet (resolver : Resolver) (instruction : Instruction) : Prop where
  /-- Control passes it. -/
  straight : instruction.IsStraight
  /-- It marks no path. -/
  unmarked : instruction.marks? resolver = none
  /-- It is no conversion to a byte. -/
  narrow : instruction.isPlain Opcode.Code.convU8 = false
  /-- It loads no local variable but the first two. -/
  locals : ∀ index, instruction.loadedLocal? = some index → index = 0 ∨ index = 1

/-- Whether an instruction may stand around a dispatch can be computed. -/
instance (resolver : Resolver) (instruction : Instruction) :
    Decidable (instruction.IsQuiet resolver) :=
  decidable_of_iff (instruction.IsStraight ∧ instruction.marks? resolver = none ∧
      instruction.isPlain Opcode.Code.convU8 = false ∧
      (instruction.loadedLocal?.all fun index => index = 0 ∨ index = 1) = true) (by
    rw [Option.all_eq_true]
    constructor
    · rintro ⟨straight, unmarked, narrow, locals⟩
      exact ⟨straight, unmarked, narrow, fun index loads => of_decide_eq_true (locals index loads)⟩
    · rintro ⟨straight, unmarked, narrow, locals⟩
      exact ⟨straight, unmarked, narrow, fun index loads => decide_eq_true (locals index loads)⟩)

/-- A load of a 64-bit number has a number to load. -/
def IsNumbered (instruction : Instruction) : Prop :=
  instruction.isPlain Opcode.Code.ldcI8 = true → instruction.literal?.isSome = true

/-- Whether a load of a 64-bit number has a number can be computed. -/
instance (instruction : Instruction) : Decidable instruction.IsNumbered :=
  inferInstanceAs (Decidable (_ → _))

/-- Straight code does not return. -/
theorem IsStraight.not_returning (straight : instruction.IsStraight) :
    instruction.isPlain Opcode.Code.ret = false := by
  rw [← Bool.not_eq_true, isPlain_iff]
  rintro ⟨lead, opcode⟩
  have flow := straight.1.flow_eq (operation_of_isPlain (isPlain_iff.2 ⟨lead, opcode⟩) rfl)
  rcases straight.2 with same | same <;> rw [same] at flow <;> cases flow

/-- What is left of a quiet instruction is harmless. -/
theorem IsQuiet.harmless_neutralized (quiet : instruction.IsQuiet resolver)
    (numbered : instruction.IsNumbered) : instruction.neutralized.Harmless := by
  intro context zero one
  have jumps := quiet.straight.not_jumping
  rw [Bool.or_eq_false_iff] at jumps
  cases load : instruction.loadedLocal? with
  | some index =>
    have stays := neutralized_of_isLocalLoad (isLocalLoad_of_loadedLocal? load)
    have held : ∃ value, context.locals.get? index = some value := by
      rcases quiet.locals index load with rfl | rfl
      · exact Option.isSome_iff_exists.1 zero
      · exact Option.isSome_iff_exists.1 one
    obtain ⟨value, held⟩ := held
    refine ⟨value :: context.stack, ?_⟩
    rw [stays]
    exact step_of_loadedLocal? load held
  | none =>
    cases number : instruction.int32Literal? with
    | some value =>
      have stays := neutralized_of_isInt32Load (isInt32Load_of_int32Literal? number)
      refine ⟨.int32 value :: context.stack, ?_⟩
      rw [stays]
      exact step_of_int32Literal? number
    | none =>
      cases long : instruction.isPlain Opcode.Code.ldcI8 with
      | true =>
        have stays : instruction.neutralized = instruction := by
          apply neutralized_of_drivesDispatch
          simp only [drivesDispatch, long, Bool.or_true, Bool.true_or]
        obtain ⟨value, number⟩ := Option.isSome_iff_exists.1 (numbered long)
        have known : Operation.ofOpcode? instruction.lead instruction.opcode =
            some .loadConstant :=
          operation_of_isPlain long rfl
        refine ⟨value :: context.stack, ?_⟩
        rw [stays]
        exact step_of_literal? known number
      | false =>
        have drops : instruction.neutralized = nop.placedAt instruction.offset := by
          rw [neutralized, drivesDispatch, isLocalLoad, load, isInt32Load, number, long,
            quiet.narrow, quiet.straight.not_returning, jumps.1]
          rfl
        refine ⟨context.stack, ?_⟩
        rw [drops]
        rfl

/-- What loads a local variable is straight. -/
theorem isStraight_of_loadedLocal? {index : UInt16}
    (built : instruction.IsBuilt) (loads : instruction.loadedLocal? = some index) :
    instruction.IsStraight :=
  ⟨built, .inl (built.flow_eq (operation_of_loadedLocal? loads))⟩

/-- A built load of a 32-bit number is straight. -/
theorem isStraight_of_int32Literal? {value : Int32}
    (built : instruction.IsBuilt) (loads : instruction.int32Literal? = some value) :
    instruction.IsStraight :=
  ⟨built, .inl (built.flow_eq (operation_of_int32Literal? loads))⟩

/-- A load of a local variable or a number marks no path. -/
theorem marks?_of_operation {operation : Operation}
    (known : Operation.ofOpcode? instruction.lead instruction.opcode = some operation) :
    instruction.marks? resolver = none := by
  have other {code : UInt8} (unknown : Operation.ofOpcode? 0 code = none) :
      instruction.isPlain code = false := by
    rw [← Bool.not_eq_true, isPlain_iff]
    rintro ⟨lead, opcode⟩
    rw [lead, opcode, unknown] at known
    cases known
  have allocates := @other Opcode.Code.newarr rfl
  have loads := @other Opcode.Code.ldtoken rfl
  have calls := @other Opcode.Code.call rfl
  rw [marks?, isArrayAllocation, allocates, isTokenLoad, loads, isUtf8Access, Instruction.calls,
    calls]
  rfl

end Instruction

/-- A stream of instructions that mark nothing belongs to no path. -/
theorem classify?_eq_none {resolver : Resolver} {code : List Instruction}
    (unmarked : ∀ instruction ∈ code, instruction.marks? resolver = none) :
    classify? resolver code = none :=
  List.findSome?_eq_none_iff.2 unmarked

/-- An arm selects the path of its kind in a mapping: it compares the tag with that of the kind,
and the first marker of its path is the one of the kind. -/
structure Arm.Selects (resolver : Resolver) (mapping : TagMapping) (arm : Arm) : Prop where
  /-- The tag is loaded. -/
  load : arm.load.IsBuilt ∧ arm.load.loadedLocal? = some 0
  /-- It is compared with the tag of the kind. -/
  literal : arm.literal.IsBuilt ∧ ∃ tag, mapping.tagOf? arm.kind = some tag ∧
    arm.literal.int32Literal? = some tag.toInt32
  /-- The branch is taken to a path elsewhere, or over a path right behind it. -/
  opcode : Operation.ofOpcode? 0 arm.opcode = some (.jumpIfEqual (!arm.inline))
  /-- Control passes the path. -/
  straight : ∀ instruction ∈ arm.path, instruction.IsStraight
  /-- The path carries the marker of the kind. -/
  marked : classify? resolver arm.path = some arm.kind

/-- Whether an arm selects the path of its kind can be computed. -/
instance (resolver : Resolver) (mapping : TagMapping) (arm : Arm) :
    Decidable (arm.Selects resolver mapping) :=
  decidable_of_iff ((arm.load.IsBuilt ∧ arm.load.loadedLocal? = some 0) ∧
      (arm.literal.IsBuilt ∧ ((mapping.tagOf? arm.kind).any fun tag =>
        arm.literal.int32Literal? = some tag.toInt32) = true) ∧
      Operation.ofOpcode? 0 arm.opcode = some (.jumpIfEqual (!arm.inline)) ∧
      (∀ instruction ∈ arm.path, instruction.IsStraight) ∧
      classify? resolver arm.path = some arm.kind) (by
    rw [Option.any_eq_true]
    constructor
    · rintro ⟨load, ⟨built, tag, tagged, asked⟩, opcode, straight, marked⟩
      exact ⟨load, ⟨built, tag, tagged, of_decide_eq_true asked⟩, opcode, straight, marked⟩
    · rintro ⟨load, ⟨built, tag, tagged, asked⟩, opcode, straight, marked⟩
      exact ⟨load, ⟨built, tag, tagged, decide_eq_true asked⟩, opcode, straight, marked⟩)

namespace GetterPlan

/-- Where a plan has its keys: behind a check of the caller, if the getter starts with one. -/
def keyPositions (plan : GetterPlan) (resolver : Resolver) : Nat × Nat :=
  if plan.prologue.head?.any (·.isModuleLookup resolver) then (5, 7) else (1, 3)

/-- The plan is one of a getter with this mapping and these keys. -/
structure Realizes (resolver : Resolver) (mapping : TagMapping) (keys : Keys)
    (plan : GetterPlan) : Prop where
  /-- The prologue is quiet. -/
  prologue : ∀ instruction ∈ plan.prologue, instruction.IsQuiet resolver
  /-- The default path is quiet. -/
  fallback : ∀ instruction ∈ plan.fallback, instruction.IsQuiet resolver
  /-- The id is loaded from the second local variable. -/
  idLoad : plan.idLoad.IsBuilt ∧ plan.idLoad.loadedLocal? = some 1
  /-- Each arm selects the path of its kind. -/
  arms : ∀ arm ∈ plan.arms, arm.Selects resolver mapping
  /-- There is one arm for each kind but the default. -/
  kinds : (plan.arms.map (·.kind)).Perm ConstantKind.claimed
  /-- The paths elsewhere are those of the arms that are not inline. -/
  behind : plan.behind.Perm (plan.arms.filter (!·.inline))
  /-- The prologue loads the first key where it is looked for. -/
  multiplier : plan.prologue[(plan.keyPositions resolver).1]?.bind (·.int32Literal?) =
    some keys.multiplier
  /-- The prologue loads the second key where it is looked for. -/
  mask : plan.prologue[(plan.keyPositions resolver).2]?.bind (·.int32Literal?) = some keys.mask

variable {plan : GetterPlan} {resolver : Resolver} {mapping : TagMapping} {keys : Keys}

namespace Realizes

/-- A getter with a mapping has three arms: the fourth kind is the default. -/
theorem length_arms (realizes : plan.Realizes resolver mapping keys) : plan.arms.length = 3 := by
  have length := realizes.kinds.length_eq
  rwa [List.length_map] at length

/-- The plan of a getter with a mapping is built: its parts are straight code, and its arms compare.
-/
theorem isBuilt (realizes : plan.Realizes resolver mapping keys) : plan.IsBuilt where
  prologue := fun instruction member => (realizes.prologue instruction member).straight
  fallback := fun instruction member => (realizes.fallback instruction member).straight
  idLoad := Instruction.isStraight_of_loadedLocal? realizes.idLoad.1 realizes.idLoad.2
  arms := by
    intro arm member
    have selects := realizes.arms arm member
    obtain ⟨built, tag, -, literal⟩ := selects.literal
    exact ⟨Instruction.isStraight_of_loadedLocal? selects.load.1 selects.load.2,
      Instruction.isStraight_of_int32Literal? built literal, selects.straight, selects.opcode⟩
  kinds := realizes.kinds.nodup_iff.2 (by decide)
  behind := realizes.behind

/-- The plan of a getter with a mapping has markers in its paths only. -/
theorem isMarked (realizes : plan.Realizes resolver mapping keys) : plan.IsMarked resolver where
  prologue := classify?_eq_none fun instruction member =>
    (realizes.prologue instruction member).unmarked
  fallback := by
    refine classify?_eq_none (List.forall_mem_append.2 ⟨fun instruction member =>
      (realizes.fallback instruction member).unmarked, List.forall_mem_singleton.2 ?_⟩)
    exact Instruction.marks?_of_operation (operation_of_loadedLocal? realizes.idLoad.2)
  idLoad := Instruction.isLocalLoad_of_loadedLocal? realizes.idLoad.2
  arms := by
    intro arm member
    have selects := realizes.arms arm member
    obtain ⟨-, tag, -, literal⟩ := selects.literal
    have load := Instruction.isLocalLoad_of_loadedLocal? selects.load.2
    have number := Instruction.isInt32Load_of_int32Literal? literal
    refine ⟨⟨?_, ?_, selects.marked⟩, load⟩
    · exact classify?_eq_none (List.forall_mem_cons.2
        ⟨Instruction.marks?_of_operation (operation_of_loadedLocal? selects.load.2),
          List.forall_mem_singleton.2
            (Instruction.marks?_of_operation (operation_of_int32Literal? literal))⟩)
    · rw [Arm.test, List.map_cons, List.map_singleton,
        Instruction.neutralized_of_isLocalLoad load,
        Instruction.neutralized_of_isInt32Load number]

/-- The tags of a mapping select its kinds in a dispatch. -/
theorem selected_eq (realizes : plan.Realizes resolver mapping keys) {tag : Nat} (four : tag < 4) :
    selected (UInt32.ofNat tag).toInt32 plan.arms = mapping.kind (UInt32.ofNat tag) := by
  rw [selected]
  cases found : plan.arms.find? (·.literal.int32Literal? = some (UInt32.ofNat tag).toInt32) with
  | some arm =>
    have member := List.mem_of_find?_eq_some found
    have hit := List.find?_some found
    have literal := of_decide_eq_true hit
    obtain ⟨-, own, tagged, asked⟩ := (realizes.arms arm member).literal
    rw [asked, Option.some.injEq] at literal
    have same := congrArg Int32.toUInt32 literal
    rw [UInt32.toUInt32_toInt32, UInt32.toUInt32_toInt32] at same
    rw [← same]
    exact (TagMapping.kind_of_tagOf? tagged).symm
  | none =>
    by_contra other
    have claimed : mapping.kind (UInt32.ofNat tag) ∈ ConstantKind.claimed := by
      change ¬ ConstantKind.default = _ at other
      cases kind : mapping.kind (UInt32.ofNat tag) with
      | default => exact absurd kind.symm other
      | _ => decide
    obtain ⟨arm, member, kind⟩ := List.mem_map.1 (realizes.kinds.mem_iff.2 claimed)
    obtain ⟨-, own, tagged, asked⟩ := (realizes.arms arm member).literal
    rw [kind, TagMapping.tagOf?_of_kind four claimed, Option.some.injEq] at tagged
    have absent := List.find?_eq_none.1 found arm member
    rw [asked, ← tagged] at absent
    exact absent (decide_eq_true rfl)

end Realizes

end GetterPlan

end ConstantRecovery
