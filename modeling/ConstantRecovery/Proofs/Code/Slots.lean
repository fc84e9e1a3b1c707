import ConstantRecovery.Getter.Skeleton
import ConstantRecovery.Proofs.Code.Built
import ConstantRecovery.Proofs.Code.Positions
import ConstantRecovery.Proofs.Machine.Relocation

/-!
# What moving slots leaves

Moving the slots of an instruction changes offsets in its operand and nothing else: where it
stands, how long it is, how it flows and what it loads stay, its targets move, and it is
still what a constructor makes.
-/

namespace ConstantRecovery

namespace Instruction

/-- An instruction with its slots moved, at some offset. -/
def laid (move : Nat → Nat) (offset : Nat) (instruction : Instruction) : Instruction :=
  (instruction.mapSlots move).placedAt offset

variable (move : Nat → Nat) (instruction : Instruction)

/-- Moving slots moves no instruction. -/
@[simp] theorem offset_mapSlots : (instruction.mapSlots move).offset = instruction.offset := by
  obtain ⟨operand, same⟩ := instruction.mapSlots_frame move
  rw [same]

/-- Moving slots makes no instruction longer. -/
@[simp] theorem size_mapSlots : (instruction.mapSlots move).size = instruction.size := by
  obtain ⟨operand, same⟩ := instruction.mapSlots_frame move
  rw [same]

/-- Moving slots changes no flow. -/
@[simp] theorem flow_mapSlots : (instruction.mapSlots move).flow = instruction.flow := by
  obtain ⟨operand, same⟩ := instruction.mapSlots_frame move
  rw [same]

/-- Moving slots changes no lead byte. -/
@[simp] theorem lead_mapSlots : (instruction.mapSlots move).lead = instruction.lead := by
  obtain ⟨operand, same⟩ := instruction.mapSlots_frame move
  rw [same]

/-- Moving slots changes no opcode. -/
@[simp] theorem opcode_mapSlots : (instruction.mapSlots move).opcode = instruction.opcode := by
  obtain ⟨operand, same⟩ := instruction.mapSlots_frame move
  rw [same]

/-- Moving slots moves targets. -/
theorem targets_mapSlots : (instruction.mapSlots move).targets = instruction.targets.map move := by
  obtain ⟨offset, size, opcode, lead, mnemonic, flow, operand⟩ := instruction
  cases flow <;> cases operand <;> rfl

/-- Moving slots moves the target. -/
theorem target?_mapSlots : (instruction.mapSlots move).target? = instruction.target?.map move :=
  target?_moved move instruction

/-- The target of a jump is one of its targets. -/
theorem mem_targets_of_target? {instruction : Instruction} {target : Nat}
    (aims : instruction.target? = some target) : target ∈ instruction.targets := by
  have single : instruction.targets = instruction.target?.toList := by
    cases works : instruction.operand with
    | table entries => simp only [target?, works] at aims; cases aims
    | _ => simp only [targets, works]
  rw [single, aims]
  exact List.mem_singleton.2 rfl

/-- Moving slots changes no 32-bit literal. -/
@[simp] theorem int32Literal?_mapSlots :
    (instruction.mapSlots move).int32Literal? = instruction.int32Literal? :=
  int32Literal?_moved move instruction

/-- Moving slots changes no load of a local variable. -/
@[simp] theorem loadedLocal?_mapSlots :
    (instruction.mapSlots move).loadedLocal? = instruction.loadedLocal? :=
  accessed?_moved move instruction _ _ _

/-- Laying out changes no load of a local variable. -/
theorem isLocalLoad_laid (offset : Nat) :
    (instruction.laid move offset).isLocalLoad = instruction.isLocalLoad :=
  congrArg Option.isSome (instruction.loadedLocal?_mapSlots move)

/-- Moving slots and placing do not meet. -/
theorem placedAt_mapSlots (offset : Nat) :
    (instruction.mapSlots move).placedAt offset = (instruction.placedAt offset).mapSlots move := by
  obtain ⟨offset, size, opcode, lead, mnemonic, flow, operand⟩ := instruction
  cases flow <;> cases operand <;> rfl

/-- What moves slots twice moves them once. -/
theorem mapSlots_mapSlots (again : Nat → Nat) :
    (instruction.mapSlots move).mapSlots again = instruction.mapSlots (again ∘ move) := by
  obtain ⟨offset, size, opcode, lead, mnemonic, flow, operand⟩ := instruction
  cases flow <;> cases operand <;> simp [mapSlots, isBranch, isLeave]

/-- What is laid out and then again is laid out once, by both moves. -/
theorem laid_laid (again : Nat → Nat) (offset place : Nat) :
    (instruction.laid move offset).laid again place = instruction.laid (again ∘ move) place := by
  show (((instruction.mapSlots move).placedAt offset).mapSlots again).placedAt place = _
  rw [← placedAt_mapSlots, mapSlots_mapSlots]
  rfl

variable {instruction}

/-- An instruction with moved slots is made by a constructor: what a constructor takes from the
operand is its size, and that stays. -/
theorem IsBuilt.mapSlots (built : instruction.IsBuilt) : (instruction.mapSlots move).IsBuilt := by
  obtain ⟨lead, opcode, operand, known, same⟩ := built
  have works : instruction.operand = operand :=
    (congrArg Instruction.operand same).trans (build_operand lead opcode operand)
  have slots : ∃ other : Operand, instruction.mapSlots move = { instruction with operand := other } ∧
      other.size = instruction.operand.size := by
    obtain ⟨offset, size, opcode, lead, mnemonic, flow, operand⟩ := instruction
    cases flow <;> cases operand <;>
      first
      | exact ⟨_, rfl, rfl⟩
      | exact ⟨_, rfl, by simp only [Operand.size, List.length_map]⟩
  obtain ⟨other, moved, size⟩ := slots
  have rebuilt : build lead opcode other = { build lead opcode operand with operand := other } := by
    rw [works] at size
    simp only [build, size]
    split <;> rfl
  refine ⟨lead, opcode, other, known, ?_⟩
  rw [moved, rebuilt, same]
  rfl

/-- An instruction with moved slots drives the dispatch if the instruction does. -/
theorem drivesDispatch_mapSlots (instruction : Instruction) :
    (instruction.mapSlots move).drivesDispatch = instruction.drivesDispatch := by
  simp only [drivesDispatch, isLocalLoad, isInt32Load, isPlain, isBranch, int32Literal?_mapSlots,
    loadedLocal?_mapSlots, lead_mapSlots, opcode_mapSlots, flow_mapSlots]

end Instruction

/-- Renumbering an ascending stream moves each instruction and each slot by one map. -/
theorem Ascending.renumber_eq_map_moved {code : List Instruction} (ascending : Ascending code) :
    renumber code = code.map (·.moved (landing code (settle 0 code))) := by
  refine List.ext_getElem? fun position => ?_
  rw [renumber, List.getElem?_map, List.getElem?_map, getElem?_settle, Nat.zero_add]
  cases here : code[position]? with
  | none => rfl
  | some instruction =>
    rw [Option.map_some, Option.map_some, Option.map_some, Instruction.moved,
      ascending.landing_offset here, Instruction.placedAt_mapSlots]

/-- Moving a stream before it is renumbered changes nothing, if every target stays behind the
instructions it was behind, and behind no other. -/
theorem renumber_map_moved {left : List Instruction} {move : Nat → Nat}
    (keeps : ∀ instruction ∈ left, ∀ target,
      move instruction.offset < move target ↔ instruction.offset < target) :
    renumber (left.map (·.moved move)) = renumber left := by
  have passed (target : Nat) :
      codeSize ((left.map (·.moved move)).takeWhile (·.offset < move target)) =
        codeSize (left.takeWhile (·.offset < target)) := by
    induction left with
    | nil => rfl
    | cons first rest ih =>
      obtain ⟨here, others⟩ := List.forall_mem_cons.1 keeps
      have same : decide ((first.moved move).offset < move target) =
          decide (first.offset < target) := decide_eq_decide.2 (here target)
      rw [List.map_cons, List.takeWhile_cons, List.takeWhile_cons, same]
      split
      · rw [codeSize_cons, codeSize_cons, ih others]
        congr 1
        exact first.size_mapSlots move
      · rfl
  have slots (instruction : Instruction) :
      (instruction.moved move).mapSlots (fun target =>
          codeSize ((left.map (·.moved move)).takeWhile (·.offset < target))) =
        (instruction.mapSlots fun target =>
          codeSize (left.takeWhile (·.offset < target))).placedAt (move instruction.offset) := by
    rw [Instruction.moved, ← Instruction.placedAt_mapSlots, Instruction.mapSlots_mapSlots]
    congr 2
    exact funext passed
  have all : (left.map (·.moved move)).map (·.mapSlots fun target =>
        codeSize ((left.map (·.moved move)).takeWhile (·.offset < target))) =
      (left.map (·.mapSlots fun target =>
        codeSize (left.takeWhile (·.offset < target)))).map fun instruction =>
          instruction.placedAt (move instruction.offset) := by
    rw [List.map_map, List.map_map]
    refine List.map_congr_left fun instruction _ => ?_
    rw [Function.comp, Function.comp, slots, Instruction.offset_mapSlots]
  rw [renumber_eq, renumber_eq, all, settle_map_placedAt]

end ConstantRecovery
