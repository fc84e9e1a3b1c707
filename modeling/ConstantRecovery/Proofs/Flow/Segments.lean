import ConstantRecovery.Proofs.Code.Built
import ConstantRecovery.Proofs.Code.Positions

/-!
# Streams laid out from segments

A segment is straight code and one way out: it returns, or it branches to the start of a
segment that it names by number. Laying segments out gives a stream in which every
branch has an offset. The numbers say what survives when the stream is laid out anew.
-/

namespace ConstantRecovery

/-- The way out of a segment. -/
inductive Exit where
  | returns
  /-- A branch to the start of a segment. -/
  | branch (opcode : UInt8) (segment : Nat)

/-- Straight code and a way out. -/
structure Segment where
  /-- The instructions in front of the last one. -/
  straight : List Instruction
  /-- The last one. -/
  exit : Exit

/-- The last instruction of a segment, where segments start at the offsets `starts` gives. -/
def Exit.instruction (starts : Nat → Nat) : Exit → Instruction
  | returns => .ret
  | branch opcode segment => .branch opcode (starts segment)

/-- The instructions of a segment. -/
def Segment.code (starts : Nat → Nat) (segment : Segment) : List Instruction :=
  segment.straight ++ [segment.exit.instruction starts]

/-- The instructions of segments one behind the other. -/
def codeOf (starts : Nat → Nat) (segments : List Segment) : List Instruction :=
  segments.flatMap (·.code starts)

/-- Where a segment starts when segments are laid out from an offset on; the last number is that
of the end. -/
def startOf (base : Nat) (segments : List Segment) (index : Nat) : Nat :=
  base + codeSize (codeOf id (segments.take index))

/-- The stream of segments laid out from an offset on. -/
def assemble (base : Nat) (segments : List Segment) : List Instruction :=
  settle base (codeOf (startOf base segments) segments)

/-- An instruction is straight: a constructor made it, and control goes on behind it. -/
def Instruction.IsStraight (instruction : Instruction) : Prop :=
  instruction.IsBuilt ∧ (instruction.flow = .sequential ∨ instruction.flow = .call)

/-- Whether an instruction is straight can be computed. -/
instance (instruction : Instruction) : Decidable instruction.IsStraight :=
  inferInstanceAs (Decidable (_ ∧ _))

/-- A way out can be taken in a view of so many segments. -/
def Exit.IsSound (count : Nat) : Exit → Prop
  | returns => True
  | branch opcode segment =>
    segment < count ∧ (Opcode.lookup 0 opcode).map (·.flow) = some .conditional

/-- A segment is what it says: straight code up to a way out that can be taken. -/
structure Segment.IsSound (count : Nat) (segment : Segment) : Prop where
  /-- Control passes what stands in front of the way out. -/
  straight : ∀ instruction ∈ segment.straight, instruction.IsStraight
  /-- The way out leads to a segment. -/
  exit : segment.exit.IsSound count

namespace Instruction

variable {instruction : Instruction}

/-- A straight instruction ends no block. -/
theorem IsStraight.isTerminal (straight : instruction.IsStraight) :
    instruction.isTerminal = false := by
  rcases straight.2 with flow | flow <;> rw [Instruction.isTerminal, flow]

/-- A straight instruction is no jump. -/
theorem IsStraight.not_jumping (straight : instruction.IsStraight) :
    (instruction.isBranch || instruction.isLeave) = false := by
  rcases straight.2 with flow | flow <;> rw [isBranch, isLeave, flow] <;> rfl

/-- Straight code has no targets. -/
theorem IsStraight.targets (straight : instruction.IsStraight) : instruction.targets = [] := by
  have jumps := straight.not_jumping
  have single : instruction.target? = none := by
    unfold target?
    split
    · rw [jumps]
      rfl
    · rfl
  unfold Instruction.targets
  split
  · rcases straight.2 with flow | flow <;> rw [flow] <;> rfl
  · rw [single]
    rfl

/-- Straight code has no slots to move. -/
theorem IsStraight.mapSlots (straight : instruction.IsStraight) (move : Nat → Nat) :
    instruction.mapSlots move = instruction := by
  rw [Instruction.mapSlots, straight.not_jumping]
  rfl

section Branch

variable {opcode : UInt8}

/-- A branch with a conditional opcode is conditional. -/
theorem flow_branch
    (conditional : (Opcode.lookup 0 opcode).map (·.flow) = some .conditional) (target : Nat) :
    (branch opcode target).flow = .conditional := by
  rw [branch, plain, build_flow, conditional]
  rfl

/-- A conditional branch goes to the target it was made with. -/
theorem target?_branch
    (conditional : (Opcode.lookup 0 opcode).map (·.flow) = some .conditional) (target : Nat) :
    (branch opcode target).target? = some target := by
  rw [target?, operand_branch, isBranch, flow_branch conditional]
  rfl

/-- A conditional branch has one target, and that is its one slot. -/
theorem targets_branch
    (conditional : (Opcode.lookup 0 opcode).map (·.flow) = some .conditional) (target : Nat) :
    (branch opcode target).targets = [target] := by
  rw [targets, operand_branch, target?_branch conditional]
  rfl

/-- A conditional branch has one slot, the target it was made with. -/
theorem jumpSlots_branch
    (conditional : (Opcode.lookup 0 opcode).map (·.flow) = some .conditional) (target : Nat) :
    (branch opcode target).jumpSlots = [target] := by
  rw [jumpSlots, operand_branch, isBranch, flow_branch conditional]
  rfl

/-- A conditional branch that moves goes elsewhere and is the same otherwise. -/
theorem mapSlots_branch
    (conditional : (Opcode.lookup 0 opcode).map (·.flow) = some .conditional) (target : Nat)
    (move : Nat → Nat) : (branch opcode target).mapSlots move = branch opcode (move target) := by
  have flow := flow_branch conditional target
  obtain ⟨row, found, same⟩ := Option.map_eq_some_iff.1 conditional
  rw [Instruction.mapSlots, isBranch, flow]
  simp only [branch, plain, build, found, same, Bool.true_or, if_true]
  rfl

end Branch

end Instruction

namespace Exit

variable {count : Nat} {starts : Nat → Nat} {exit : Exit}

/-- A way out is made by a constructor. -/
theorem isBuilt (starts : Nat → Nat) (exit : Exit) : (exit.instruction starts).IsBuilt := by
  cases exit with
  | returns => exact Instruction.isBuilt_plain Opcode.Code.ret .bare
  | branch opcode segment => exact Instruction.isBuilt_plain opcode (.target (starts segment))

/-- Nothing behind a way out belongs to its segment. -/
theorem IsSound.isTerminal (sound : exit.IsSound count) :
    (exit.instruction starts).isTerminal = true := by
  cases exit with
  | returns => rfl
  | branch opcode segment =>
    rw [instruction, Instruction.isTerminal, Instruction.flow_branch sound.2]

/-- The targets of a way out are starts of segments. -/
theorem IsSound.exists_of_mem_targets (sound : exit.IsSound count) {target : Nat}
    (member : target ∈ (exit.instruction starts).targets) :
    ∃ segment < count, target = starts segment := by
  cases exit with
  | returns => cases member
  | branch opcode segment =>
    rw [instruction, Instruction.targets_branch sound.2] at member
    exact ⟨segment, sound.1, List.mem_singleton.1 member⟩

/-- A way out is as long wherever it goes. -/
theorem size_instruction (first second : Nat → Nat) (exit : Exit) :
    (exit.instruction first).size = (exit.instruction second).size := by
  cases exit with
  | returns => rfl
  | branch opcode segment =>
    simp only [instruction, Instruction.branch, Instruction.plain, Instruction.build]
    split <;> rfl

/-- Moving the slots of a way out moves where segments start. -/
theorem IsSound.mapSlots (sound : exit.IsSound count) {move other : Nat → Nat}
    (agree : ∀ segment < count, move (starts segment) = other segment) :
    (exit.instruction starts).mapSlots move = exit.instruction other := by
  cases exit with
  | returns => rfl
  | branch opcode segment =>
    rw [instruction, Instruction.mapSlots_branch sound.2, agree segment sound.1]
    rfl

end Exit

/-- The first segment comes first. -/
theorem codeOf_cons (starts : Nat → Nat) (segment : Segment) (rest : List Segment) :
    codeOf starts (segment :: rest) = segment.code starts ++ codeOf starts rest :=
  List.flatMap_cons

/-- Segments in a row have their instructions in a row. -/
theorem codeOf_append (starts : Nat → Nat) (front back : List Segment) :
    codeOf starts (front ++ back) = codeOf starts front ++ codeOf starts back :=
  List.flatMap_append

/-- Segments are as long wherever they go. -/
theorem sizes_codeOf (first second : Nat → Nat) (segments : List Segment) :
    (codeOf first segments).map (·.size) = (codeOf second segments).map (·.size) := by
  induction segments with
  | nil => rfl
  | cons segment rest ih =>
    simp only [codeOf_cons, List.map_append, ih, Segment.code, List.map_cons, List.map_nil,
      segment.exit.size_instruction first second]

/-- Segments have as many instructions wherever they start. -/
theorem length_codeOf (first second : Nat → Nat) (segments : List Segment) :
    (codeOf first segments).length = (codeOf second segments).length := by
  have same := congrArg List.length (sizes_codeOf first second segments)
  rwa [List.length_map, List.length_map] at same

/-- How many instructions stand in front of a segment. -/
def placeOf (segments : List Segment) (index : Nat) : Nat :=
  (codeOf id (segments.take index)).length

/-- From the start of a segment on, a stream has the segments from there on. -/
theorem drop_assemble (base : Nat) (segments : List Segment) (index : Nat) :
    (assemble base segments).drop (placeOf segments index) =
      settle (startOf base segments index)
        (codeOf (startOf base segments) (segments.drop index)) := by
  have split : codeOf (startOf base segments) segments =
      codeOf (startOf base segments) (segments.take index) ++
        codeOf (startOf base segments) (segments.drop index) := by
    rw [← codeOf_append, List.take_append_drop]
  have front := settle_append base (codeOf (startOf base segments) (segments.take index))
    (codeOf (startOf base segments) (segments.drop index))
  have length : (settle base (codeOf (startOf base segments) (segments.take index))).length =
      placeOf segments index := by
    rw [length_settle, placeOf, length_codeOf]
  have start : base + codeSize (codeOf (startOf base segments) (segments.take index)) =
      startOf base segments index := by
    rw [startOf, codeSize_congr (sizes_codeOf _ id _)]
  rw [assemble, split, front, start, ← length, List.drop_left]

end ConstantRecovery
