import ConstantRecovery.Code.Malformed
import ConstantRecovery.Code.Wrapping
import ConstantRecovery.FiniteMap

/-!
# Drafts

A draft is a stream under construction whose branches may name labels. A label is
bound to the item that follows it. Finishing settles the stream with a 64-bit cursor
and gives every branch the offset of its label; a label behind the last item means the
end.
-/

namespace ConstantRecovery

/-- One entry of a draft. -/
inductive DraftItem where
  /-- An instruction taken as it is, up to its offset. -/
  | fixed (instruction : Instruction)
  /-- A branch to a label. -/
  | jump (opcode : UInt8) (label : String)
deriving DecidableEq

/-- A stream under construction. -/
structure Draft where
  /-- What has been added, in order. -/
  items : List DraftItem
  /-- The labels that are bound, with the number of items in front of each. -/
  labels : FiniteMap String Nat
deriving DecidableEq

namespace DraftItem

/-- The instruction of an item whose label stands for `target`. -/
def instruction (target : Nat) : DraftItem → Instruction
  | fixed instruction => instruction
  | jump opcode _ => .branch opcode target

/-- An item takes the same room wherever it jumps. -/
theorem size_instruction (target other : Nat) (item : DraftItem) :
    (item.instruction target).size = (item.instruction other).size := by
  cases item with
  | fixed _ => rfl
  | jump opcode _ =>
    simp only [instruction, Instruction.branch, Instruction.plain, Instruction.build]
    split <;> rfl

end DraftItem

namespace Draft

/-- Nothing added, nothing bound. -/
def empty : Draft := ⟨[], .empty⟩

/-- How many items there are. -/
def length (draft : Draft) : Nat := draft.items.length

/-- Adds an instruction. -/
def emit (draft : Draft) (instruction : Instruction) : Draft :=
  { draft with items := draft.items ++ [.fixed instruction] }

/-- Adds a branch to a label. -/
def emitBranch (draft : Draft) (opcode : UInt8) (label : String) : Draft :=
  { draft with items := draft.items ++ [.jump opcode label] }

/-- Binds a label to the item that is added next. -/
def bind (draft : Draft) (label : String) : Except Malformed Draft :=
  match draft.labels.get? label with
  | some _ => .error (.duplicateLabel label)
  | none => .ok { draft with labels := draft.labels.set label draft.length }

/-- The items as instructions, settled, with every branch left at zero. -/
def outline (draft : Draft) : List Instruction :=
  settleWrapping 0 (draft.items.map (·.instruction 0))

/-- The offset that an item number stands for. -/
def offsetOf (draft : Draft) (index : Nat) : Nat :=
  match draft.outline[index]? with
  | some instruction => instruction.offset
  | none => wrap (codeSize draft.outline)

/-- The instruction of an item, aimed at its label. -/
def resolve (draft : Draft) : DraftItem → Except Malformed Instruction
  | .fixed instruction => .ok instruction
  | .jump opcode label =>
    match draft.labels.get? label with
    | some index => .ok (.branch opcode (draft.offsetOf index))
    | none => .error (.undefinedLabel label)

/-- The settled stream, or the first branch that names an unbound label. -/
def finish (draft : Draft) : Except Malformed (List Instruction) :=
  (draft.items.mapM draft.resolve).map (settleWrapping 0)

end Draft

end ConstantRecovery
