import ConstantRecovery.Code.Malformed
import ConstantRecovery.Code.Wrapping
import ConstantRecovery.Flow.Block

/-!
# Joining blocks into a stream

The blocks of a view are laid out one behind the other from offset zero. Every jump
has to go to the start of one of them, and follows that block to its new place.
`flattenBlocks` is for views that fit into 64-bit offsets; `flattenBlocksWrapping`
lays out any view, with a cursor that wraps around.
-/

namespace ConstantRecovery

/-- The blocks of a view in their new places: offsets and instructions moved, jumps not yet. -/
def settleBlocks (start : Nat) : List BasicBlock → List BasicBlock
  | [] => []
  | block :: rest =>
    { block with offset := start, instructions := settle start block.instructions } ::
      settleBlocks (start + block.size) rest

/-- Where the block that used to start at an offset starts in the new layout. -/
def relocation? (before after : List BasicBlock) (target : Nat) : Option Nat :=
  (lastPosition? target (before.map (·.offset))).bind fun position =>
    after[position]?.map (·.offset)

/-- Lets the jumps of one instruction follow their blocks. -/
def relocate (move? : Nat → Option Nat) (block : Nat) (instruction : Instruction) :
    Except Malformed Instruction :=
  match instruction.jumpSlots.find? (fun target => (move? target).isNone) with
  | some target => .error (.strayJump instruction.offset block target)
  | none => .ok (instruction.mapSlots fun target => (move? target).getD target)

/-- The stream of blocks that have been settled, or the first jump that goes to no block. -/
def joinSettled (blocks settled : List BasicBlock) : Except Malformed (List Instruction) :=
  let move? := relocation? blocks settled
  let relocated (block : BasicBlock) := block.instructions.mapM (relocate move? block.id)
  (settled.mapM relocated).map List.flatten

/-- The stream of a block view, or the first jump that goes to no block. -/
def flattenBlocks (blocks : List BasicBlock) : Except Malformed (List Instruction) :=
  joinSettled blocks (settleBlocks 0 blocks)

/-- The blocks of a view where a 64-bit cursor places them. -/
def settleBlocksWrapping (start : UInt64) : List BasicBlock → List BasicBlock
  | [] => []
  | block :: rest =>
    { block with
      offset := start.toNat
      instructions := settleWrapping start block.instructions } ::
      settleBlocksWrapping (start + UInt64.ofNat block.size) rest

/-- The stream of a block view as a 64-bit cursor lays it out, or the first jump that goes to no
block. -/
def flattenBlocksWrapping (blocks : List BasicBlock) : Except Malformed (List Instruction) :=
  joinSettled blocks (settleBlocksWrapping 0 blocks)

end ConstantRecovery
