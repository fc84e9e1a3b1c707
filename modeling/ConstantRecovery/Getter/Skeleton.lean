import ConstantRecovery.Error
import ConstantRecovery.Flow.Flattening
import ConstantRecovery.Flow.Reachability
import ConstantRecovery.Flow.Splitting
import ConstantRecovery.Getter.Markers

/-!
# The dispatch skeleton

What a tag selects can be learned without understanding the decode paths. Each
decode block is replaced by a stub that leaves the sentinel of its path, and every
other instruction that does not drive the dispatch becomes a `nop` at the same
offset, so that jumps still find their blocks. The blocks are joined again, and
what stands in front of the first load of a local variable is dropped.
-/

namespace ConstantRecovery

namespace Instruction

/-- The instruction takes part in the dispatch: it loads a local variable or an integer, widens
one, jumps or returns. -/
def drivesDispatch (instruction : Instruction) : Bool :=
  instruction.isLocalLoad || instruction.isInt32Load ||
    instruction.isPlain Opcode.Code.ldcI8 || instruction.isPlain Opcode.Code.convU8 ||
    instruction.isPlain Opcode.Code.ret || instruction.isBranch

/-- The instruction itself if it drives the dispatch, else a `nop` in its place. -/
def neutralized (instruction : Instruction) : Instruction :=
  if instruction.drivesDispatch then instruction else nop.placedAt instruction.offset

end Instruction

namespace BasicBlock

/-- The path a block belongs to. -/
def kind? (resolver : Resolver) (block : BasicBlock) : Option ConstantKind :=
  classify? resolver block.instructions

/-- What stands for a decode block: load the sentinel, return. -/
def stub (block : BasicBlock) (kind : ConstantKind) : List Instruction :=
  let load := Instruction.ldcI4 kind.sentinel
  [load.placedAt block.offset, Instruction.ret.placedAt (block.offset + load.size)]

/-- The block without anything but dispatch. -/
def canonical (resolver : Resolver) (block : BasicBlock) : BasicBlock :=
  match block.kind? resolver with
  | some kind => { block with instructions := block.stub kind }
  | none => { block with instructions := block.instructions.map (·.neutralized) }

end BasicBlock

/-- The paths of the decode blocks of a view, in order. -/
def decodeKinds (resolver : Resolver) (blocks : List BasicBlock) : List ConstantKind :=
  blocks.filterMap (·.kind? resolver)

/-- The paths of the decode blocks of a view, if there are three. -/
def checkedKinds (resolver : Resolver) (blocks : List BasicBlock) :
    Except GetterDefect (List ConstantKind) :=
  let found := decodeKinds resolver blocks
  if found.length = 3 then .ok found else .error (.decodeBlocks found.length)

/-- A block view without anything but dispatch. -/
def canonicalize (resolver : Resolver) (blocks : List BasicBlock) : List BasicBlock :=
  blocks.map (·.canonical resolver)

/-- A stream from its first load of a local variable on. -/
def trim (code : List Instruction) : List Instruction :=
  code.dropWhile (!·.isLocalLoad)

/-- The dispatch skeleton of a getter body. -/
def dispatchSkeleton (resolver : Resolver) (body : List Instruction) :
    Except Error (List Instruction) := do
  match prune? (buildBlocks body) with
  | none => throw (.malformed .strayEdge)
  | some blocks =>
    discard ((checkedKinds resolver blocks).mapError .malformedGetter)
    let code ← (flattenBlocks (canonicalize resolver blocks)).mapError .malformed
    return trim code

end ConstantRecovery
