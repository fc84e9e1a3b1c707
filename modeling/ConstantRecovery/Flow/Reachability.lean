import ConstantRecovery.Flow.Block

/-!
# Blocks that control reaches

The search starts at the first block and follows edges round by round; an edge past
the end of the view leads nowhere. `prune?` keeps the blocks that are reached, in
their order, and numbers them and their edges by their new positions.
-/

namespace ConstantRecovery

/-- The positions one edge away from a position. -/
def edgesFrom (blocks : List BasicBlock) (position : Nat) : List Nat :=
  match blocks[position]? with
  | some block => block.successors.filter (· < blocks.length)
  | none => []

/-- Follows edges from the frontier, round by round, until a round finds nothing new. -/
def explore (blocks : List BasicBlock) : Nat → List Nat → List Nat → List Nat
  | 0, seen, _ => seen
  | rounds + 1, seen, frontier =>
    let fresh := ((frontier.flatMap (edgesFrom blocks)).filter (!seen.contains ·)).eraseDups
    if fresh.isEmpty then seen else explore blocks rounds (seen ++ fresh) fresh

/-- The positions reached from the first block. Each round but the last finds a new one, so as
many rounds as there are blocks are enough. -/
def reachable (blocks : List BasicBlock) : List Nat :=
  if blocks.isEmpty then [] else explore blocks blocks.length [0] [0]

/-- The positions that stay, in order. -/
def survivors (blocks : List BasicBlock) : List Nat :=
  let reached := reachable blocks
  (List.range blocks.length).filter (reached.contains ·)

/-- The number given to a block that carries the identifier of a dropped one. -/
def droppedId : Nat := UInt64.size - 1

/-- The new number of an old position; there is none for a number that is no position. -/
def renumbered? (count : Nat) (kept : List Nat) (old : Nat) : Option Nat :=
  if old < count then some ((kept.idxOf? old).getD droppedId) else none

/-- The blocks that control reaches, numbered anew. There is no result when one of them has an
identifier or an edge that is no position of the view. -/
def prune? (blocks : List BasicBlock) : Option (List BasicBlock) :=
  let kept := survivors blocks
  let renumber := renumbered? blocks.length kept
  (kept.filterMap (blocks[·]?)).mapM fun block => do
    let id ← renumber block.id
    let successors ← block.successors.mapM renumber
    return { block with id, successors }

end ConstantRecovery
