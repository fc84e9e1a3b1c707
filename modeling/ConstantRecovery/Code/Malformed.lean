import ConstantRecovery.Text.Hex

/-!
# Malformed code

What can be wrong with a stream under construction or with a block view.
-/

namespace ConstantRecovery

/-- Why a stream or a block view is rejected. -/
inductive Malformed where
  /-- A label is bound a second time. -/
  | duplicateLabel (label : String)
  /-- A branch names a label that is never bound. -/
  | undefinedLabel (label : String)
  /-- A jump in a block goes to an offset where no block starts. -/
  | strayJump (offset block target : Nat)
  /-- A block that control reaches has an identifier or an edge that is no position. -/
  | strayEdge
deriving DecidableEq

namespace Malformed

/-- The complaint in words. -/
def message : Malformed → String
  | duplicateLabel label => "Label '" ++ label ++ "' is defined twice"
  | undefinedLabel label => "Undefined label '" ++ label ++ "'"
  | strayJump offset block target =>
    "Branch at " ++ Text.offsetLabel offset ++ " in block " ++ toString block ++
      " targets " ++ Text.offsetLabel target ++ ", which starts no block"
  | strayEdge => "An edge of the block view leads to no block"

end Malformed

end ConstantRecovery
