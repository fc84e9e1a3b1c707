import ConstantRecovery.Code.Layout

/-!
# Methods

A method is a token, a full name and a body.
-/

namespace ConstantRecovery

/-- A method with its body. -/
structure Method where
  /-- The token that names it. -/
  token : Token
  /-- Its full name. -/
  name : String
  /-- Its body. -/
  body : List Instruction
deriving DecidableEq

namespace Method

/-- The encoded bytes of the body. -/
def size (method : Method) : Nat := codeSize method.body

/-- A method as it is listed. -/
def text (method : Method) : String :=
  method.name ++ " (" ++ method.token.text ++ ")"

end Method

end ConstantRecovery
