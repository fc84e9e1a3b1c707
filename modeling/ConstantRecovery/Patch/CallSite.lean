import ConstantRecovery.Error
import ConstantRecovery.Metadata.Members

/-!
# Call sites

A protected constant is a 32-bit literal followed by a call of an instantiation of
the getter. A jump directly in front of the call that goes to the call itself does
nothing, and is removed when the call is found.
-/

namespace ConstantRecovery

/-- What a getter call is asked for. -/
structure CallSite where
  /-- The number of the call in its body. -/
  index : Nat
  /-- Where the literal starts. -/
  offset : Nat
  /-- The literal. -/
  raw : Int32
  /-- The type argument of the call. -/
  type : TypeSignature
deriving DecidableEq

namespace Instruction

/-- The instantiation it works on. -/
def instantiation? (instruction : Instruction) (resolver : Resolver) : Option Instantiation :=
  instruction.token?.bind resolver.instantiation

/-- It calls an instantiation of the getter. -/
def isGetterCall (instruction : Instruction) (getter : Token) (resolver : Resolver) : Bool :=
  instruction.isPlain Opcode.Code.call &&
    (instruction.instantiation? resolver).any (·.method = getter)

/-- It does nothing but jump to an offset. -/
def forwardsTo (instruction : Instruction) (offset : Nat) : Bool :=
  instruction.isUnconditional && instruction.target? = some offset

end Instruction

/-- The number of the first getter call that is not in front of `start`. -/
def getterCallFrom? (getter : Token) (resolver : Resolver) (code : List Instruction)
    (start : Nat) : Option Nat :=
  ((code.drop start).findIdx? (·.isGetterCall getter resolver)).map (start + ·)

/-- The instruction in front of a number forwards to the one with that number. -/
def forwardedInto (code : List Instruction) (index : Nat) : Bool :=
  match index with
  | 0 => false
  | before + 1 =>
    match code[before]?, code[before + 1]? with
    | some jump, some call => jump.forwardsTo call.offset
    | _, _ => false

/-- Finds the first getter call that is not in front of `start`, and removes the jump in front
of it that only forwards to it. Gives the number of the call and the stream as they are then. -/
def nextCallSite (getter : Token) (resolver : Resolver) (code : List Instruction) (start : Nat) :
    Option (Nat × List Instruction) :=
  (getterCallFrom? getter resolver code start).map fun index =>
    if forwardedInto code index then (index - 1, code.eraseIdx (index - 1)) else (index, code)

/-- Reads the call site of a getter call. -/
def readCallSite (resolver : Resolver) (code : List Instruction) (index : Nat) :
    Except CallSiteDefect CallSite :=
  match code[index]? with
  | none => .error (.noInstruction index)
  | some call =>
    match index with
    | 0 => .error (.noArgument call)
    | before + 1 =>
      match code[before]? with
      | none => .error (.noArgument call)
      | some literal =>
        match literal.int32Literal? with
        | none => .error (.noLiteral call literal)
        | some raw =>
          match (call.instantiation? resolver).bind (·.arguments.head?) with
          | none => .error (.noTypeArgument call)
          | some type => .ok { index, offset := literal.offset, raw, type }

end ConstantRecovery
