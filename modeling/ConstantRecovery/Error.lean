import ConstantRecovery.Code.Malformed
import ConstantRecovery.Code.Method
import ConstantRecovery.Getter.Kind
import ConstantRecovery.Machine.Fault

/-!
# Errors

What can go wrong on the way from a getter and its blob to patched methods, from
the whole protection down to a single call site.
-/

namespace ConstantRecovery

/-- How a getter differs from the shape it should have. -/
inductive GetterDefect where
  /-- A decode path is selected by a number of tags other than one. -/
  | claims (kind : ConstantKind) (tags : Nat)
  /-- The number of decode blocks is not three. -/
  | decodeBlocks (found : Nat)
  /-- No literal stands where a key should. -/
  | missingKey (getter : Method) (position : Nat)
  /-- A probe leaves no sentinel on top of the stack. -/
  | strayProbe (tag : Int32) (top : Option Value)
deriving DecidableEq

namespace GetterDefect

/-- The defect in words. -/
def message : GetterDefect → String
  | claims kind tags =>
    kind.name ++ " decode path is selected by " ++ toString tags ++ " tags"
  | decodeBlocks found => "expected 3 decode blocks, found " ++ toString found
  | missingKey getter position =>
    getter.text ++ " has no key literal at position " ++ toString position
  | strayProbe tag top =>
    "probe for tag " ++ toString tag.toInt ++ " ended with " ++
      (top.map Value.text).getD "an empty stack"

end GetterDefect

/-- A constant that cannot be turned into a literal. -/
inductive UnsupportedConstant where
  /-- A number of a type that has no number literal. -/
  | number (type : TypeSignature)
  /-- An object. -/
  | object (type : TypeSignature) (offset : Nat)
deriving DecidableEq

namespace UnsupportedConstant

/-- The constant in words. -/
def message : UnsupportedConstant → String
  | number type => "number constant of type " ++ type.text
  | object type offset =>
    "object constant of type " ++ type.text ++ " at blob offset 0x" ++ Text.hexLower 1 offset

end UnsupportedConstant

/-- How a call site differs from a literal followed by a getter call. -/
inductive CallSiteDefect where
  /-- There is no instruction with this number. -/
  | noInstruction (index : Nat)
  /-- Nothing stands in front of the call. -/
  | noArgument (call : Instruction)
  /-- Something else than a 32-bit literal stands in front of the call. -/
  | noLiteral (call argument : Instruction)
  /-- The called instantiation has no type argument. -/
  | noTypeArgument (call : Instruction)
deriving DecidableEq

namespace CallSiteDefect

/-- The defect in words. -/
def message : CallSiteDefect → String
  | noInstruction index => "no instruction at index " ++ toString index
  | noArgument call => call.text ++ " has no argument"
  | noLiteral call argument =>
    call.text ++ " is fed by " ++ argument.text ++ ", not an integer literal"
  | noTypeArgument call => call.text ++ " has no generic type argument"

end CallSiteDefect

/-- Why recovery fails. -/
inductive Error where
  /-- A stream or block view is malformed. -/
  | malformed (cause : Malformed)
  /-- A read goes past the end of the blob. -/
  | outOfBounds
  /-- A control-flow cleaner cannot do its work. -/
  | notSupported
  /-- A probe run stops without a result. -/
  | emulation (fault : Fault)
  /-- The getter does not have the expected shape. -/
  | malformedGetter (defect : GetterDefect)
  /-- The constant has no literal. -/
  | unsupportedConstant (constant : UnsupportedConstant)
  /-- The call site does not have the expected shape. -/
  | invalidCallSite (defect : CallSiteDefect)
deriving DecidableEq

namespace Error

/-- The error in words. -/
def message : Error → String
  | malformed cause => cause.message
  | outOfBounds => "Out of Bound read would have occurred!"
  | notSupported => "This operation is not supported"
  | emulation fault => "Emulation failed - " ++ fault.message
  | malformedGetter defect => "Malformed constant getter - " ++ defect.message
  | unsupportedConstant constant => "Unsupported constant kind - " ++ constant.message
  | invalidCallSite defect => "Invalid call site - " ++ defect.message

end Error

end ConstantRecovery
