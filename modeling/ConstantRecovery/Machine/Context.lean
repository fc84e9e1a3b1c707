import ConstantRecovery.Code.Layout
import ConstantRecovery.FiniteMap
import ConstantRecovery.Flow.Block
import ConstantRecovery.Machine.Fault

/-!
# The state of a run

A context holds what a run can read and change: arguments, local variables, the
evaluation stack and the arrays, next to the offsets of the code it belongs to. The
stack is a list with its top in front.
-/

namespace ConstantRecovery

/-- The state of a run. -/
structure Context where
  /-- The arguments that were passed. -/
  arguments : FiniteMap UInt16 Value
  /-- The local variables that have a value. -/
  locals : FiniteMap UInt16 Value
  /-- Where the instructions of the code start. -/
  starts : List Nat
  /-- The evaluation stack, top first. -/
  stack : List Value
  /-- The arrays, by number. -/
  arrays : List (List Int32)
  /-- Where the instruction in execution starts. -/
  position : Nat
deriving DecidableEq

namespace Context

/-- The state in which nothing has a value, for a stream of instructions. -/
def ofCode (code : List Instruction) : Context :=
  { arguments := .empty, locals := .empty, starts := offsets code, stack := [], arrays := [],
    position := 0 }

/-- Passes an argument. -/
def setArgument (context : Context) (index : UInt16) (value : Value) : Context :=
  { context with arguments := context.arguments.set index value }

/-- The value of an argument. -/
def argument (context : Context) (index : UInt16) : Except Fault Value :=
  match context.arguments.get? index with
  | some value => .ok value
  | none => .error (.uninitializedArgument index)

/-- Stores into a local variable. -/
def setLocal (context : Context) (index : UInt16) (value : Value) : Context :=
  { context with locals := context.locals.set index value }

/-- The value of a local variable. -/
def localValue (context : Context) (index : UInt16) : Except Fault Value :=
  match context.locals.get? index with
  | some value => .ok value
  | none => .error (.uninitializedLocal index)

/-- The number of the instruction that starts at an offset; the last one, if several do. -/
def indexOf (context : Context) (offset : Nat) : Except Fault Nat :=
  match lastPosition? offset context.starts with
  | some index => .ok index
  | none => .error (.invalidBranchTarget offset)

/-- Puts a value on the stack. -/
def push (context : Context) (value : Value) : Context :=
  { context with stack := value :: context.stack }

/-- The top of the stack. -/
def top? (context : Context) : Option Value := context.stack.head?

/-- Adds an array, and gives its number. -/
def allocate (context : Context) (elements : List Int32) : Nat × Context :=
  (context.arrays.length, { context with arrays := context.arrays ++ [elements] })

/-- The elements of an array. -/
def elements (context : Context) (array : Nat) : Except Fault (List Int32) :=
  match context.arrays[array]? with
  | some elements => .ok elements
  | none => .error .invalidArrayReference

/-- Overwrites an element of an array. -/
def setElement (context : Context) (array slot : Nat) (value : Int32) : Context :=
  { context with arrays := context.arrays.modify array (·.set slot value) }

end Context

end ConstantRecovery
