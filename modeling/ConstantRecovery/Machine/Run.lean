import ConstantRecovery.Machine.Limits
import ConstantRecovery.Machine.Step

/-!
# Runs

A run executes instructions one after the other until one of them ends it, control
leaves the stream, an instruction fails or the limit is reached. Leaving the stream
is a normal end. A routine is a stream together with what its runs start from; each
run has a state of its own.
-/

namespace ConstantRecovery

/-- Goes on at an instruction number with so many instructions left to execute. -/
def runFrom (limits : Limits) (code : List Instruction) (left cursor : Nat) (context : Context) :
    Except Fault Context :=
  match code[cursor]? with
  | none => .ok context
  | some instruction =>
    match left with
    | 0 => .error limits.exceeded
    | left + 1 =>
      match step instruction { context with position := instruction.offset } with
      | .error fault _ => .error fault
      | .ok .proceed context => runFrom limits code left (cursor + 1) context
      | .ok (.jump target) context =>
        match context.indexOf target with
        | .ok cursor => runFrom limits code left cursor context
        | .error fault => .error fault
      | .ok .finish context => .ok context

/-- Runs a stream from its first instruction. -/
def run (limits : Limits) (code : List Instruction) (context : Context) : Except Fault Context :=
  runFrom limits code limits.allowance 0 context

/-- A stream and what its runs start from. -/
structure Routine where
  /-- The stream. -/
  code : List Instruction
  /-- How long a run may take. -/
  limits : Limits
  /-- The arguments of every run. -/
  arguments : FiniteMap UInt16 Value
  /-- The local variables that have a value from the start. -/
  locals : FiniteMap UInt16 Value
  /-- The arrays that are there from the start. -/
  arrays : List (List Int32)

namespace Routine

/-- A stream whose runs start from nothing. -/
def ofCode (code : List Instruction) : Routine :=
  { code, limits := .standard, arguments := .empty, locals := .empty, arrays := [] }

/-- Passes an argument to every run. -/
def setArgument (routine : Routine) (index : UInt16) (value : Value) : Routine :=
  { routine with arguments := routine.arguments.set index value }

/-- Gives a local variable a value at the start of every run. -/
def setLocal (routine : Routine) (index : UInt16) (value : Value) : Routine :=
  { routine with locals := routine.locals.set index value }

/-- Adds an array to the start of every run, and gives its number. -/
def allocate (routine : Routine) (elements : List Int32) : Nat × Routine :=
  (routine.arrays.length, { routine with arrays := routine.arrays ++ [elements] })

/-- The state every run starts from. -/
def start (routine : Routine) : Context :=
  { Context.ofCode routine.code with
    arguments := routine.arguments, locals := routine.locals, arrays := routine.arrays }

/-- Runs the routine once. -/
def emulate (routine : Routine) : Except Fault Context :=
  run routine.limits routine.code routine.start

end Routine

end ConstantRecovery
