import ConstantRecovery.Proofs.Machine.Control
import ConstantRecovery.Proofs.Machine.Execution

/-!
# What a run passes and what it carries

The trail of a run lists the numbers of the instructions it executes. On the way the
operations that a dispatch is made of only load, widen and compare: they write to no
local variable, and every value they leave on the stack was there, is loaded from the
instruction or from a local variable, or is such a value widened.
-/

namespace ConstantRecovery

/-- The numbers of the instructions that a run executes, in order. -/
def trail (code : List Instruction) (left cursor : Nat) (context : Context) : List Nat :=
  match code[cursor]? with
  | none => []
  | some instruction =>
    match left with
    | 0 => []
    | left + 1 =>
      cursor :: match step instruction { context with position := instruction.offset } with
        | .error _ _ => []
        | .ok .proceed context => trail code left (cursor + 1) context
        | .ok (.jump target) context =>
          match context.indexOf target with
          | .ok cursor => trail code left cursor context
          | .error _ => []
        | .ok .finish _ => []

/-- A run that may go on passes the instruction it stands at, and then those that it executes from
where that one leads. -/
theorem trail_succ {code : List Instruction} {cursor : Nat} {instruction : Instruction}
    {context : Context} (here : code[cursor]? = some instruction) (left : Nat) :
    trail code (left + 1) cursor context =
      cursor :: match step instruction (context.at instruction) with
        | .error _ _ => []
        | .ok .proceed context => trail code left (cursor + 1) context
        | .ok (.jump target) context =>
          match context.indexOf target with
          | .ok cursor => trail code left cursor context
          | .error _ => []
        | .ok .finish _ => [] := by
  rw [trail, here]
  rfl

/-- The operations that a dispatch is made of. -/
def Operation.dispatches : Operation → Bool
  | skip | loadConstant | loadLocal | widen | jump | jumpIfEqual _ | finish => true
  | _ => false

/-- Where a value comes from that an instruction leaves on the stack. -/
inductive Value.From (instruction : Instruction) (context : Context) : Value → Prop
  /-- It was there. -/
  | kept {value : Value} (member : value ∈ context.stack) : From instruction context value
  /-- The instruction carries it. -/
  | literal {value : Value} (loads : instruction.literal? = some value) :
      From instruction context value
  /-- A local variable holds it. -/
  | held {value : Value} {index : UInt16} (loads : context.locals.get? index = some value) :
      From instruction context value
  /-- It was there in 32 bits. -/
  | widened {value wide : Value} (member : value ∈ context.stack)
      (widens : value.widen = .ok wide) : From instruction context wide

namespace Action

variable {α β : Type} {context after : Context}

/-- A computation that succeeds does so part by part. -/
theorem exists_of_bind {first : Action α} {rest : α → Action β} {result : β}
    (done : (first >>= rest) context = .ok result after) :
    ∃ value middle, first context = .ok value middle ∧ rest value middle = .ok result after := by
  change EStateM.bind first rest context = _ at done
  unfold EStateM.bind at done
  cases front : first context with
  | error fault middle =>
    rw [front] at done
    cases done
  | ok value middle =>
    rw [front] at done
    exact ⟨value, middle, rfl, done⟩

/-- A result that was required and given is the one that was there, and nothing has changed. -/
theorem of_require {fault : Fault} {result : Option α} {value : α}
    (done : require fault result context = .ok value after) :
    result = some value ∧ context = after := by
  cases result with
  | none => cases done
  | some result =>
    cases done
    exact ⟨rfl, rfl⟩

/-- A partial result that was given is the one that was there, and nothing has changed. -/
theorem of_ofExcept {result : Except Fault α} {value : α}
    (done : ofExcept result context = .ok value after) : result = .ok value ∧ context = after := by
  cases result with
  | error fault => cases done
  | ok result =>
    cases done
    exact ⟨rfl, rfl⟩

/-- A value that was taken was the top of the stack, and the rest is left. -/
theorem of_pop {value : Value} (done : pop context = .ok value after) :
    context.stack = value :: after.stack ∧ after = { context with stack := after.stack } := by
  obtain ⟨arguments, locals, starts, stack, arrays, position⟩ := context
  cases stack with
  | nil => cases done
  | cons top rest =>
    cases done
    exact ⟨rfl, rfl⟩

end Action

section Steps

variable {instruction : Instruction} {context after : Context} {next : Next} {value : Value}

/-- A local variable that is read holds what is read. -/
theorem Context.get?_of_localValue {index : UInt16} (known : context.localValue index = .ok value) :
    context.locals.get? index = some value := by
  rw [Context.localValue] at known
  cases held : context.locals.get? index with
  | none =>
    rw [held] at known
    cases known
  | some found =>
    rw [held] at known
    cases known
    rfl

/-- A value that has a source may be put on the stack. -/
theorem Value.From.push (source : value.From instruction context) :
    ∃ stack, context.push value = { context with stack } ∧
      ∀ other ∈ stack, other.From instruction context := by
  refine ⟨value :: context.stack, rfl, ?_⟩
  intro other member
  rcases List.mem_cons.1 member with rfl | member
  · exact source
  · exact .kept member

/-- What an operation of a dispatch does to the state: it changes the stack, and every value
there has a source. -/
theorem Operation.exists_stack_of_dispatches {operation : Operation}
    (dispatches : operation.dispatches = true)
    (done : operation.perform instruction context = .ok next after) :
    ∃ stack, after = { context with stack } ∧
      ∀ value ∈ stack, value.From instruction context := by
  have stays : ∃ stack, context = { context with stack } ∧
      ∀ value ∈ stack, value.From instruction context :=
    ⟨context.stack, rfl, fun value member => .kept member⟩
  cases operation with
  | skip | finish =>
    cases done
    exact stays
  | loadConstant =>
    obtain ⟨value, _, loads, done⟩ := Action.exists_of_bind done
    obtain ⟨literal, rfl⟩ := Action.of_require loads
    cases done
    exact (Value.From.literal literal).push
  | loadLocal =>
    obtain ⟨index, _, accessed, done⟩ := Action.exists_of_bind done
    obtain ⟨-, rfl⟩ := Action.of_require accessed
    obtain ⟨_, _, read, done⟩ := Action.exists_of_bind done
    cases read
    obtain ⟨value, _, found, done⟩ := Action.exists_of_bind done
    obtain ⟨known, rfl⟩ := Action.of_ofExcept found
    have holds := Context.get?_of_localValue known
    cases done
    exact (Value.From.held holds).push
  | widen =>
    obtain ⟨value, popped, front, done⟩ := Action.exists_of_bind done
    obtain ⟨shape, frame⟩ := Action.of_pop front
    obtain ⟨wide, _, converted, done⟩ := Action.exists_of_bind done
    obtain ⟨widens, rfl⟩ := Action.of_ofExcept converted
    cases done
    refine ⟨wide :: popped.stack, by rw [frame]; rfl, ?_⟩
    intro other member
    rcases List.mem_cons.1 member with rfl | member
    · exact .widened (shape ▸ List.mem_cons_self) widens
    · exact .kept (shape ▸ List.mem_cons_of_mem value member)
  | jump =>
    obtain ⟨target, _, aims, done⟩ := Action.exists_of_bind done
    obtain ⟨-, rfl⟩ := Action.of_require aims
    cases done
    exact stays
  | jumpIfEqual wanted =>
    obtain ⟨target, _, aims, done⟩ := Action.exists_of_bind done
    obtain ⟨-, rfl⟩ := Action.of_require aims
    obtain ⟨right, second, front, done⟩ := Action.exists_of_bind done
    obtain ⟨shape, frame⟩ := Action.of_pop front
    obtain ⟨left, third, behind, done⟩ := Action.exists_of_bind done
    obtain ⟨below, again⟩ := Action.of_pop behind
    obtain ⟨equal, _, compared, done⟩ := Action.exists_of_bind done
    obtain ⟨-, rfl⟩ := Action.of_ofExcept compared
    cases done
    refine ⟨after.stack, by rw [again, frame], fun value member => .kept ?_⟩
    rw [shape, below]
    exact List.mem_cons_of_mem _ (List.mem_cons_of_mem _ member)
  | _ => cases dispatches

end Steps

end ConstantRecovery
