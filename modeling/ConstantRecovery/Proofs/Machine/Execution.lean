import ConstantRecovery.Machine.Run

/-!
# Runs of known length

Where each instruction of a stretch of code is known to go on, the run through the
stretch is known under every limit: it comes out behind the stretch if the limit allows
as many instructions as that takes, and else it stops with the fault of the limit.
-/

namespace ConstantRecovery

/-- Control gets from one cursor and state to others in so many instructions, or stops at the
limit. -/
def Executes (limits : Limits) (code : List Instruction) (count cursor : Nat) (context : Context)
    (next : Nat) (after : Context) : Prop :=
  ∀ left, runFrom limits code left cursor context =
    if count ≤ left then runFrom limits code (left - count) next after
    else .error limits.exceeded

/-- Control gets from a cursor and a state to the end of the run in so many instructions, or stops
at the limit. -/
def Finishes (limits : Limits) (code : List Instruction) (count cursor : Nat) (context : Context)
    (after : Context) : Prop :=
  ∀ left, runFrom limits code left cursor context =
    if count ≤ left then .ok after else .error limits.exceeded

section Composition

variable {limits : Limits} {code : List Instruction} {cursor next last first second : Nat}
  {context middle after : Context}

/-- Nothing takes no instruction. -/
theorem Executes.refl (limits : Limits) (code : List Instruction) (cursor : Nat)
    (context : Context) : Executes limits code 0 cursor context cursor context := by
  intro left
  rw [if_pos (Nat.zero_le left), Nat.sub_zero]

/-- A limit that allows one part and then the other allows both. -/
theorem ite_le_sub {α : Type} (first second left : Nat) (goesOn stops : α) :
    (if first ≤ left then if second ≤ left - first then goesOn else stops else stops) =
      if first + second ≤ left then goesOn else stops := by
  by_cases enough : first ≤ left
  · rw [if_pos enough]
    by_cases whole : first + second ≤ left
    · rw [if_pos whole, if_pos (by omega)]
    · rw [if_neg whole, if_neg (by omega)]
  · rw [if_neg enough, if_neg (by omega)]

/-- Two stretches in a row take the instructions of both. -/
theorem Executes.trans (front : Executes limits code first cursor context next middle)
    (back : Executes limits code second next middle last after) :
    Executes limits code (first + second) cursor context last after := by
  intro left
  rw [front left, back (left - first), ite_le_sub, Nat.sub_sub]

/-- A stretch in front of one that ends the run takes the instructions of both. -/
theorem Executes.finishes (front : Executes limits code first cursor context next middle)
    (back : Finishes limits code second next middle after) :
    Finishes limits code (first + second) cursor context after := by
  intro left
  rw [front left, back (left - first), ite_le_sub]

variable {instruction : Instruction} {position : Nat}

/-- The state in which an instruction is executed. -/
def Context.at (context : Context) (instruction : Instruction) : Context :=
  { context with position := instruction.offset }

/-- Behind the last instruction a run ends as it is, whatever is left of its limit. -/
theorem runFrom_of_none (behind : code[cursor]? = none) (left : Nat) :
    runFrom limits code left cursor context = .ok context := by
  unfold runFrom
  rw [behind]

/-- In front of an instruction a run that has used up its limit is cut off. -/
theorem runFrom_zero (here : code[cursor]? = some instruction) :
    runFrom limits code 0 cursor context = .error limits.exceeded := by
  rw [runFrom, here]

/-- A run that may go on takes the step of the instruction it stands at, and goes on where that
says. -/
theorem runFrom_succ (here : code[cursor]? = some instruction) (left : Nat) :
    runFrom limits code (left + 1) cursor context =
      match step instruction (context.at instruction) with
      | .error fault _ => .error fault
      | .ok .proceed context => runFrom limits code left (cursor + 1) context
      | .ok (.jump target) context =>
        match context.indexOf target with
        | .ok cursor => runFrom limits code left cursor context
        | .error fault => .error fault
      | .ok .finish context => .ok context := by
  rw [runFrom, here]
  rfl

/-- An instruction that proceeds takes one instruction to get behind it. -/
theorem executes_of_proceed (here : code[cursor]? = some instruction)
    (done : step instruction (context.at instruction) = .ok .proceed after) :
    Executes limits code 1 cursor context (cursor + 1) after := by
  intro left
  cases left with
  | zero =>
    rw [runFrom_zero here]
    rfl
  | succ left => rw [runFrom_succ here, done, if_pos (Nat.le_add_left 1 left), Nat.add_sub_cancel]

/-- An instruction that jumps takes one instruction to get to what is found at its target. -/
theorem executes_of_jump {target : Nat} (here : code[cursor]? = some instruction)
    (done : step instruction (context.at instruction) = .ok (.jump target) after)
    (lands : after.indexOf target = .ok next) :
    Executes limits code 1 cursor context next after := by
  intro left
  cases left with
  | zero =>
    rw [runFrom_zero here]
    rfl
  | succ left =>
    rw [runFrom_succ here, done, if_pos (Nat.le_add_left 1 left), Nat.add_sub_cancel]
    dsimp only
    rw [lands]

/-- An instruction that finishes takes one instruction to end the run. -/
theorem finishes_of_finish (here : code[cursor]? = some instruction)
    (done : step instruction (context.at instruction) = .ok .finish after) :
    Finishes limits code 1 cursor context after := by
  intro left
  cases left with
  | zero =>
    rw [runFrom_zero here]
    rfl
  | succ left => rw [runFrom_succ here, done, if_pos (Nat.le_add_left 1 left)]

end Composition

section Steps

variable {instruction : Instruction} {context : Context}

/-- What holds of every byte that is counted up to holds of every byte. -/
theorem forall_byte {holds : UInt8 → Prop} (each : ∀ code < 256, holds (UInt8.ofNat code))
    (code : UInt8) : holds code := by
  have here := each code.toNat code.toNat_lt
  rwa [UInt8.ofNat_toNat] at here

/-- An indexed access is known to the machine as the operation that its six opcodes stand for. -/
theorem operation_of_accessed? {first short long : UInt8} {operation : Operation} {index : UInt16}
    (four : ∀ code : UInt8, first ≤ code ∧ code ≤ first + 3 →
      Operation.ofOpcode? 0 code = some operation)
    (byte : Operation.ofOpcode? 0 short = some operation)
    (two : Operation.ofOpcode? Opcode.extendedLead long = some operation)
    (accesses : instruction.accessed? first short long = some index) :
    Operation.ofOpcode? instruction.lead instruction.opcode = some operation := by
  unfold Instruction.accessed? at accesses
  split at accesses
  · rename_i bare
    rw [bare]
    split at accesses
    · rename_i range
      exact four _ range
    · split at accesses
      · rename_i short
        rwa [short]
      · cases accesses
  · split at accesses
    · rename_i extended
      rw [Instruction.isExtended, Bool.and_eq_true, decide_eq_true_iff, decide_eq_true_iff]
        at extended
      rwa [extended.1, extended.2]
    · cases accesses

/-- What loads an argument is known to the machine as such a load. -/
theorem operation_of_loadedArgument? {index : UInt16}
    (loads : instruction.loadedArgument? = some index) :
    Operation.ofOpcode? instruction.lead instruction.opcode = some .loadArgument :=
  operation_of_accessed? (forall_byte (by decide +kernel)) rfl rfl loads

/-- What loads a local variable is known to the machine as such a load. -/
theorem operation_of_loadedLocal? {index : UInt16} (loads : instruction.loadedLocal? = some index) :
    Operation.ofOpcode? instruction.lead instruction.opcode = some .loadLocal :=
  operation_of_accessed? (forall_byte (by decide +kernel)) rfl rfl loads

/-- What stores into a local variable is known to the machine as such a store. -/
theorem operation_of_storedLocal? {index : UInt16} (stores : instruction.storedLocal? = some index) :
    Operation.ofOpcode? instruction.lead instruction.opcode = some .storeLocal :=
  operation_of_accessed? (forall_byte (by decide +kernel)) rfl rfl stores

/-- What loads a 32-bit number is known to the machine as a load of a number. -/
theorem operation_of_int32Literal? {value : Int32}
    (loads : instruction.int32Literal? = some value) :
    Operation.ofOpcode? instruction.lead instruction.opcode = some .loadConstant := by
  have ten : ∀ code : UInt8, Opcode.Code.ldcI4M1 ≤ code ∧ code ≤ Opcode.Code.ldcI4Eight →
      Operation.ofOpcode? 0 code = some .loadConstant := forall_byte (by decide +kernel)
  unfold Instruction.int32Literal? at loads
  split at loads
  · rename_i bare
    rw [bare]
    split at loads
    · rename_i range
      exact ten _ range
    · split at loads
      · rename_i short
        rw [short]
        rfl
      · split at loads
        · rename_i long
          rw [long]
          rfl
        · cases loads
  · cases loads

/-- Loading an argument puts its value on the stack, or fails if it was not passed. -/
theorem step_eq_of_loadedArgument? {index : UInt16}
    (loads : instruction.loadedArgument? = some index) (context : Context) :
    step instruction context =
      match context.arguments.get? index with
      | some value => .ok .proceed (context.push value)
      | none => .error (.uninitializedArgument index) context := by
  have perform : step instruction context =
      Operation.loadArgument.perform instruction context := by
    rw [step, operation_of_loadedArgument? loads]
  have body : Operation.loadArgument.perform instruction context =
      ((Action.ofExcept (context.argument index) >>= fun value => do
        Action.push value
        return .proceed : Action Next)) context := by
    simp only [Operation.perform, loads]
    rfl
  rw [perform, body, Context.argument]
  cases context.arguments.get? index <;> rfl

/-- Loading an argument that was passed puts its value on the stack. -/
theorem step_of_loadedArgument? {index : UInt16} {value : Value}
    (loads : instruction.loadedArgument? = some index)
    (passed : context.arguments.get? index = some value) :
    step instruction context = .ok .proceed (context.push value) := by
  rw [step_eq_of_loadedArgument? loads, passed]

/-- Loading a local variable puts its value on the stack, or fails if it has none. -/
theorem step_eq_of_loadedLocal? {index : UInt16} (loads : instruction.loadedLocal? = some index)
    (context : Context) :
    step instruction context =
      match context.locals.get? index with
      | some value => .ok .proceed (context.push value)
      | none => .error (.uninitializedLocal index) context := by
  have perform : step instruction context = Operation.loadLocal.perform instruction context := by
    rw [step, operation_of_loadedLocal? loads]
  have body : Operation.loadLocal.perform instruction context =
      ((Action.ofExcept (context.localValue index) >>= fun value => do
        Action.push value
        return .proceed : Action Next)) context := by
    simp only [Operation.perform, loads]
    rfl
  rw [perform, body, Context.localValue]
  cases context.locals.get? index <;> rfl

/-- Loading a local variable that has a value puts it on the stack. -/
theorem step_of_loadedLocal? {index : UInt16} {value : Value}
    (loads : instruction.loadedLocal? = some index)
    (held : context.locals.get? index = some value) :
    step instruction context = .ok .proceed (context.push value) := by
  rw [step_eq_of_loadedLocal? loads, held]

/-- Storing into a local variable takes its value from the stack, or fails if that is empty. -/
theorem step_eq_of_storedLocal? {index : UInt16} (stores : instruction.storedLocal? = some index)
    (context : Context) :
    step instruction context =
      match context.stack with
      | value :: stack => .ok .proceed ({ context with stack }.setLocal index value)
      | [] => .error (.stackUnderflow context.position) context := by
  have perform (context : Context) :
      step instruction context = Operation.storeLocal.perform instruction context := by
    rw [step, operation_of_storedLocal? stores]
  obtain ⟨arguments, locals, starts, stack, arrays, position⟩ := context
  rw [perform]
  simp only [Operation.perform, stores]
  cases stack <;> rfl

/-- Storing into a local variable takes the top of the stack. -/
theorem step_of_storedLocal? {index : UInt16} {value : Value} {stack : List Value}
    (stores : instruction.storedLocal? = some index) (loaded : context.stack = value :: stack) :
    step instruction context = .ok .proceed ({ context with stack }.setLocal index value) := by
  rw [step_eq_of_storedLocal? stores, loaded]

/-- Loading a number puts it on the stack. -/
theorem step_of_literal? {value : Value}
    (known : Operation.ofOpcode? instruction.lead instruction.opcode = some .loadConstant)
    (loads : instruction.literal? = some value) :
    step instruction context = .ok .proceed (context.push value) := by
  have perform : step instruction context = Operation.loadConstant.perform instruction context := by
    rw [step, known]
  rw [perform]
  simp only [Operation.perform, loads]
  rfl

/-- A 32-bit literal is put on the stack. -/
theorem step_of_int32Literal? {value : Int32} (loads : instruction.int32Literal? = some value) :
    step instruction context = .ok .proceed (context.push (.int32 value)) := by
  refine step_of_literal? (operation_of_int32Literal? loads) ?_
  rw [Instruction.literal?, loads]

/-- A comparison of two 32-bit numbers takes them from the stack, and jumps where it should. -/
theorem step_of_jumpIfEqual {wanted : Bool} {target : Nat} {left right : Int32} {stack : List Value}
    (known : Operation.ofOpcode? instruction.lead instruction.opcode = some (.jumpIfEqual wanted))
    (aims : instruction.target? = some target)
    (loaded : context.stack = .int32 right :: .int32 left :: stack) :
    step instruction context =
      .ok (if decide (left = right) = wanted then .jump target else .proceed)
        { context with stack } := by
  obtain ⟨arguments, locals, starts, _, arrays, position⟩ := context
  cases loaded
  have perform (context : Context) :
      step instruction context = (Operation.jumpIfEqual wanted).perform instruction context := by
    rw [step, known]
  rw [perform]
  simp only [Operation.perform, aims]
  rfl

/-- What an instruction that does not fail does is independent of where it stands. -/
theorem step_placedAt {next : Next} {after : Context}
    (done : step instruction context = .ok next after) (offset : Nat) :
    step (instruction.placedAt offset) context = .ok next after := by
  have same (operation : Operation) :
      operation.perform (instruction.placedAt offset) = operation.perform instruction := by
    cases operation <;> rfl
  have lead : (instruction.placedAt offset).lead = instruction.lead := rfl
  have opcode : (instruction.placedAt offset).opcode = instruction.opcode := rfl
  unfold step at done ⊢
  rw [lead, opcode]
  cases known : Operation.ofOpcode? instruction.lead instruction.opcode with
  | none =>
    rw [known] at done
    cases done
  | some operation =>
    rw [known] at done
    dsimp only
    rw [same]
    exact done

end Steps

/-! ## Stretches -/

/-- A stretch stands in a stream from a cursor on, with offsets of its own. -/
def Stands (code : List Instruction) (cursor : Nat) (stretch : List Instruction) : Prop :=
  ∀ position instruction, stretch[position]? = some instruction →
    ∃ offset, code[cursor + position]? = some (instruction.placedAt offset)

namespace Stands

variable {code front back rest : List Instruction} {cursor : Nat} {first : Instruction}

/-- The first instruction of a stretch stands at its cursor. -/
theorem head (stands : Stands code cursor (first :: rest)) :
    ∃ offset, code[cursor]? = some (first.placedAt offset) :=
  stands 0 first rfl

/-- The rest of a stretch stands behind its first instruction. -/
theorem tail (stands : Stands code cursor (first :: rest)) : Stands code (cursor + 1) rest := by
  intro position instruction here
  have later := stands (position + 1) instruction (by rwa [List.getElem?_cons_succ])
  rwa [Nat.add_assoc, Nat.add_comm 1]

/-- The front of a stretch stands where the stretch does. -/
theorem left (stands : Stands code cursor (front ++ back)) : Stands code cursor front := by
  intro position instruction here
  have inside := (List.getElem?_eq_some_iff.1 here).1
  exact stands position instruction (by rwa [List.getElem?_append_left inside])

/-- The back of a stretch stands behind its front. -/
theorem right (stands : Stands code cursor (front ++ back)) :
    Stands code (cursor + front.length) back := by
  intro position instruction here
  have later := stands (front.length + position) instruction (by
    rwa [List.getElem?_append_right (Nat.le_add_right _ _), Nat.add_sub_cancel_left])
  rwa [Nat.add_assoc]

end Stands

/-- Wherever local variables 0 and 1 have values, the instruction goes on and changes the stack
only. -/
def Instruction.Harmless (instruction : Instruction) : Prop :=
  ∀ context : Context, (context.locals.get? 0).isSome → (context.locals.get? 1).isSome →
    ∃ stack, step instruction context = .ok .proceed { context with stack }

/-- A stretch of harmless instructions is run through, and changes the stack only. -/
theorem executes_of_harmless {limits : Limits} {code stretch : List Instruction} {cursor : Nat}
    (stands : Stands code cursor stretch)
    (harmless : ∀ instruction ∈ stretch, instruction.Harmless) {context : Context}
    (zero : (context.locals.get? 0).isSome) (one : (context.locals.get? 1).isSome) :
    ∃ stack position, Executes limits code stretch.length cursor context
      (cursor + stretch.length) { context with stack, position } := by
  induction stretch generalizing cursor context with
  | nil => exact ⟨context.stack, context.position, .refl limits code cursor context⟩
  | cons first rest ih =>
    obtain ⟨head, others⟩ := List.forall_mem_cons.1 harmless
    obtain ⟨offset, here⟩ := stands.head
    obtain ⟨stack, done⟩ := head (context.at (first.placedAt offset)) zero one
    have now : Executes limits code 1 cursor context (cursor + 1) _ :=
      executes_of_proceed here (step_placedAt done offset)
    obtain ⟨final, position, later⟩ := @ih (cursor + 1) stands.tail others
      { context.at (first.placedAt offset) with stack } zero one
    have both := now.trans later
    rw [Nat.add_assoc, Nat.add_comm 1] at both
    exact ⟨final, position, both⟩

end ConstantRecovery
