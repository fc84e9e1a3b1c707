import ConstantRecovery.Proofs.Machine.Execution

/-!
# What lies under the stack

Every operation looks only at the values it takes. Values that lie under the stack a run
starts from are therefore neither read nor moved: unless the run takes more values than it
had, it goes the same way above them and leaves them where they are.
-/

namespace ConstantRecovery

/-- The state with other values under its stack. -/
def Context.above (context : Context) (beneath : List Value) : Context :=
  { context with stack := context.stack ++ beneath }

/-- Something takes more values than there are. -/
def Fault.Underflows (fault : Fault) : Prop :=
  ∃ offset, fault = .stackUnderflow offset

namespace Action

variable {α β : Type}

/-- Unless it takes more values than there are, a computation does the same above other values,
and leaves those where they are. -/
def Spares (action : Action α) : Prop :=
  ∀ (context : Context) (beneath : List Value), match action context with
    | .ok result after => action (context.above beneath) = .ok result (after.above beneath)
    | .error fault after =>
      fault.Underflows ∨ action (context.above beneath) = .error fault (after.above beneath)

/-- A result that is given at once does not look at the stack. -/
theorem Spares.pure (result : α) : Spares (Pure.pure result) :=
  fun _ _ => rfl

/-- A computation that only fails does not look at the stack. -/
theorem Spares.throw (fault : Fault) : Spares (throw fault : Action α) :=
  fun _ _ => .inr rfl

/-- Two computations in a row spare what both of them spare. -/
theorem Spares.bind {first : Action α} {rest : α → Action β} (front : Spares first)
    (last : ∀ value, Spares (rest value)) : Spares (first >>= rest) := by
  intro context beneath
  change match EStateM.bind first rest context with
    | .ok result after => EStateM.bind first rest (context.above beneath) = _
    | .error fault after => _ ∨ EStateM.bind first rest (context.above beneath) = _
  have here := front context beneath
  unfold EStateM.bind
  cases done : first context with
  | ok value middle =>
    rw [done] at here
    rw [here]
    exact last value middle beneath
  | error fault middle =>
    rw [done] at here
    refine here.imp_right fun same => ?_
    rw [same]

/-- What reads the state may read all of it but the stack. -/
theorem Spares.read {rest : Context → Action β}
    (blind : ∀ context beneath, rest (context.above beneath) = rest context)
    (last : ∀ context, Spares (rest context)) : Spares (get >>= rest) := by
  intro context beneath
  have here := last context context beneath
  have same : (get >>= rest : Action β) (context.above beneath) =
      rest context (context.above beneath) := by
    rw [← blind context beneath]
    rfl
  rw [same]
  exact here

/-- Taking a value looks at the top only, or underflows. -/
theorem Spares.pop : Spares pop := by
  intro context beneath
  obtain ⟨arguments, locals, starts, stack, arrays, position⟩ := context
  cases stack with
  | nil => exact .inl ⟨position, rfl⟩
  | cons top rest => rfl

/-- A value is put on top. -/
theorem Spares.push (value : Value) : Spares (push value) :=
  fun _ _ => rfl

/-- A change to anything but the stack is the same above other values. -/
theorem Spares.modify {change : Context → Context}
    (aside : ∀ context beneath, change (context.above beneath) = (change context).above beneath) :
    Spares (modify change) := by
  intro context beneath
  show EStateM.Result.ok _ (change (context.above beneath)) = _
  rw [aside]

/-- Asking for a result that may be missing does not look at the stack. -/
theorem Spares.require (fault : Fault) (result : Option α) : Spares (require fault result) := by
  cases result with
  | some result => exact .pure result
  | none => exact .throw fault

/-- A partial result does not look at the stack. -/
theorem Spares.ofExcept (result : Except Fault α) : Spares (ofExcept result) := by
  cases result with
  | ok result => exact .pure result
  | error fault => exact .throw fault

/-- Combining two values looks at those two only. -/
theorem spares_combine (operation : Value → Value → Except Fault Value) :
    Spares (combine operation) :=
  .bind .pop fun right => .bind .pop fun left => .bind (.ofExcept (operation left right))
    fun value => .bind (.push value) fun _ => .pure Next.proceed

/-- Converting a value looks at that one only. -/
theorem spares_convert (operation : Value → Except Fault Value) : Spares (convert operation) :=
  .bind .pop fun value => .bind (.ofExcept (operation value)) fun result =>
    .bind (.push result) fun _ => .pure Next.proceed

/-- Loading an element looks at the array and the index only. -/
theorem spares_loadElement : Spares loadElement :=
  .bind .pop fun index => .bind .pop fun value => .bind (.require _ value.arrayRef?) fun array =>
    .read (fun _ _ => rfl) fun context => .bind (.ofExcept (context.elements array))
      fun elements => .bind (.ofExcept (elementSlot _ elements.length index)) fun _ =>
        .bind (.push _) fun _ => .pure Next.proceed

/-- Storing an element looks at the array, the index and the number only. -/
theorem spares_storeElement : Spares storeElement :=
  .bind .pop fun value => .bind .pop fun index => .bind .pop fun target =>
    .bind (.require _ value.int32?) fun _ => .bind (.require _ target.arrayRef?)
      fun array => .read (fun _ _ => rfl) fun context => .bind (.ofExcept (context.elements array))
        fun elements => .bind (.ofExcept (elementSlot _ elements.length index)) fun _ =>
          .bind (.modify fun _ _ => rfl) fun _ => .pure Next.proceed

end Action

/-- Every operation looks only at the values it takes. -/
theorem Operation.spares_perform (instruction : Instruction) (operation : Operation) :
    (operation.perform instruction).Spares := by
  cases operation with
  | skip => exact .pure Next.proceed
  | loadConstant =>
    exact .bind (.require _ instruction.literal?) fun value => .bind (.push value) fun _ =>
      .pure Next.proceed
  | loadArgument =>
    exact .bind (.require _ instruction.loadedArgument?) fun index => .read (fun _ _ => rfl)
      fun context => .bind (.ofExcept (context.argument index)) fun value =>
        .bind (.push value) fun _ => .pure Next.proceed
  | loadLocal =>
    exact .bind (.require _ instruction.loadedLocal?) fun index => .read (fun _ _ => rfl)
      fun context => .bind (.ofExcept (context.localValue index)) fun value =>
        .bind (.push value) fun _ => .pure Next.proceed
  | storeLocal =>
    exact .bind (.require _ instruction.storedLocal?) fun index => .bind .pop fun value =>
      .bind (.modify fun _ _ => rfl) fun _ => .pure Next.proceed
  | loadElement => exact Action.spares_loadElement
  | storeElement => exact Action.spares_storeElement
  | arithmetic operation => exact Action.spares_combine operation.apply
  | bitwise operation => exact Action.spares_combine operation.apply
  | shift operation => exact Action.spares_combine operation.apply
  | negate => exact Action.spares_convert Value.negate
  | complement => exact Action.spares_convert Value.complement
  | widen => exact Action.spares_convert Value.widen
  | jump =>
    exact .bind (.require _ instruction.target?) fun target => .pure (Next.jump target)
  | jumpIfEqual wanted =>
    exact .bind (.require _ instruction.target?) fun target => .bind .pop fun right =>
      .bind .pop fun left => .bind (.ofExcept (left.equals instruction.mnemonic right))
        fun equal => .pure (if equal = wanted then Next.jump target else .proceed)
  | finish => exact .pure Next.finish

/-- Every step looks only at the values it takes. -/
theorem spares_step (instruction : Instruction) : (step instruction).Spares := by
  unfold step
  cases Operation.ofOpcode? instruction.lead instruction.opcode with
  | some operation => exact operation.spares_perform instruction
  | none => exact .throw (.unhandledOpcode instruction.mnemonic instruction.offset)

/-- A run that finds its values goes the same way above others. The induction is on the
instructions left. -/
theorem runFrom_above {limits : Limits} {code : List Instruction} {left cursor : Nat}
    {context : Context} (beneath : List Value)
    (enough : ∀ fault, runFrom limits code left cursor context = .error fault →
      ¬ fault.Underflows) :
    runFrom limits code left cursor (context.above beneath) =
      (runFrom limits code left cursor context).map (·.above beneath) := by
  induction left generalizing cursor context with
  | zero =>
    cases fetched : code[cursor]? with
    | none =>
      rw [runFrom_of_none fetched, runFrom_of_none fetched]
      rfl
    | some instruction =>
      rw [runFrom_zero fetched, runFrom_zero fetched]
      rfl
  | succ left ih =>
    cases fetched : code[cursor]? with
    | none =>
      rw [runFrom_of_none fetched, runFrom_of_none fetched]
      rfl
    | some instruction =>
      have spares := spares_step instruction (context.at instruction) beneath
      have placed : (context.above beneath).at instruction =
          (context.at instruction).above beneath := rfl
      rw [runFrom_succ fetched] at enough ⊢
      rw [runFrom_succ fetched, placed]
      cases stepped : step instruction (context.at instruction) with
      | error fault after =>
        rw [stepped] at spares enough
        rw [spares.resolve_left (enough fault rfl)]
        rfl
      | ok next after =>
        rw [stepped] at spares enough
        rw [spares]
        cases next with
        | finish => rfl
        | proceed => exact ih enough
        | jump target =>
          have same : (after.above beneath).indexOf target = after.indexOf target := rfl
          dsimp only at enough ⊢
          rw [same]
          cases landed : after.indexOf target with
          | error fault => rfl
          | ok place =>
            rw [landed] at enough
            exact ih enough

/-- Values that lie under the stack never influence a run. From the same state with other values
under its stack, a run that does not underflow ends the same way: with the same fault, or in the
same state with those values under its stack. -/
theorem run_above (limits : Limits) (code : List Instruction) (context : Context)
    (beneath : List Value)
    (enough : ∀ offset, run limits code context ≠ .error (.stackUnderflow offset)) :
    run limits code (context.above beneath) =
      (run limits code context).map (·.above beneath) := by
  refine runFrom_above beneath fun fault failed => ?_
  rintro ⟨offset, rfl⟩
  exact enough offset failed

/-- A product of a value that was there and a literal, stored and loaded again, above an array
and a number that it never sees. -/
theorem run_above_of_product :
    let code := settle 0 [.ldcI4 6, .plain 0x5A .bare, .stloc 0, .ldloc 0, .ret]
    let context : Context := { Context.ofCode code with stack := [.int32 7] }
    let beneath : List Value := [.arrayRef 3, .int32 (-1)]
    let after : Context :=
      { context with locals := .empty |>.set 0 (.int32 42), stack := [.int32 42], position := 4 }
    (∀ offset, run .standard code context ≠ .error (.stackUnderflow offset)) ∧
      run .standard code (context.above beneath) = .ok (after.above beneath) := by
  intro code context beneath after
  have ends : run .standard code context = .ok after := rfl
  have enough (offset : Nat) : run .standard code context ≠ .error (.stackUnderflow offset) := by
    rw [ends]
    exact nofun
  refine ⟨enough, ?_⟩
  rw [run_above .standard code context beneath enough, ends]
  rfl

/-- A run that underflows does depend on what lies beneath. -/
example :
    let code := settle 0 [.plain 0x65 .bare]
    let context := Context.ofCode code
    run .standard code context = .error (.stackUnderflow 0) ∧
      run .standard code (context.above [.int32 1]) =
        .ok { context with stack := [.int32 (-1)] } :=
  ⟨rfl, rfl⟩

end ConstantRecovery
