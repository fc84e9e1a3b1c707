import ConstantRecovery.Proofs.Code.Built
import ConstantRecovery.Proofs.Machine.Execution

/-!
# What a step leaves alone

An instruction takes at most three values off the stack. When it succeeds, it pushes at
most one value, or stores into one local variable, or overwrites one element of an array;
when it fails, taking values is all it has done. Every operation looks at all of its
operands before it writes, so the frame is read off one computation after the other:
each part either takes a value or touches nothing, and what writes comes last.
-/

namespace ConstantRecovery

/-- The state with some values taken off its stack. -/
def Context.without (context : Context) (taken : Nat) : Context :=
  { context with stack := context.stack.drop taken }

/-- The integer names the place in an array. -/
def Value.Indexes : Value → Nat → Prop
  | int32 index, slot => index.toInt = slot
  | int64 index, slot => index.toInt = slot
  | _, _ => False

/-- What an instruction leaves behind when it succeeds, once the operands have been taken from
the state before it. -/
inductive Instruction.Writes (instruction : Instruction) (before taken : Context) : Context → Prop
  /-- It leaves what is left of the state as it is. -/
  | nothing : Writes instruction before taken taken
  /-- It puts one value on the stack. -/
  | pushed (value : Value) : Writes instruction before taken (taken.push value)
  /-- It stores the top of the stack into the local variable that it names. -/
  | stored {index : UInt16} {value : Value} (names : instruction.storedLocal? = some index)
      (top : before.stack = value :: taken.stack) :
      Writes instruction before taken (taken.setLocal index value)
  /-- It stores the number on top into an element of the array that lies under the index. -/
  | overwritten {array slot : Nat} {number : Int32} {index : Value} {elements : List Int32}
      (names : instruction.isPlain 0x9E)
      (operands : before.stack = .int32 number :: index :: .arrayRef array :: taken.stack)
      (held : before.arrays[array]? = some elements) (indexes : index.Indexes slot)
      (inside : slot < elements.length) :
      Writes instruction before taken (taken.setElement array slot number)

namespace Action

variable {α β : Type}

/-- A computation takes at most so many values, and when it fails it has done nothing else. What
it leaves when it succeeds is described from the state with the values taken. -/
def Frames (action : Action α) (context : Context) (most : Nat)
    (leaves : Context → Context → Prop) : Prop :=
  ∃ taken ≤ most, taken ≤ context.stack.length ∧ match action context with
    | .ok _ after => leaves (context.without taken) after
    | .error _ after => after = context.without taken

variable {context after : Context} {most : Nat} {leaves : Context → Context → Prop}

/-- What comes last takes nothing more. -/
theorem Frames.last {action : Action α} {result : α} (done : action context = .ok result after)
    (left : leaves context after) : action.Frames context most leaves := by
  refine ⟨0, Nat.zero_le most, Nat.zero_le _, ?_⟩
  rw [done]
  exact left

/-- A computation that only fails has taken nothing. -/
theorem Frames.throw (fault : Fault) :
    Frames (throw fault : Action α) context most leaves :=
  ⟨0, Nat.zero_le most, Nat.zero_le _, rfl⟩

/-- A value that is taken counts, and so do those that are taken afterwards. -/
theorem Frames.pop {rest : Value → Action β}
    (each : ∀ top beneath, context.stack = top :: beneath →
      (rest top).Frames { context with stack := beneath } most leaves) :
    (Action.pop >>= rest).Frames context (most + 1) leaves := by
  obtain ⟨arguments, locals, starts, stack, arrays, position⟩ := context
  cases stack with
  | nil => exact ⟨0, Nat.zero_le _, Nat.zero_le _, rfl⟩
  | cons top beneath =>
    obtain ⟨taken, few, there, ends⟩ := each top beneath rfl
    exact ⟨taken + 1, Nat.succ_le_succ few, Nat.succ_le_succ there, ends⟩

/-- Asking for a result that may be missing takes nothing. -/
theorem Frames.require {fault : Fault} {result : Option α} {rest : α → Action β}
    (each : ∀ value, result = some value → (rest value).Frames context most leaves) :
    (Action.require fault result >>= rest).Frames context most leaves := by
  cases result with
  | some value => exact each value rfl
  | none => exact .throw fault

/-- A partial result takes nothing. -/
theorem Frames.ofExcept {result : Except Fault α} {rest : α → Action β}
    (each : ∀ value, result = .ok value → (rest value).Frames context most leaves) :
    (Action.ofExcept result >>= rest).Frames context most leaves := by
  cases result with
  | ok value => exact each value rfl
  | error fault => exact .throw fault

/-- Reading the state takes nothing. -/
theorem Frames.read {rest : Context → Action β} (last : (rest context).Frames context most leaves) :
    (get >>= rest).Frames context most leaves :=
  last

variable {instruction : Instruction} {before : Context}

/-- Combining takes two values and pushes one. -/
theorem frames_combine (operation : Value → Value → Except Fault Value) :
    (combine operation).Frames context 3 (instruction.Writes before) :=
  .pop fun _ _ _ => .pop fun _ _ _ => .ofExcept fun value _ => .last rfl (.pushed value)

/-- Converting takes one value and pushes one. -/
theorem frames_convert (operation : Value → Except Fault Value) :
    (convert operation).Frames context 3 (instruction.Writes before) :=
  .pop fun _ _ _ => .ofExcept fun result _ => .last rfl (.pushed result)

/-- Loading an element takes the index and the array, and pushes one value. -/
theorem frames_loadElement : loadElement.Frames context 3 (instruction.Writes before) :=
  .pop fun _ _ _ => .pop fun _ _ _ => .require fun _ _ => .read <|
    .ofExcept fun _ _ => .ofExcept fun _ _ => .last rfl (.pushed _)

end Action

/-- A place that an index names lies inside the array. -/
theorem indexes_of_elementSlot {operation : String} {length slot : Nat} {index : Value}
    (named : elementSlot operation length index = .ok slot) :
    index.Indexes slot ∧ slot < length := by
  have inside (number : Int)
      (found : (if 0 ≤ number ∧ number < length then .ok number.toNat
        else .error (.arrayIndexOutOfRange number length) : Except Fault Nat) = .ok slot) :
      number = slot ∧ slot < length := by
    split at found
    · cases found
      omega
    · cases found
  cases index with
  | int32 index => exact inside index.toInt named
  | int64 index => exact inside index.toInt named
  | _ => cases named

/-- Elements that are read are those of an array that is there. -/
theorem Context.getElem?_of_elements {context : Context} {array : Nat} {elements : List Int32}
    (held : context.elements array = .ok elements) : context.arrays[array]? = some elements := by
  unfold Context.elements at held
  cases found : context.arrays[array]? with
  | none =>
    rw [found] at held
    cases held
  | some here =>
    rw [found] at held
    cases held
    rfl

/-- Storing an element takes the number, the index and the array, and overwrites the element under
the index. -/
theorem Action.frames_storeElement {instruction : Instruction} {context : Context}
    (names : instruction.isPlain 0x9E) :
    storeElement.Frames context 3 (instruction.Writes context) := by
  refine .pop fun value first top => .pop fun index second middle => .pop fun target third bottom =>
    .require fun number stored => .require fun array referred => .read <|
      .ofExcept fun elements found => .ofExcept fun slot named => .last rfl ?_
  have operands : context.stack = .int32 number :: index :: .arrayRef array :: third := by
    cases value with
    | int32 word =>
      cases target with
      | arrayRef other =>
        cases stored
        cases referred
        rw [top, show first = _ from middle, show second = _ from bottom]
      | _ => cases referred
    | _ => cases stored
  have held := Context.getElem?_of_elements found
  obtain ⟨indexes, inside⟩ := indexes_of_elementSlot named
  exact .overwritten names operands held indexes inside

/-- The machine knows one opcode that stores into an array. -/
theorem Instruction.isPlain_of_storeElement {instruction : Instruction}
    (known : Operation.ofOpcode? instruction.lead instruction.opcode = some .storeElement) :
    instruction.isPlain 0x9E := by
  have plain : ∀ row ∈ Operation.plainTable, row.2 = .storeElement → row.1 = 0x9E := by decide
  have extended : ∀ row ∈ Operation.extendedTable, row.2 ≠ .storeElement := by decide
  unfold Operation.ofOpcode? at known
  split at known
  · rename_i bare
    exact isPlain_iff.2 ⟨bare, plain _ (mem_of_lookup known) rfl⟩
  · split at known
    · exact absurd rfl (extended _ (mem_of_lookup known))
    · cases known

/-- Everything an instruction can do to the state: it takes at most three values, and when it
succeeds it writes once at most. -/
theorem step_frames (instruction : Instruction) (context : Context) :
    (step instruction).Frames context 3 (instruction.Writes context) := by
  unfold step
  cases known : Operation.ofOpcode? instruction.lead instruction.opcode with
  | none => exact .throw _
  | some operation =>
    change (operation.perform instruction).Frames context 3 (instruction.Writes context)
    cases operation with
    | skip | finish => exact .last rfl .nothing
    | loadConstant => exact .require fun value _ => .last rfl (.pushed value)
    | loadArgument =>
      exact .require fun _ _ => .read <| .ofExcept fun value _ => .last rfl (.pushed value)
    | loadLocal =>
      exact .require fun _ _ => .read <| .ofExcept fun value _ => .last rfl (.pushed value)
    | storeLocal =>
      exact .require fun _ names => .pop fun _ _ top => .last rfl (.stored names top)
    | loadElement => exact Action.frames_loadElement
    | storeElement =>
      exact Action.frames_storeElement (Instruction.isPlain_of_storeElement known)
    | arithmetic operation | bitwise operation | shift operation =>
      exact Action.frames_combine operation.apply
    | negate => exact Action.frames_convert Value.negate
    | complement => exact Action.frames_convert Value.complement
    | widen => exact Action.frames_convert Value.widen
    | jump => exact .require fun _ _ => .last rfl .nothing
    | jumpIfEqual wanted =>
      exact .require fun _ _ => .pop fun _ _ _ => .pop fun _ _ _ => .ofExcept fun _ _ =>
        .last rfl .nothing

section Writes

variable {instruction : Instruction} {before taken context after : Context}

/-- What is written never touches the arguments, the offsets or the lengths of the arrays. -/
theorem Instruction.Writes.keeps (writes : instruction.Writes before taken after) :
    after.arguments = taken.arguments ∧ after.starts = taken.starts ∧
      after.position = taken.position ∧
      after.arrays.map List.length = taken.arrays.map List.length := by
  cases writes with
  | nothing | pushed | stored => exact ⟨rfl, rfl, rfl, rfl⟩
  | @overwritten array slot number =>
    refine ⟨rfl, rfl, rfl, List.ext_getElem? fun other => ?_⟩
    rw [List.getElem?_map, List.getElem?_map, Context.setElement, List.getElem?_modify]
    cases taken.arrays[other]? with
    | none => rfl
    | some elements =>
      by_cases same : array = other <;> simp [same]

/-- What is written puts one value on the stack at most. -/
theorem Instruction.Writes.exists_pushed (writes : instruction.Writes before taken after) :
    ∃ pushed : Option Value, after.stack = pushed.toList ++ taken.stack := by
  cases writes with
  | pushed value => exact ⟨some value, rfl⟩
  | nothing | stored | overwritten => exact ⟨none, rfl⟩

/-- Overwriting an element that is there changes one array. -/
theorem Context.arrays_setElement {context : Context} {array : Nat} {elements : List Int32}
    (held : context.arrays[array]? = some elements) (slot : Nat) (number : Int32) :
    (context.setElement array slot number).arrays =
      context.arrays.set array (elements.set slot number) := by
  refine List.ext_getElem? fun other => ?_
  rw [setElement, List.getElem?_modify, List.getElem?_set]
  by_cases same : array = other
  · subst same
    obtain ⟨inside, rfl⟩ := List.getElem?_eq_some_iff.1 held
    simp [inside]
  · simp [same]

/-- What an instruction did that succeeded. -/
theorem exists_writes_of_step {next : Next} (done : step instruction context = .ok next after) :
    ∃ taken ≤ 3, taken ≤ context.stack.length ∧
      instruction.Writes context (context.without taken) after := by
  obtain ⟨taken, few, there, ends⟩ := step_frames instruction context
  rw [done] at ends
  exact ⟨taken, few, there, ends⟩

/-- What an instruction did that failed. -/
theorem exists_without_of_step {fault : Fault}
    (failed : step instruction context = .error fault after) :
    ∃ taken ≤ 3, taken ≤ context.stack.length ∧ after = context.without taken := by
  obtain ⟨taken, few, there, ends⟩ := step_frames instruction context
  rw [failed] at ends
  exact ⟨taken, few, there, ends⟩

end Writes

/-- Every step is framed. Whatever the instruction, arguments, offsets and the lengths of the
arrays stay. A step that succeeds takes at most three values, pushes at most one, and changes
nothing else, or a local variable that it names, or an element inside an array; a step that fails
takes at most three values and changes nothing else. -/
theorem step_stays_in_frame (instruction : Instruction) (context : Context) :
    match step instruction context with
    | .ok _ after =>
      (∃ taken ≤ 3, taken ≤ context.stack.length ∧
        ∃ pushed : Option Value, after.stack = pushed.toList ++ context.stack.drop taken) ∧
      (after.arguments = context.arguments ∧ after.starts = context.starts ∧
        after.position = context.position ∧
        after.arrays.map List.length = context.arrays.map List.length) ∧
      ((after.locals = context.locals ∧ after.arrays = context.arrays) ∨
        (∃ index value, instruction.storedLocal? = some index ∧
          context.stack.head? = some value ∧ after.locals = context.locals.set index value ∧
          after.arrays = context.arrays) ∨
        ∃ array slot number index elements, instruction.isPlain 0x9E ∧
          [.int32 number, index, .arrayRef array] <+: context.stack ∧
          index.Indexes slot ∧ context.arrays[array]? = some elements ∧ slot < elements.length ∧
          after.arrays = context.arrays.set array (elements.set slot number) ∧
          after.locals = context.locals)
    | .error _ after =>
      ∃ taken ≤ 3, taken ≤ context.stack.length ∧
        after = { context with stack := context.stack.drop taken } := by
  cases stepped : step instruction context with
  | error fault after => exact exists_without_of_step stepped
  | ok next after =>
    obtain ⟨taken, few, there, writes⟩ := exists_writes_of_step stepped
    refine ⟨⟨taken, few, there, writes.exists_pushed⟩, writes.keeps, ?_⟩
    cases writes with
    | nothing | pushed => exact .inl ⟨rfl, rfl⟩
    | @stored index value names top =>
      exact .inr (.inl ⟨index, value, names, by rw [top]; rfl, rfl, rfl⟩)
    | @overwritten array slot number index elements names operands held indexes inside =>
      have prefixed : [.int32 number, index, .arrayRef array] <+: context.stack :=
        ⟨_, operands.symm⟩
      have arrays : ((context.without taken).setElement array slot number).arrays =
          context.arrays.set array (elements.set slot number) :=
        Context.arrays_setElement held slot number
      exact .inr (.inr ⟨array, slot, number, index, elements, names, prefixed, indexes, held,
        inside, arrays, rfl⟩)

end ConstantRecovery
