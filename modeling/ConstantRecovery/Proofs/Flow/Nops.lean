import ConstantRecovery.Proofs.Code.Slots
import ConstantRecovery.Proofs.Machine.Simulation

/-!
# Runs without nops

Leaving nops out of a stream and renumbering it changes no run that ends. A cursor of the stream
is related to the place in what is left where the rest of the stream, without nops, goes on. A
nop that is left out moves the first cursor alone, so the run of the stream lags behind; a jump
to one lands at the next instruction that is left, which is where the nops lead. The last
instruction has to stay, for a jump to a nop at the end would lead nowhere.
-/

namespace ConstantRecovery

/-- What is left of a stream without some of its nops. The last instruction is never left out. -/
inductive WithoutNops : List Instruction → List Instruction → Prop
  /-- Nothing is left of nothing. -/
  | nil : WithoutNops [] []
  /-- An instruction may stay. -/
  | keep (instruction : Instruction) {code left : List Instruction} (rest : WithoutNops code left) :
      WithoutNops (instruction :: code) (instruction :: left)
  /-- A `nop` in front of another instruction may go. -/
  | drop {nop next : Instruction} {code left : List Instruction}
      (bare : nop.isPlain Opcode.Code.nop = true) (rest : WithoutNops (next :: code) left) :
      WithoutNops (nop :: next :: code) left

/-- A nop idles. -/
theorem Instruction.idles_of_isPlain_nop {nop : Instruction}
    (bare : nop.isPlain Opcode.Code.nop = true) : nop.Idles := by
  intro context
  rw [step, operation_of_isPlain bare rfl]
  rfl

/-- A settled stream whose slots are moved ascends, if no instruction of it is empty. -/
theorem ascending_renumber {code : List Instruction}
    (positive : ∀ instruction ∈ code, 0 < instruction.size) : Ascending (renumber code) := by
  rw [renumber_eq]
  apply ascending_settle
  intro instruction member
  obtain ⟨original, inside, rfl⟩ := List.mem_map.1 member
  rw [Instruction.size_mapSlots]
  exact positive original inside

namespace WithoutNops

variable {code left : List Instruction} {cursor other : Nat}

/-- What is left is a part of the stream. -/
theorem sublist (removes : WithoutNops code left) : left.Sublist code := by
  induction removes with
  | nil => exact .slnil
  | keep instruction _ ih => exact ih.cons_cons instruction
  | drop _ _ ih => exact ih.cons _

/-- Something is left of what is not empty. -/
theorem ne_nil {instruction : Instruction} (removes : WithoutNops (instruction :: code) left) :
    left ≠ [] := by
  generalize whole : instruction :: code = stream at removes
  induction removes generalizing instruction code with
  | nil => cases whole
  | keep instruction rest _ => exact List.cons_ne_nil _ _
  | drop _ _ ih => exact ih rfl

/-- The rest of the stream from an instruction on, without nops, is what is left from the offset of
that instruction on. -/
theorem drop_takeWhile (removes : WithoutNops code left) (ascending : Ascending code)
    {position : Nat} {instruction : Instruction} (here : code[position]? = some instruction) :
    WithoutNops (code.drop position)
      (left.drop (left.takeWhile (·.offset < instruction.offset)).length) := by
  induction removes generalizing position with
  | nil => cases here
  | keep first rest ih =>
    cases position with
    | zero =>
      cases here
      rw [List.takeWhile_cons_of_neg (by simp)]
      exact .keep instruction rest
    | succ position =>
      obtain ⟨before, ascends⟩ := List.pairwise_cons.1 ascending
      have passed : first.offset < instruction.offset :=
        before _ (List.mem_map_of_mem (List.mem_of_getElem? here))
      rw [List.takeWhile_cons_of_pos (by simpa using passed), List.length_cons]
      exact ih ascends here
  | @drop nop next code left bare rest ih =>
    obtain ⟨before, ascends⟩ := List.pairwise_cons.1 ascending
    cases position with
    | zero =>
      cases here
      -- All that is left stands behind the nop.
      have none : left.takeWhile (·.offset < instruction.offset) = [] := by
        obtain ⟨first, others, rfl⟩ := List.exists_cons_of_ne_nil rest.ne_nil
        have behind : instruction.offset < first.offset :=
          before _ (List.mem_map_of_mem (rest.sublist.subset List.mem_cons_self))
        apply List.takeWhile_cons_of_neg
        simp only [decide_eq_true_eq]
        omega
      rw [none]
      exact .drop bare rest
    | succ position => exact ih ascends here

/-- Cursors are related where the rest of the stream leaves the rest of what is left. -/
def Related (code left : List Instruction) (cursor other : Nat) : Prop :=
  WithoutNops (code.drop cursor) (left.drop other)

/-- Related cursors are behind both ends, at one instruction, or the first is at a nop. -/
theorem Related.cases (related : Related code left cursor other) :
    (code[cursor]? = none ∧ left[other]? = none) ∨
      (∃ instruction, code[cursor]? = some instruction ∧ left[other]? = some instruction ∧
        Related code left (cursor + 1) (other + 1)) ∨
      ∃ nop, code[cursor]? = some nop ∧ nop.isPlain Opcode.Code.nop = true ∧
        Related code left (cursor + 1) other := by
  unfold Related at related ⊢
  rw [← List.head?_drop, ← List.head?_drop, ← List.tail_drop, ← List.tail_drop]
  generalize code.drop cursor = rest at related
  generalize left.drop other = remaining at related
  cases related with
  | nil => exact .inl ⟨rfl, rfl⟩
  | keep instruction rest => exact .inr (.inl ⟨instruction, rfl, rfl, rest⟩)
  | drop bare rest => exact .inr (.inr ⟨_, rfl, bare, rest⟩)

/-- A jump lands, in what is left, where the stream goes on behind the nops it jumps to. -/
theorem exists_landing (removes : WithoutNops code left)
    (built : ∀ instruction ∈ code, instruction.IsBuilt) (ascending : Ascending code)
    {position : Nat} {instruction : Instruction} (here : code[position]? = some instruction) :
    ∃ place, lastPosition? (landing left (settle 0 left) instruction.offset)
      (offsets (renumber left)) = some place ∧ Related code left position place := by
  have related := removes.drop_takeWhile ascending here
  have front := List.prefix_iff_eq_take.1
    (List.takeWhile_prefix (l := left) fun other => decide (other.offset < instruction.offset))
  generalize (left.takeWhile (·.offset < instruction.offset)).length = place at related front
  -- The stream has an instruction there, so there is one left.
  obtain ⟨inside, -⟩ := List.getElem?_eq_some_iff.1 here
  have more := related
  rw [List.drop_eq_getElem_cons inside] at more
  have within : place < left.length := by
    have some := more.ne_nil
    rw [ne_eq, List.drop_eq_nil_iff] at some
    omega
  have there := List.getElem?_eq_getElem within
  have ascends := ascending.sublist removes.sublist
  have settled : Ascending (renumber left) := ascending_renumber fun other member =>
    (built other (removes.sublist.subset member)).size_pos
  refine ⟨place, ?_, related⟩
  have stands : (renumber left)[place]? =
      some (left[place].moved (landing left (settle 0 left))) := by
    rw [ascends.renumber_eq_map_moved, List.getElem?_map, there]
    rfl
  have same : landing left (settle 0 left) instruction.offset =
      (left[place].moved (landing left (settle 0 left))).offset := by
    rw [Instruction.offset_moved, ascends.landing_offset there, landing_settle, front]
  rw [same]
  exact settled.lastPosition? stands

/-- The runs of a stream and of what is left of it without nops, renumbered, lag by the nops. -/
theorem lags (removes : WithoutNops code left) (built : ∀ instruction ∈ code, instruction.IsBuilt)
    (ascending : Ascending code)
    (aims : ∀ instruction ∈ code, ∀ target ∈ instruction.targets, target ∈ offsets code) :
    Lags code left (renumber left) (landing left (settle 0 left)) (Related code left) := by
  have shape := (ascending.sublist removes.sublist).renumber_eq_map_moved
  constructor
  · intro cursor other related
    rcases related.cases with ⟨none, otherNone⟩ | ⟨instruction, here, there, again⟩ |
      ⟨nop, here, bare, again⟩
    · exact .inl ⟨none, by rw [shape, List.getElem?_map, otherNone]; rfl⟩
    · refine .inr (.inl ⟨instruction, List.mem_of_getElem? there, here, ?_, again⟩)
      rw [shape, List.getElem?_map, there]
      rfl
    · exact .inr (.inr ⟨nop, here, Instruction.idles_of_isPlain_nop bare, again⟩)
  · intro jump target member aimed
    have slot := Instruction.mem_targets_of_target? aimed
    obtain ⟨instruction, inside, rfl⟩ := List.mem_map.1 (aims jump member target slot)
    obtain ⟨position, here⟩ := List.mem_iff_getElem?.1 inside
    obtain ⟨place, lands, related⟩ := removes.exists_landing built ascending here
    exact ⟨position, place, ascending.lastPosition? here, lands, related⟩

end WithoutNops

/-- Nops do not matter: a stream that the constructors made, with jumps that go to instructions of
it, and what is left of it without some nops, renumbered, end alike from every state under every
limit that lets the stream end. Renumbering moves what is left, so a fault names the new place of
the instruction that it named. -/
theorem sameEnd_emulate_of_withoutNops {code left : List Instruction}
    (removes : WithoutNops code left) (built : ∀ instruction ∈ code, instruction.IsBuilt)
    (ascending : Ascending code)
    (aims : ∀ instruction ∈ code, ∀ target ∈ instruction.targets, target ∈ offsets code) :
    renumber left = left.map (·.moved (landing left (settle 0 left))) ∧
      ∀ (limits : Limits) (arguments locals : FiniteMap UInt16 Value) (arrays : List (List Int32)),
        Routine.emulate { code, limits, arguments, locals, arrays } ≠ .error limits.exceeded →
          SameEnd left (landing left (settle 0 left))
            (Routine.emulate { code, limits, arguments, locals, arrays })
            (Routine.emulate { code := renumber left, limits, arguments, locals, arrays }) := by
  refine ⟨(ascending.sublist removes.sublist).renumber_eq_map_moved, ?_⟩
  intro limits arguments locals arrays halts
  have start : WithoutNops.Related code left 0 0 := removes
  exact (removes.lags built ascending aims).sameEnd built (Nat.le_refl _) start
    ⟨rfl, rfl, rfl, rfl, rfl, rfl⟩ halts

/-- A loop that counts down from 3, enters its body over two nops and runs into a fault behind it:
without the nops it is the same fault, at the new place. -/
theorem sameEnd_emulate_of_loop_over_nops :
    let body : List Instruction := [.ldloc 0, .ldcI4 (-1), .plain 0x58 .bare, .stloc 0, .ldloc 0,
      .ldcI4 0, .branch 0x33 0, .plain 0x65 .bare]
    let code := settle 0 (.nop :: .nop :: body)
    let left := settle 2 body
    let locals := FiniteMap.empty.set 0 (.int32 3)
    WithoutNops code left ∧
      Routine.emulate { code, limits := ⟨28⟩, arguments := .empty, locals, arrays := [] } =
        .error (.stackUnderflow 10) ∧
      SameEnd left (landing left (settle 0 left))
        (Routine.emulate { code, limits := ⟨28⟩, arguments := .empty, locals, arrays := [] })
        (Routine.emulate
          { code := renumber left, limits := ⟨28⟩, arguments := .empty, locals, arrays := [] }) ∧
      landing left (settle 0 left) 10 = 8 := by
  intro body code left locals
  have removes : WithoutNops code left := by
    refine .drop rfl (.drop rfl ?_)
    repeat' constructor
  have ends : Routine.emulate
      { code, limits := ⟨28⟩, arguments := .empty, locals, arrays := [] } =
        .error (.stackUnderflow 10) := rfl
  have built : ∀ instruction ∈ code, instruction.IsBuilt := by decide +kernel
  have ascending : Ascending code := ascending_settle 0 _ (by decide)
  have aims : ∀ instruction ∈ code, ∀ target ∈ instruction.targets, target ∈ offsets code := by
    decide +kernel
  have halts : Routine.emulate
      { code, limits := ⟨28⟩, arguments := .empty, locals, arrays := [] } ≠
        .error (Limits.exceeded ⟨28⟩) := by
    rw [ends]
    intro same
    exact absurd (Except.error.inj same) (by decide)
  have same := (sameEnd_emulate_of_withoutNops removes built ascending aims).2 ⟨28⟩ .empty locals []
    halts
  exact ⟨removes, ends, same, by decide +kernel⟩

end ConstantRecovery
