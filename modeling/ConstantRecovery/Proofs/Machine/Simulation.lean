import ConstantRecovery.Proofs.Machine.Control
import ConstantRecovery.Proofs.Machine.Execution

/-!
# Runs of code that has moved

Two runs correspond step by step when a relation between their cursors survives every
way on: going on behind an instruction, and jumping. They then end alike after equally
many instructions, so a limit stops both or neither. Where the first run may also idle, it
needs more instructions than the second, which then ends alike under every limit that lets
the first one end.
-/

namespace ConstantRecovery

/-- Two states hold the same values. -/
structure Context.Alike (first second : Context) : Prop where
  /-- The arguments are the same. -/
  arguments : first.arguments = second.arguments
  /-- The local variables are the same. -/
  locals : first.locals = second.locals
  /-- The stack is the same. -/
  stack : first.stack = second.stack
  /-- The arrays are the same. -/
  arrays : first.arrays = second.arrays

/-- Two runs end alike: with the same values, or with the same fault. An offset that the fault
names is that of an instruction of the code, and has moved with it. -/
inductive SameEnd (code : List Instruction) (move : Nat → Nat) :
    Except Fault Context → Except Fault Context → Prop
  /-- Both succeed, in states that are alike. -/
  | ok {first second : Context} (alike : first.Alike second) :
      SameEnd code move (.ok first) (.ok second)
  /-- Both fail, the copy with the offset moved that the fault names. -/
  | error {fault : Fault} (placed : ∀ offset, fault.offset? = some offset → offset ∈ offsets code) :
      SameEnd code move (.error fault) (.error (fault.moved move))

/-- A limit is no place. -/
theorem Limits.exceeded_placeless (limits : Limits) : limits.exceeded.offset? = none := by
  unfold Limits.exceeded
  split <;> rfl

/-- Two states of a run of a stream and of one of its moved form hold the same values. -/
structure Context.Beside (code moved : List Instruction) (context copy : Context) : Prop where
  /-- The run looks up offsets in its code. -/
  starts : context.starts = offsets code
  /-- The copy looks up offsets in the moved code. -/
  copyStarts : copy.starts = offsets moved
  /-- The states are alike. -/
  alike : context.Alike copy

section Steps

variable {code kept moved : List Instruction} {move : Nat → Nat} {limits : Limits}
  {Ends : Except Fault Context → Except Fault Context → Prop}

/-- What holds of two runs that end alike, and of two runs that go on from an instruction and from
its moved form, holds of the runs from there. -/
theorem ends_of_step (same : ∀ {first second}, SameEnd kept move first second → Ends first second)
    {instruction : Instruction} (member : instruction ∈ kept) (built : instruction.IsBuilt)
    {cursor other left budget : Nat} (here : code[cursor]? = some instruction)
    (there : moved[other]? = some (instruction.moved move)) {context copy : Context}
    (beside : context.Beside code moved copy)
    (next : instruction.flow = .sequential ∨ instruction.flow = .conditional →
      ∀ {context copy : Context}, context.Beside code moved copy →
        Ends (runFrom limits code left (cursor + 1) context)
          (runFrom limits moved budget (other + 1) copy))
    (jump : ∀ target, instruction.target? = some target →
      ∃ place otherPlace, lastPosition? target (offsets code) = some place ∧
        lastPosition? (move target) (offsets moved) = some otherPlace ∧
        ∀ {context copy : Context}, context.Beside code moved copy →
          Ends (runFrom limits code left place context)
            (runFrom limits moved budget otherPlace copy)) :
    Ends (runFrom limits code (left + 1) cursor context)
      (runFrom limits moved (budget + 1) other copy) := by
  obtain ⟨starts, copyStarts, arguments, locals, stack, arrays⟩ := beside
  rw [runFrom_succ here, runFrom_succ there]
  -- The moved form takes the same step from the moved state.
  have moves : copy.at (instruction.moved move) =
      (context.at instruction).moved move (offsets moved) := by
    simp only [Context.at, Context.moved, Instruction.offset_moved, arguments, locals, stack,
      arrays, copyStarts]
  have follows := follows_step move (offsets moved) instruction (context.at instruction)
  have yields := @yields_step instruction (context.at instruction) rfl
  rw [moves, follows]
  cases done : step instruction (context.at instruction) with
  | error fault after =>
    rw [done] at yields
    apply same
    refine .error fun offset named => ?_
    rw [yields offset named]
    exact List.mem_map_of_mem member
  | ok way after =>
    rw [done] at yields
    obtain ⟨keeps, operation, known, allowed⟩ := yields
    have again : after.Beside code moved (after.moved move (offsets moved)) :=
      ⟨keeps.trans starts, rfl, rfl, rfl, rfl, rfl⟩
    cases way with
    | proceed => exact next (built.flow_of_proceed known allowed) again
    | finish => exact same (.ok again.alike)
    | jump target =>
      obtain ⟨place, otherPlace, found, otherFound, goesOn⟩ := jump target allowed.target?
      have lands : after.indexOf target = .ok place := by
        rw [Context.indexOf, again.starts, found]
      have otherLands : (after.moved move (offsets moved)).indexOf (move target) =
          .ok otherPlace := by
        rw [Context.indexOf, again.copyStarts, otherFound]
      simp only [Next.moved, lands, otherLands]
      exact goesOn again

end Steps

/-- Cursors in a stream and in another that has `kept`, moved, as far as control can go. -/
structure Tracks (code kept moved : List Instruction) (move : Nat → Nat)
    (Related : Nat → Nat → Prop) : Prop where
  /-- Related cursors are both behind the end, or at an instruction and its moved form. -/
  fetch : ∀ {cursor other}, Related cursor other →
    (code[cursor]? = none ∧ moved[other]? = none) ∨
      ∃ instruction ∈ kept, code[cursor]? = some instruction ∧
        moved[other]? = some (instruction.moved move)
  /-- Where control can go on, the next cursors are related. -/
  next : ∀ {cursor other instruction}, Related cursor other →
    code[cursor]? = some instruction →
      instruction.flow = .sequential ∨ instruction.flow = .conditional →
        Related (cursor + 1) (other + 1)
  /-- A target is found in both streams, at related cursors. -/
  jump : ∀ {cursor other instruction target}, Related cursor other →
    code[cursor]? = some instruction → instruction.target? = some target →
      ∃ place otherPlace, lastPosition? target (offsets code) = some place ∧
        lastPosition? (move target) (offsets moved) = some otherPlace ∧ Related place otherPlace

/-- Runs from related cursors and like states end alike. -/
theorem Tracks.sameEnd {code kept moved : List Instruction} {move : Nat → Nat}
    {Related : Nat → Nat → Prop} (tracks : Tracks code kept moved move Related)
    (built : ∀ instruction ∈ code, instruction.IsBuilt) (limits : Limits) {left cursor other : Nat}
    (related : Related cursor other) {context copy : Context}
    (starts : context.starts = offsets code) (copyStarts : copy.starts = offsets moved)
    (alike : context.Alike copy) :
    SameEnd kept move (runFrom limits code left cursor context)
      (runFrom limits moved left other copy) := by
  induction left generalizing cursor other context copy with
  | zero =>
    rcases tracks.fetch related with ⟨none, otherNone⟩ | ⟨instruction, -, here, there⟩
    · rw [runFrom_of_none none, runFrom_of_none otherNone]
      exact .ok alike
    · rw [runFrom_zero here, runFrom_zero there]
      have placeless := limits.exceeded_placeless
      have ends : SameEnd kept move (.error limits.exceeded)
          (.error (limits.exceeded.moved move)) := .error (by simp [placeless])
      rwa [Fault.moved_of_placeless placeless] at ends
  | succ left ih =>
    rcases tracks.fetch related with ⟨none, otherNone⟩ | ⟨instruction, member, here, there⟩
    · rw [runFrom_of_none none, runFrom_of_none otherNone]
      exact .ok alike
    · apply ends_of_step id member (built instruction (List.mem_of_getElem? here)) here there
        ⟨starts, copyStarts, alike⟩
      · intro flow context copy beside
        exact ih (tracks.next related here flow) beside.starts beside.copyStarts beside.alike
      · intro target aims
        obtain ⟨place, otherPlace, found, otherFound, again⟩ := tracks.jump related here aims
        refine ⟨place, otherPlace, found, otherFound, fun beside => ?_⟩
        exact ih again beside.starts beside.copyStarts beside.alike

/-- The instruction does nothing but go on. -/
def Instruction.Idles (instruction : Instruction) : Prop :=
  ∀ context, step instruction context = .ok .proceed context

/-- Cursors in a stream and in another that has `kept`, moved, while the first run may idle. -/
structure Lags (code kept moved : List Instruction) (move : Nat → Nat)
    (Related : Nat → Nat → Prop) : Prop where
  /-- Related cursors are both behind the end, or at an instruction and its moved form, or only the
  first is at an instruction, which idles. -/
  fetch : ∀ {cursor other}, Related cursor other →
    (code[cursor]? = none ∧ moved[other]? = none) ∨
      (∃ instruction ∈ kept, code[cursor]? = some instruction ∧
        moved[other]? = some (instruction.moved move) ∧ Related (cursor + 1) (other + 1)) ∨
      ∃ instruction : Instruction, code[cursor]? = some instruction ∧ instruction.Idles ∧
        Related (cursor + 1) other
  /-- A target is found in both streams, at related cursors. -/
  jump : ∀ {instruction target}, instruction ∈ code → instruction.target? = some target →
    ∃ place otherPlace, lastPosition? target (offsets code) = some place ∧
      lastPosition? (move target) (offsets moved) = some otherPlace ∧ Related place otherPlace

/-- Where a run ends from one of two related cursors, the run from the other ends alike, with as
many instructions left or more. -/
theorem Lags.sameEnd {code kept moved : List Instruction} {move : Nat → Nat}
    {Related : Nat → Nat → Prop} (lags : Lags code kept moved move Related)
    (built : ∀ instruction ∈ code, instruction.IsBuilt) {limits : Limits}
    {left budget cursor other : Nat} (enough : left ≤ budget) (related : Related cursor other)
    {context copy : Context} (beside : context.Beside code moved copy)
    (halts : runFrom limits code left cursor context ≠ .error limits.exceeded) :
    SameEnd kept move (runFrom limits code left cursor context)
      (runFrom limits moved budget other copy) := by
  induction left generalizing budget cursor other context copy with
  | zero =>
    rcases lags.fetch related with ⟨none, otherNone⟩ | ⟨instruction, -, here, -⟩ |
      ⟨instruction, here, -⟩
    · rw [runFrom_of_none none, runFrom_of_none otherNone]
      exact .ok beside.alike
    · exact absurd (runFrom_zero here) halts
    · exact absurd (runFrom_zero here) halts
  | succ left ih =>
    rcases lags.fetch related with ⟨none, otherNone⟩ | ⟨instruction, member, here, there, again⟩ |
      ⟨instruction, here, idles, again⟩
    · rw [runFrom_of_none none, runFrom_of_none otherNone]
      exact .ok beside.alike
    · obtain ⟨fewer, rfl⟩ : ∃ fewer, budget = fewer + 1 := ⟨budget - 1, by omega⟩
      have inside := List.mem_of_getElem? here
      revert halts
      apply @ends_of_step code kept moved move limits
        (fun first second => first ≠ .error limits.exceeded → SameEnd kept move first second)
        (fun alike _ => alike) instruction member (built instruction inside) cursor other left fewer
        here there context copy beside
      · intro _ context copy beside halts
        exact ih (by omega) again beside halts
      · intro target aims
        obtain ⟨place, otherPlace, found, otherFound, lands⟩ := lags.jump inside aims
        refine ⟨place, otherPlace, found, otherFound, fun beside halts => ?_⟩
        exact ih (by omega) lands beside halts
    · have idled : runFrom limits code (left + 1) cursor context =
          runFrom limits code left (cursor + 1) (context.at instruction) := by
        rw [runFrom_succ here, idles]
      rw [idled] at halts ⊢
      have alike := beside.alike
      have still : (context.at instruction).Beside code moved copy :=
        ⟨beside.starts, beside.copyStarts, alike.arguments, alike.locals, alike.stack,
          alike.arrays⟩
      exact ih (by omega) again still halts

end ConstantRecovery
