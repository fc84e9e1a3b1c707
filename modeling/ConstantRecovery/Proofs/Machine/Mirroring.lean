import ConstantRecovery.Proofs.Code.Slots
import ConstantRecovery.Proofs.Machine.Execution
import ConstantRecovery.Proofs.Machine.Simulation

/-!
# Runs of code in another order

One instruction can stand at two places of two streams, with slots that go different ways.
It still does the same to the values it works on. So where cursors stay paired on every way
that succeeds, a run that ends well in one stream ends well in the other, with the same
values and under the same limit.
-/

namespace ConstantRecovery

/-- Moves offset zero to a place and every other one as it says of its predecessor. -/
def moveFrom (move : Nat → Nat) (place : Nat) : Nat → Nat
  | 0 => place
  | slot + 1 => move slot

/-- An instruction that is laid out is one at offset zero, moved: what its slots hold is kept apart
from where it stands by one. -/
theorem Instruction.exists_moved_eq (instruction : Instruction) :
    ∃ origin : Instruction, origin.offset = 0 ∧
      origin.target? = instruction.target?.map (· + 1) ∧
      ∀ (move : Nat → Nat) (place : Nat),
        instruction.laid move place = origin.moved (moveFrom move place) := by
  refine ⟨instruction.laid (· + 1) 0, rfl, instruction.target?_mapSlots (· + 1), ?_⟩
  intro move place
  have slots : (instruction.mapSlots (· + 1)).mapSlots (moveFrom move place) =
      instruction.mapSlots move :=
    instruction.mapSlots_mapSlots (· + 1) _
  show _ = (((instruction.mapSlots (· + 1)).placedAt 0).mapSlots (moveFrom move place)).placedAt _
  rw [← placedAt_mapSlots, slots]
  rfl

section Steps

variable {instruction : Instruction} {move again : Nat → Nat} {offset place : Nat}
  {context copy after : Context} {next : Next}

/-- Wherever an instruction stands and its slots go, it does the same to like states. -/
theorem exists_step_laid (alike : context.Alike copy)
    (done : step (instruction.laid move offset)
      (context.at (instruction.laid move offset)) = .ok next after) :
    ∃ way result, next = Next.moved move way ∧
      (∀ target, way = .jump target → instruction.target? = some target) ∧
      step (instruction.laid again place) (copy.at (instruction.laid again place)) =
        .ok (way.moved again) result ∧
      after.starts = context.starts ∧ result.starts = copy.starts ∧ after.Alike result := by
  obtain ⟨origin, start, aims, shape⟩ := instruction.exists_moved_eq
  let begin : Context := { context with position := origin.offset }
  have first := follows_step (moveFrom move offset) context.starts origin begin
  have second := follows_step (moveFrom again place) copy.starts origin begin
  have yields := @yields_step origin begin rfl
  have here : begin.moved (moveFrom move offset) context.starts =
      context.at (instruction.laid move offset) := by
    show { context with position := moveFrom move offset origin.offset } = _
    rw [start]
    rfl
  have there : begin.moved (moveFrom again place) copy.starts =
      copy.at (instruction.laid again place) := by
    obtain ⟨arguments, locals, stack, arrays⟩ := alike
    show { context with starts := copy.starts, position := moveFrom again place origin.offset } = _
    rw [start, Context.at, arguments, locals, stack, arrays]
    rfl
  rw [here, ← shape, done] at first
  rw [there, ← shape] at second
  cases stepped : step origin begin with
  | error fault reached =>
    rw [stepped] at first
    cases first
  | ok way reached =>
    rw [stepped] at first second yields
    cases first
    obtain ⟨-, operation, -, allowed⟩ := yields
    cases way with
    | proceed =>
      refine ⟨.proceed, _, rfl, ?_, second, rfl, rfl, ⟨rfl, rfl, rfl, rfl⟩⟩
      intro target same
      cases same
    | finish =>
      refine ⟨.finish, _, rfl, ?_, second, rfl, rfl, ⟨rfl, rfl, rfl, rfl⟩⟩
      intro target same
      cases same
    | jump slot =>
      obtain ⟨target, known, rfl⟩ := Option.map_eq_some_iff.1 (aims.symm.trans allowed.target?)
      refine ⟨.jump target, _, rfl, ?_, second, rfl, rfl, ⟨rfl, rfl, rfl, rfl⟩⟩
      intro other same
      cases same
      exact known

end Steps

/-- Cursors in two streams are paired in a way that success keeps. -/
structure Mirrors (code other : List Instruction) (Paired : Nat → Nat → Prop) : Prop where
  /-- Paired cursors are both behind the end, or at one instruction that is laid out twice. -/
  fetch : ∀ {cursor twin}, Paired cursor twin →
    (code[cursor]? = none ∧ other[twin]? = none) ∨
      ∃ (instruction : Instruction) (move again : Nat → Nat) (offset place : Nat),
        instruction.IsBuilt ∧ code[cursor]? = some (instruction.laid move offset) ∧
        other[twin]? = some (instruction.laid again place) ∧
        (instruction.flow = .sequential ∨ instruction.flow = .conditional →
          Paired (cursor + 1) (twin + 1)) ∧
        ∀ target landed, instruction.target? = some target →
          lastPosition? (move target) (offsets code) = some landed →
            ∃ twinLanded, lastPosition? (again target) (offsets other) = some twinLanded ∧
              Paired landed twinLanded

/-- From paired cursors and like states, a run that ends well has one beside it that ends well with
the same values. The induction is on the instructions left. -/
theorem Mirrors.exists_runFrom {code other : List Instruction} {Paired : Nat → Nat → Prop}
    (mirrors : Mirrors code other Paired) {limits : Limits} {left cursor twin : Nat}
    (paired : Paired cursor twin) {context copy after : Context}
    (starts : context.starts = offsets code) (copyStarts : copy.starts = offsets other)
    (alike : context.Alike copy)
    (done : runFrom limits code left cursor context = .ok after) :
    ∃ result, runFrom limits other left twin copy = .ok result ∧ after.Alike result := by
  induction left generalizing cursor twin context copy with
  | zero =>
    rcases mirrors.fetch paired with ⟨behind, twinBehind⟩ | ⟨_, _, _, _, _, -, here, -⟩
    · rw [runFrom_of_none behind] at done
      cases done
      exact ⟨copy, runFrom_of_none twinBehind 0, alike⟩
    · rw [runFrom_zero here] at done
      cases done
  | succ left ih =>
    rcases mirrors.fetch paired with ⟨behind, twinBehind⟩ |
      ⟨instruction, move, again, offset, place, built, here, there, goesOn, jumps⟩
    · rw [runFrom_of_none behind] at done
      cases done
      exact ⟨copy, runFrom_of_none twinBehind _, alike⟩
    · rw [runFrom_succ here] at done
      rw [runFrom_succ there]
      cases stepped : step (instruction.laid move offset)
          (context.at (instruction.laid move offset)) with
      | error fault failed =>
        rw [stepped] at done
        cases done
      | ok next reached =>
        have yields := @yields_step (instruction.laid move offset)
          (context.at (instruction.laid move offset)) rfl
        obtain ⟨way, result, rfl, aims, twinStepped, kept, twinKept, same⟩ :=
          @exists_step_laid _ _ again _ place _ _ _ _ alike stepped
        rw [stepped] at done yields
        rw [twinStepped]
        have reachedStarts := kept.trans starts
        have resultStarts := twinKept.trans copyStarts
        cases way with
        | finish =>
          cases done
          exact ⟨result, rfl, same⟩
        | proceed =>
          obtain ⟨-, operation, known, allowed⟩ := yields
          have flow := ((built.mapSlots move).placedAt offset).flow_of_proceed known allowed
          change (instruction.mapSlots move).flow = _ ∨ (instruction.mapSlots move).flow = _ at flow
          rw [Instruction.flow_mapSlots] at flow
          exact ih (goesOn flow) reachedStarts resultStarts same done
        | jump target =>
          simp only [Next.moved, Context.indexOf, reachedStarts, resultStarts] at done ⊢
          cases lands : lastPosition? (move target) (offsets code) with
          | none =>
            rw [lands] at done
            cases done
          | some landed =>
            rw [lands] at done
            obtain ⟨twinLanded, twinLands, pairs⟩ := jumps target landed (aims target rfl) lands
            rw [twinLands]
            exact ih pairs reachedStarts resultStarts same done

end ConstantRecovery
