import ConstantRecovery.Proofs.Code.Positions
import ConstantRecovery.Proofs.Machine.Halting
import ConstantRecovery.Proofs.Machine.States
import ConstantRecovery.Proofs.Machine.Trail

/-!
# Code that jumps forward only

Where offsets grow and every branch that the machine takes aims behind itself, a step never goes
back: going on leads behind the instruction, and so does a jump, because the instruction found at
the greater offset stands at the greater position. What is left of the code shrinks with each
step. So the run halts by itself, and on its way it executes no instruction twice.

Offsets are looked up in the context. One that was made for this code finds its instructions; one
that was made for other code may find any number at an offset, and send a branch back.
-/

namespace ConstantRecovery

/-- The branches of the machine: `br`, `beq` and `bne.un`, each in its short and its long form. -/
def branchCodes : List UInt8 := [0x2B, 0x2E, 0x33, 0x38, 0x3B, 0x40]

/-- If it is a branch of the machine and carries a target, the target is behind it. -/
def Instruction.aimsForward (instruction : Instruction) : Bool :=
  match instruction.operand with
  | .target target => !branchCodes.any instruction.isPlain || instruction.offset < target
  | _ => true

/-- The context finds the target of no branch in front of that branch, or at it. -/
def Context.LeadsForward (context : Context) (code : List Instruction) : Prop :=
  ∀ (position : Nat) (branch : Instruction) (target next : Nat), code[position]? = some branch →
    branchCodes.any branch.isPlain = true → branch.operand = .target target →
      context.indexOf target = .ok next → position < next

/-- An instruction that may jump is one of the branches of the machine. -/
theorem Operation.Allows.isPlain {instruction : Instruction} {operation : Operation} {target : Nat}
    (allowed : operation.Allows instruction (.jump target))
    (known : Operation.ofOpcode? instruction.lead instruction.opcode = some operation) :
    branchCodes.any instruction.isPlain = true := by
  have plain : ∀ row ∈ Operation.plainTable,
      row.2.flow ≠ .unconditional ∧ row.2.flow ≠ .conditional ∨ row.1 ∈ branchCodes := by decide
  have extended : ∀ row ∈ Operation.extendedTable,
      row.2.flow ≠ .unconditional ∧ row.2.flow ≠ .conditional := by decide
  have jumps : ¬ (operation.flow ≠ .unconditional ∧ operation.flow ≠ .conditional) := by
    cases operation <;> simp_all [Operation.Allows, Operation.flow]
  unfold Operation.ofOpcode? at known
  split at known
  · rename_i bare
    have branch := (plain _ (mem_of_lookup known)).resolve_left jumps
    exact List.any_eq_true.2 ⟨_, branch, Instruction.isPlain_iff.2 ⟨bare, rfl⟩⟩
  · split at known
    · exact absurd (extended _ (mem_of_lookup known)) jumps
    · cases known

/-- In an ascending stream what stands behind starts behind. -/
theorem Ascending.offset_lt_offset {code : List Instruction} (ascending : Ascending code)
    {first second : Nat} {before after : Instruction} (here : code[first]? = some before)
    (there : code[second]? = some after) (behind : first < second) :
    before.offset < after.offset := by
  obtain ⟨inside, rfl⟩ := List.getElem?_eq_some_iff.1 there
  obtain ⟨front, rfl⟩ := List.getElem?_eq_some_iff.1 here
  have pairs := List.pairwise_iff_getElem.1 (List.pairwise_map.1 ascending)
  exact pairs first second front inside behind

/-- In an ascending stream an instruction starts no earlier than its position. -/
theorem Ascending.position_le {code : List Instruction} (ascending : Ascending code)
    {position : Nat} {instruction : Instruction} (here : code[position]? = some instruction) :
    position ≤ instruction.offset := by
  induction position generalizing instruction with
  | zero => exact Nat.zero_le _
  | succ position ih =>
    have inside := (List.getElem?_eq_some_iff.1 here).1
    have there : code[position]? = some code[position] :=
      List.getElem?_eq_getElem (by omega)
    have before := ih there
    have grows := ascending.offset_lt_offset there here (Nat.lt_succ_self position)
    omega

/-- Offsets that are machine words leave room for as many instructions as there are words. -/
theorem Ascending.length_le {code : List Instruction} (ascending : Ascending code) {bound : Nat}
    (addressed : ∀ instruction ∈ code, instruction.offset < bound) : code.length ≤ bound := by
  refine Nat.le_of_not_lt fun longer => ?_
  have here : code[bound]? = some code[bound] := List.getElem?_eq_getElem longer
  have last := ascending.position_le here
  have small := addressed _ (List.getElem_mem longer)
  omega

/-! ## Halting -/

/-- The iteration of steps does not fail with the fault of a limit. -/
theorem Halts.not_cutsOff {code : List Instruction} {count cursor : Nat} {context : Context}
    {outcome : Except Fault Context} (halts : Halts code count cursor context outcome)
    {fault : Fault} (failed : outcome = .error fault) : ¬ fault.CutsOff := by
  induction halts with
  | behind | finish => cases failed
  | @fault cursor context after instruction other here stepped =>
    cases failed
    exact avoids_step instruction _ _ _ stepped
  | @astray cursor target context after instruction other here stepped lost =>
    cases failed
    rw [Context.invalidBranchTarget_of_indexOf lost]
    exact id
  | proceed _ _ _ ih => exact ih failed
  | jump _ _ _ _ ih => exact ih failed

/-- As many instructions are passed as it takes to halt. -/
theorem Halts.length_trail {code : List Instruction} {count cursor : Nat} {context : Context}
    {outcome : Except Fault Context} (halts : Halts code count cursor context outcome) {left : Nat}
    (enough : count ≤ left) : (trail code left cursor context).length = count := by
  induction halts generalizing left with
  | behind gone =>
    unfold trail
    rw [gone]
    rfl
  | finish here stepped =>
    obtain ⟨left, rfl⟩ := Nat.exists_eq_add_of_le' enough
    rw [trail_succ here, stepped]
    rfl
  | fault here stepped =>
    obtain ⟨left, rfl⟩ := Nat.exists_eq_add_of_le' enough
    rw [trail_succ here, stepped]
    rfl
  | astray here stepped lost =>
    obtain ⟨left, rfl⟩ := Nat.exists_eq_add_of_le' enough
    simp only [trail_succ here, stepped, lost, List.length_singleton]
  | @proceed count _ _ _ _ _ here stepped _ ih =>
    obtain ⟨left, rfl⟩ := Nat.exists_eq_add_of_le' enough
    rw [← Nat.add_assoc, trail_succ here, stepped, List.length_cons,
      ih (Nat.le_add_left count left)]
  | @jump count _ _ _ _ _ _ _ here stepped lands _ ih =>
    obtain ⟨left, rfl⟩ := Nat.exists_eq_add_of_le' enough
    simp only [← Nat.add_assoc, trail_succ here, stepped, lands, List.length_cons,
      ih (Nat.le_add_left count left)]

/-! ## Running forward -/

section Forward

variable {code : List Instruction} {cursor : Nat} {context after : Context}
  {instruction : Instruction}

/-- A step looks up offsets where they were looked up. -/
theorem starts_of_step {next : Next}
    (stepped : step instruction (context.at instruction) = .ok next after) :
    after.starts = context.starts := by
  have done := @yields_step instruction (context.at instruction) rfl
  rw [stepped] at done
  exact done.1

/-- Contexts that look up offsets in the same list find the same. -/
theorem indexOf_congr (same : after.starts = context.starts) (target : Nat) :
    after.indexOf target = context.indexOf target := by
  rw [Context.indexOf, Context.indexOf, same]

/-- A context that leads forward still does after a step. -/
theorem Context.LeadsForward.of_step (leads : context.LeadsForward code) {next : Next}
    (stepped : step instruction (context.at instruction) = .ok next after) :
    after.LeadsForward code := by
  intro position other target number here branch carries lands
  rw [indexOf_congr (starts_of_step stepped)] at lands
  exact leads position other target number here branch carries lands

/-- Code whose offsets grow and whose branches aim behind themselves is led forward by its own
offsets. -/
theorem leadsForward_of_aimsForward (ascending : Ascending code)
    (forward : ∀ instruction ∈ code, instruction.aimsForward = true)
    (own : context.starts = offsets code) : context.LeadsForward code := by
  intro position jump target next here branch carries lands
  -- The target is behind the instruction, ...
  have behind : jump.offset < target := by
    have aims := forward jump (List.mem_of_getElem? here)
    rw [Instruction.aimsForward, carries] at aims
    simpa [branch] using aims
  -- ... and so is the instruction that starts there.
  have found : (offsets code)[next]? = some target := by
    unfold Context.indexOf at lands
    split at lands
    · rename_i number known
      cases lands
      rw [← own]
      exact getElem?_of_lastPosition? known
    · cases lands
  rw [offsets, List.getElem?_map] at found
  obtain ⟨other, there, rfl⟩ := Option.map_eq_some_iff.1 found
  refine Nat.lt_of_not_le fun front => ?_
  rcases Nat.lt_or_eq_of_le front with front | rfl
  · have earlier := ascending.offset_lt_offset there here front
    omega
  · cases here.symm.trans there
    omega

/-- A jump leads behind the instruction that jumps. -/
theorem lt_of_jump (leads : context.LeadsForward code) {target next : Nat}
    (here : code[cursor]? = some instruction)
    (stepped : step instruction (context.at instruction) = .ok (.jump target) after)
    (lands : after.indexOf target = .ok next) : cursor < next := by
  have done := @yields_step instruction (context.at instruction) rfl
  rw [stepped] at done
  obtain ⟨-, operation, known, allowed⟩ := done
  have carries : instruction.operand = .target target := by
    have aims := allowed.target?
    unfold Instruction.target? at aims
    split at aims
    · split at aims <;> cases aims
      assumption
    · cases aims
  rw [indexOf_congr (starts_of_step stepped)] at lands
  exact leads cursor instruction target next here (allowed.isPlain known) carries lands

/-- From every place the iteration halts within as many steps as instructions are left. The
induction is on the instructions left. -/
theorem exists_halts_of_leadsForward (leads : context.LeadsForward code) (cursor : Nat) :
    ∃ count ≤ code.length - cursor, ∃ outcome, Halts code count cursor context outcome := by
  generalize remaining : code.length - cursor = left
  induction left using Nat.strongRecOn generalizing context cursor with
  | ind left ih =>
    cases fetched : code[cursor]? with
    | none => exact ⟨0, Nat.zero_le _, _, .behind fetched⟩
    | some instruction =>
      have inside := (List.getElem?_eq_some_iff.1 fetched).1
      cases stepped : step instruction (context.at instruction) with
      | error fault after => exact ⟨1, by omega, _, .fault fetched stepped⟩
      | ok next after =>
        have kept := leads.of_step stepped
        cases next with
        | finish => exact ⟨1, by omega, _, .finish fetched stepped⟩
        | proceed =>
          obtain ⟨count, few, outcome, rest⟩ :=
            ih (code.length - (cursor + 1)) (by omega) kept (cursor + 1) rfl
          exact ⟨count + 1, by omega, outcome, .proceed fetched stepped rest⟩
        | jump target =>
          cases landed : after.indexOf target with
          | error fault => exact ⟨1, by omega, _, .astray fetched stepped landed⟩
          | ok next =>
            have ahead := lt_of_jump leads fetched stepped landed
            obtain ⟨count, few, outcome, rest⟩ := ih (code.length - next) (by omega) kept next rfl
            exact ⟨count + 1, by omega, outcome, .jump fetched stepped landed rest⟩

/-- A place in front of all the others of an ascending list. -/
theorem pairwise_cons_of_lt {next : Nat} {rest : List Nat} (ahead : cursor < next)
    (sorted : rest.Pairwise (· < ·)) (least : ∀ passed ∈ rest, next ≤ passed) :
    (cursor :: rest).Pairwise (· < ·) ∧ ∀ passed ∈ cursor :: rest, cursor ≤ passed := by
  have behind (passed : Nat) (member : passed ∈ rest) : cursor < passed :=
    Nat.lt_of_lt_of_le ahead (least passed member)
  exact ⟨List.pairwise_cons.2 ⟨behind, sorted⟩, List.forall_mem_cons.2
    ⟨Nat.le_refl cursor, fun passed member => Nat.le_of_lt (behind passed member)⟩⟩

/-- Instructions are executed in the order of the code, from the cursor on. The induction is on
the instructions left. -/
theorem pairwise_trail (leads : context.LeadsForward code) (left cursor : Nat) :
    (trail code left cursor context).Pairwise (· < ·) ∧
      ∀ passed ∈ trail code left cursor context, cursor ≤ passed := by
  induction left generalizing context cursor with
  | zero =>
    have none : trail code 0 cursor context = [] := by
      unfold trail
      cases code[cursor]? <;> rfl
    rw [none]
    exact ⟨.nil, List.forall_mem_nil _⟩
  | succ left ih =>
    have alone : [cursor].Pairwise (· < ·) ∧ ∀ passed ∈ [cursor], cursor ≤ passed :=
      ⟨List.pairwise_singleton _ cursor, List.forall_mem_singleton.2 (Nat.le_refl cursor)⟩
    cases fetched : code[cursor]? with
    | none =>
      unfold trail
      rw [fetched]
      exact ⟨.nil, List.forall_mem_nil _⟩
    | some instruction =>
      rw [trail_succ fetched]
      cases stepped : step instruction (context.at instruction) with
      | error fault after => exact alone
      | ok next after =>
        have kept := leads.of_step stepped
        cases next with
        | finish => exact alone
        | proceed =>
          obtain ⟨sorted, least⟩ := ih kept (cursor + 1)
          exact pairwise_cons_of_lt (Nat.lt_succ_self cursor) sorted least
        | jump target =>
          dsimp only
          cases landed : after.indexOf target with
          | error fault => exact alone
          | ok next =>
            obtain ⟨sorted, least⟩ := ih kept next
            exact pairwise_cons_of_lt (lt_of_jump leads fetched stepped landed)
              sorted least

end Forward

/-- Code that jumps forward only always finishes. Its offsets are 64-bit words that grow, and each
branch aims behind itself. It starts from any state that was made for this code, or whose offsets at
least send no branch back. Then under every limit that is zero or at least the length of the code,
the run is the iteration of steps, which halts. It executes each instruction at most once and in the
order of the code, and it is not cut off. -/
theorem run_halts_of_aimsForward {code : List Instruction} (ascending : Ascending code)
    (addressed : ∀ instruction ∈ code, instruction.offset < UInt64.size)
    (forward : ∀ instruction ∈ code, instruction.aimsForward = true) (limits : Limits)
    (enough : limits.maxInstructions = 0 ∨ code.length ≤ limits.maxInstructions.toNat)
    (context : Context)
    (indexed : context.starts = offsets code ∨ context.LeadsForward code) :
    let passed := trail code limits.allowance 0 context
    Halts code passed.length 0 context (run limits code context) ∧
      passed.length ≤ code.length ∧ passed.Pairwise (· < ·) ∧
      (∀ executed limit,
        run limits code context ≠ .error (.instructionLimitExceeded executed limit)) ∧
      run limits code context ≠ .error .stepCounterExhausted := by
  intro passed
  have leads : context.LeadsForward code :=
    indexed.elim (leadsForward_of_aimsForward ascending forward) id
  have roomy : code.length ≤ limits.allowance := by
    unfold Limits.allowance
    split
    · exact ascending.length_le addressed
    · rename_i limited
      exact enough.resolve_left limited
  obtain ⟨count, few, outcome, halts⟩ := exists_halts_of_leadsForward leads 0
  have within : count ≤ limits.allowance := by omega
  have ends : run limits code context = outcome := by
    rw [run, halts.runFrom_eq, if_pos within]
  have length : passed.length = count := halts.length_trail within
  rw [ends, length]
  exact ⟨halts, few, (pairwise_trail leads _ 0).1,
    fun executed limit same => halts.not_cutsOff same trivial,
    fun same => halts.not_cutsOff same trivial⟩

/-- A conditional jump over a return and a jump over a load, under the least limit: the run passes
five of the eight instructions. -/
theorem run_halts_of_aimsForward_of_jumps :
    let code := settle 0 [.ldloc 0, .ldcI4 1, .branch 0x2E 6, .ldcI4 5, .ret, .branch 0x38 13,
      .ldcI4 9, .ldcI4 7]
    let locals := FiniteMap.empty.set 0 (.int32 1)
    let context : Context := { Context.ofCode code with locals }
    Ascending code ∧ (∀ instruction ∈ code, instruction.offset < UInt64.size) ∧
      (∀ instruction ∈ code, instruction.aimsForward = true) ∧
      code.length ≤ (8 : UInt64).toNat ∧ context.starts = offsets code ∧
      trail code 8 0 context = [0, 1, 2, 5, 7] ∧
      Halts code 5 0 context (.ok { context with stack := [.int32 7], position := 13 }) := by
  intro code locals context
  have ascending : Ascending code := ascending_settle 0 _ (by decide)
  have addressed : ∀ instruction ∈ code, instruction.offset < UInt64.size := by decide
  have forward : ∀ instruction ∈ code, instruction.aimsForward = true := by decide
  have enough : code.length ≤ (8 : UInt64).toNat := by decide
  have own : context.starts = offsets code := rfl
  have passed : trail code 8 0 context = [0, 1, 2, 5, 7] := by decide
  have ends : run ⟨8⟩ code context = .ok { context with stack := [.int32 7], position := 13 } := by
    rfl
  obtain ⟨halts, -⟩ :=
    run_halts_of_aimsForward ascending addressed forward ⟨8⟩ (.inr enough) context (.inl own)
  refine ⟨ascending, addressed, forward, enough, own, passed, ?_⟩
  rw [← ends]
  change Halts code (trail code 8 0 context).length 0 context (run ⟨8⟩ code context) at halts
  rwa [passed] at halts

/-- A context that was made for a single `ret` at offset five sends the jump to that offset back to
the first instruction. So a run in it never halts, and every limit cuts it off. -/
theorem not_run_halts_of_aimsForward :
    let code := [Instruction.nop, (Instruction.branch 0x2B 5).placedAt 1,
      Instruction.nop.placedAt 3, Instruction.nop.placedAt 4, Instruction.ret.placedAt 5]
    let context := Context.ofCode [Instruction.ret.placedAt 5]
    Ascending code ∧ (∀ instruction ∈ code, instruction.offset < UInt64.size) ∧
      (∀ instruction ∈ code, instruction.aimsForward = true) ∧
      (∀ count outcome, ¬ Halts code count 0 context outcome) ∧
      trail code 5 0 context = [0, 1, 0, 1, 0] ∧
      run ⟨5⟩ code context = .error (.instructionLimitExceeded 5 5) := by
  intro code context
  have ascending : Ascending code := by
    unfold Ascending
    decide
  have addressed : ∀ instruction ∈ code, instruction.offset < UInt64.size := by decide
  have forward : ∀ instruction ∈ code, instruction.aimsForward = true := by decide
  have never (count : Nat) (outcome : Except Fault Context) :
      ¬ Halts code count 0 context outcome := by
    intro halts
    -- Where the last instruction stood does not matter for what is executed next, ...
    have again : Halts code count 0 { context with position := 1 } outcome := by
      cases halts with
      | behind gone => cases gone
      | finish here done => exact .finish here done
      | fault here failed => exact .fault here failed
      | astray here done lost => exact .astray here done lost
      | proceed here done rest => exact .proceed here done rest
      | jump here done lands rest => exact .jump here done lands rest
    -- ... so halting takes two instructions more than it takes.
    have longer : Halts code (count + 2) 0 context outcome :=
      .proceed rfl rfl (.jump rfl rfl rfl again)
    have same := (halts.unique longer).1
    omega
  have cutOff : run ⟨5⟩ code context = .error (.instructionLimitExceeded 5 5) :=
    runFrom_eq_exceeded fun count _ => never count
  exact ⟨ascending, addressed, forward, never, by decide, cutOff⟩

end ConstantRecovery
