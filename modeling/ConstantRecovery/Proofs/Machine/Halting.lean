import ConstantRecovery.Proofs.Machine.Execution

/-!
# What a limit changes

Without a limit, steps follow each other until control leaves the stream, an instruction
finishes or fails, or a jump goes where no instruction starts. A run is that iteration cut
off: where the iteration halts within the limit the run has its outcome, and otherwise the
run fails with the limit. So a greater limit changes nothing about a run that was not cut
off, and the limit a run needs is the number of instructions it executes.
-/

namespace ConstantRecovery

/-- Steps from a cursor and a state halt with an outcome after so many instructions. No limit
plays a part. -/
inductive Halts (code : List Instruction) : Nat → Nat → Context → Except Fault Context → Prop
  /-- Control has left the stream. -/
  | behind {cursor : Nat} {context : Context} (gone : code[cursor]? = none) :
      Halts code 0 cursor context (.ok context)
  /-- The instruction ends the run. -/
  | finish {cursor : Nat} {context after : Context} {instruction : Instruction}
      (here : code[cursor]? = some instruction)
      (done : step instruction (context.at instruction) = .ok .finish after) :
      Halts code 1 cursor context (.ok after)
  /-- The instruction fails. -/
  | fault {cursor : Nat} {context after : Context} {instruction : Instruction} {fault : Fault}
      (here : code[cursor]? = some instruction)
      (failed : step instruction (context.at instruction) = .error fault after) :
      Halts code 1 cursor context (.error fault)
  /-- The instruction jumps to where no instruction starts. -/
  | astray {cursor target : Nat} {context after : Context} {instruction : Instruction}
      {fault : Fault} (here : code[cursor]? = some instruction)
      (done : step instruction (context.at instruction) = .ok (.jump target) after)
      (lost : after.indexOf target = .error fault) :
      Halts code 1 cursor context (.error fault)
  /-- The instruction goes on to the next one. -/
  | proceed {count cursor : Nat} {context after : Context} {instruction : Instruction}
      {outcome : Except Fault Context} (here : code[cursor]? = some instruction)
      (done : step instruction (context.at instruction) = .ok .proceed after)
      (rest : Halts code count (cursor + 1) after outcome) :
      Halts code (count + 1) cursor context outcome
  /-- The instruction jumps, and goes on at what is found there. -/
  | jump {count cursor next target : Nat} {context after : Context} {instruction : Instruction}
      {outcome : Except Fault Context} (here : code[cursor]? = some instruction)
      (done : step instruction (context.at instruction) = .ok (.jump target) after)
      (lands : after.indexOf target = .ok next) (rest : Halts code count next after outcome) :
      Halts code (count + 1) cursor context outcome

section Limited

variable {limits : Limits} {code : List Instruction} {cursor : Nat} {context : Context}

/-- A run is the iteration of steps, cut off at the limit. The induction follows the iteration. -/
theorem Halts.runFrom_eq {count : Nat} {outcome : Except Fault Context}
    (halts : Halts code count cursor context outcome) (left : Nat) :
    runFrom limits code left cursor context =
      if count ≤ left then outcome else .error limits.exceeded := by
  induction halts generalizing left with
  | behind gone => rw [runFrom_of_none gone, if_pos (Nat.zero_le left)]
  | finish here done => exact finishes_of_finish here done left
  | fault here failed =>
    cases left with
    | zero => rw [runFrom_zero here, if_neg (by omega)]
    | succ left => rw [runFrom_succ here, failed, if_pos (by omega)]
  | astray here done lost =>
    cases left with
    | zero => rw [runFrom_zero here, if_neg (by omega)]
    | succ left => simp only [runFrom_succ here, done, lost, if_pos (Nat.le_add_left 1 left)]
  | proceed here done _ ih =>
    rw [executes_of_proceed here done left, ih, ite_le_sub, Nat.add_comm 1]
  | jump here done lands _ ih =>
    rw [executes_of_jump here done lands left, ih, ite_le_sub, Nat.add_comm 1]

/-- A run is cut off where the iteration does not halt in time. The induction is on the
instructions left. -/
theorem runFrom_eq_exceeded {left : Nat}
    (goesOn : ∀ count ≤ left, ∀ outcome, ¬ Halts code count cursor context outcome) :
    runFrom limits code left cursor context = .error limits.exceeded := by
  induction left generalizing cursor context with
  | zero =>
    cases fetched : code[cursor]? with
    | none => exact absurd (.behind fetched) (goesOn 0 (Nat.le_refl 0) _)
    | some instruction => exact runFrom_zero fetched
  | succ left ih =>
    have first : 1 ≤ left + 1 := Nat.le_add_left 1 left
    cases fetched : code[cursor]? with
    | none => exact absurd (.behind fetched) (goesOn 0 (Nat.zero_le _) _)
    | some instruction =>
      rw [runFrom_succ fetched]
      cases stepped : step instruction (context.at instruction) with
      | error fault after => exact absurd (.fault fetched stepped) (goesOn 1 first _)
      | ok next after =>
        cases next with
        | finish => exact absurd (.finish fetched stepped) (goesOn 1 first _)
        | proceed =>
          refine ih fun count fewer outcome rest => ?_
          exact goesOn (count + 1) (by omega) outcome (.proceed fetched stepped rest)
        | jump target =>
          dsimp only
          cases landed : after.indexOf target with
          | error fault => exact absurd (.astray fetched stepped landed) (goesOn 1 first _)
          | ok cursor =>
            refine ih fun count fewer outcome rest => ?_
            exact goesOn (count + 1) (by omega) outcome (.jump fetched stepped landed rest)

/-- A run that was not cut off is the same where more instructions are allowed. -/
theorem run_eq_of_allowance_le {larger : Limits} (more : limits.allowance ≤ larger.allowance)
    (unexceeded : run limits code context ≠ .error limits.exceeded) :
    run larger code context = run limits code context := by
  by_cases halts : ∃ count ≤ limits.allowance, ∃ outcome, Halts code count 0 context outcome
  · obtain ⟨count, within, outcome, halts⟩ := halts
    have enough : count ≤ larger.allowance := Nat.le_trans within more
    rw [run, run, halts.runFrom_eq, halts.runFrom_eq, if_pos enough, if_pos within]
  · refine absurd (runFrom_eq_exceeded fun count within outcome found => ?_) unexceeded
    exact halts ⟨count, within, outcome, found⟩

end Limited

/-- A greater limit allows no less, and no limit allows as much as any. -/
theorem Limits.allowance_le {limits larger : Limits} (limited : limits.maxInstructions ≠ 0)
    (above : larger.maxInstructions = 0 ∨ limits.maxInstructions ≤ larger.maxInstructions) :
    limits.allowance ≤ larger.allowance := by
  have allowance : limits.allowance = limits.maxInstructions.toNat := if_neg limited
  rw [allowance, Limits.allowance]
  split
  · exact Nat.le_of_lt limits.maxInstructions.toNat_lt
  · rename_i bounded
    exact UInt64.le_iff_toNat_le.1 (above.resolve_left bounded)

/-- The iteration halts at most once: what it comes to and how long it takes are determined. -/
theorem Halts.unique {code : List Instruction} {cursor first second : Nat} {context : Context}
    {outcome other : Except Fault Context} (one : Halts code first cursor context outcome)
    (two : Halts code second cursor context other) : first = second ∧ outcome = other := by
  -- A limit that only one of two lengths keeps would make the outcome its own fault, and no outcome
  -- is the fault of two limits.
  have kept {short long : Nat} {early late : Except Fault Context}
      (sooner : Halts code short cursor context early)
      (later : Halts code long cursor context late) : long ≤ short := by
    refine Nat.not_lt.1 fun longer => ?_
    have cut (limits : Limits) : early = .error limits.exceeded := by
      have same : runFrom limits code short cursor context = _ := later.runFrom_eq short
      rwa [sooner.runFrom_eq, if_pos (Nat.le_refl short), if_neg (Nat.not_le.2 longer)] at same
    have same := (cut .unlimited).symm.trans (cut .standard)
    exact absurd (Except.error.inj same) (by decide)
  have same : runFrom .standard code first cursor context = _ := one.runFrom_eq first
  rw [two.runFrom_eq, if_pos (kept one two), if_pos (Nat.le_refl first)] at same
  exact ⟨Nat.le_antisymm (kept two one) (kept one two), same.symm⟩

/-- The step limit is exact. A limited run has the outcome of the iteration of steps where that
halts within the limit, and else fails with the limit, whether the iteration halts later or never.
A run that was not cut off is the same under every greater limit and under none, and a routine
that needs as many instructions as the limit succeeds. -/
theorem run_limited (limits : Limits) (limited : limits.maxInstructions ≠ 0)
    (code : List Instruction) (context : Context) :
    let limit := limits.maxInstructions.toNat
    let cutOff := Fault.instructionLimitExceeded limit limit
    (∀ count outcome, Halts code count 0 context outcome →
      run limits code context = if count ≤ limit then outcome else .error cutOff) ∧
    ((∀ count outcome, ¬ Halts code count 0 context outcome) →
      run limits code context = .error cutOff) ∧
    (∀ larger : Limits,
      larger.maxInstructions = 0 ∨ limits.maxInstructions ≤ larger.maxInstructions →
        (∀ executed bound,
          run limits code context ≠ .error (.instructionLimitExceeded executed bound)) →
        run larger code context = run limits code context) ∧
    ∀ (routine : Routine) (after : Context), routine.limits = limits →
      Halts routine.code limit 0 routine.start (.ok after) → routine.emulate = .ok after := by
  intro limit cutOff
  have allowance : limits.allowance = limit := if_neg limited
  have exceeded : limits.exceeded = cutOff := if_neg limited
  refine ⟨fun count outcome halts => ?_, fun never => ?_, fun larger above unexceeded => ?_,
    fun routine after same halts => ?_⟩
  · rw [run, halts.runFrom_eq, allowance, exceeded]
  · rw [run, runFrom_eq_exceeded fun count _ => never count, exceeded]
  · refine run_eq_of_allowance_le (Limits.allowance_le limited above) ?_
    rw [exceeded]
    exact unexceeded limit limit
  · rw [Routine.emulate, same, run, halts.runFrom_eq, allowance, if_pos (Nat.le_refl limit)]

/-- A loop that takes ten instructions to run off the end: ten are enough, nine are not, and a
greater limit changes nothing. -/
theorem run_limited_of_loop :
    let code := settle 0 [.ldloc 0, .ldcI4 0, .branch 0x2E 8, .ldcI4 0, .stloc 0, .branch 0x2B 0,
      .nop]
    let locals := FiniteMap.empty.set 0 (.int32 1)
    let routine : Routine :=
      { code, limits := ⟨10⟩, arguments := .empty, locals, arrays := [] }
    let after : Context :=
      { routine.start with locals := locals.set 0 (.int32 0), position := 8 }
    (10 : UInt64) ≠ 0 ∧ (9 : UInt64) ≠ 0 ∧
      Halts code 10 0 routine.start (.ok after) ∧ routine.emulate = .ok after ∧
      run ⟨9⟩ code routine.start = .error (.instructionLimitExceeded 9 9) ∧
      run .unlimited code routine.start = .ok after := by
  intro code locals routine after
  have ten : (10 : UInt64) ≠ 0 := by decide
  have nine : (9 : UInt64) ≠ 0 := by decide
  have halts : Halts code 10 0 routine.start (.ok after) := by
    iterate 5 refine .proceed rfl rfl ?_
    refine .jump rfl rfl rfl ?_
    iterate 2 refine .proceed rfl rfl ?_
    refine .jump rfl rfl rfl ?_
    refine .proceed rfl rfl ?_
    exact .behind rfl
  obtain ⟨-, -, larger, exactly⟩ := run_limited ⟨10⟩ ten code routine.start
  have done := exactly routine after rfl halts
  refine ⟨ten, nine, halts, done, (run_limited ⟨9⟩ nine code routine.start).1 10 _ halts, ?_⟩
  change run ⟨10⟩ code routine.start = .ok after at done
  rw [larger .unlimited (.inl rfl), done]
  intro executed bound same
  rw [done] at same
  cases same

end ConstantRecovery
