import ConstantRecovery.Proofs.Patch.Exactness
import ConstantRecovery.Proofs.Patch.Renumbering
import ConstantRecovery.Proofs.Patch.Stranding

/-!
# Forwarding jumps in front of a call

A jump between a literal and a getter call that goes to the call does nothing, and neither do
several in a row. The patcher removes the one in front of the call and does not look again. So one
such jump changes no outcome; from the second on the call has a jump in front of it where its
literal should be, and it is left with a failure.
-/

namespace ConstantRecovery

/-- A call site of a getter in a body, with jumps from behind the literal to the call. -/
structure ForwardedSite (patcher : Patcher) where
  /-- What is in front of the literal. -/
  front : List Instruction
  literal : Instruction
  /-- What only forwards from the literal to the call. -/
  jumps : List Instruction
  call : Instruction
  /-- What is behind the call. -/
  rest : List Instruction
  loads : literal.isInt32Load = true
  /-- The literal itself is no jump to the call. Nothing is asked about other jumps to it. -/
  stays : literal.forwardsTo call.offset = false
  /-- The jumps are no literals at the same time. -/
  forwards : ∀ jump ∈ jumps, jump.forwardsTo call.offset = true ∧ jump.isInt32Load = false
  calls : call.isGetterCall patcher.getter patcher.resolver = true

namespace ForwardedSite

variable {patcher : Patcher}

/-- The body with the jumps. -/
def body (site : ForwardedSite patcher) : List Instruction :=
  site.front ++ site.literal :: (site.jumps ++ site.call :: site.rest)

/-- The body without the jumps. -/
def direct (site : ForwardedSite patcher) : List Instruction :=
  site.front ++ site.literal :: site.call :: site.rest

/-- How many getter calls are in front of the call. -/
def number (site : ForwardedSite patcher) : Nat := (patcher.calls site.front).length

end ForwardedSite

/-- Two outcomes of patching are the same as far as a call site goes, of which `number` getter calls
are in front: both count the same, both or none have a failure, and where the call site is replaced
both bodies are the same. -/
structure AgreeAt (number : Nat) (first second : PatchReport × Method) : Prop where
  /-- The reports agree. -/
  reports : first.1.Agrees second.1
  /-- Where more calls were replaced than that, the bodies are the same. -/
  bodies : number < first.1.replaced → first.2.body = second.2.body

/-- An outcome may be taken for another one with the same body whose report agrees. -/
theorem AgreeAt.congr_right {number : Nat} {first second third : PatchReport × Method}
    (reports : second.1.Agrees third.1) (bodies : second.2.body = third.2.body) :
    AgreeAt number first second ↔ AgreeAt number first third :=
  ⟨fun same => ⟨same.reports.trans reports, fun done => (same.bodies done).trans bodies⟩,
    fun same => ⟨same.reports.trans reports.symm, fun done => (same.bodies done).trans bodies.symm⟩⟩

/-- What a getter call makes of a rewrite depends on what is put out only behind its forward. -/
theorem Patcher.advance_congr (patcher : Patcher) (method : Method) {report : PatchReport}
    {first second : List Instruction} {call : Instruction}
    (calls : call.isGetterCall patcher.getter patcher.resolver = true)
    (same : withoutForward first call = withoutForward second call) :
    patcher.advance method ⟨report, first, false⟩ call =
      patcher.advance method ⟨report, second, false⟩ call := by
  cases found : patcher.loadFor (withoutForward first call) call with
  | ok pair =>
    rw [advance_of_ok method rfl calls found, advance_of_ok method rfl calls (same ▸ found), same]
  | error error =>
    rw [advance_of_error method rfl calls found, advance_of_error method rfl calls (same ▸ found),
      same]

/-- What forwards to an offset is no getter call. -/
theorem Instruction.isGetterCall_of_forwardsTo {instruction : Instruction} {target : Nat}
    {getter : Token} {resolver : Resolver} (forwards : instruction.forwardsTo target = true) :
    instruction.isGetterCall getter resolver = false := by
  apply isGetterCall_of_no_token
  rw [forwardsTo, Bool.and_eq_true, decide_eq_true_iff, target?] at forwards
  rw [token?]
  cases works : instruction.operand with
  | token token =>
    rw [works] at forwards
    cases forwards.2
  | _ => rfl

/-- Of a front whose last instruction is known, that one goes if it forwards to the call. -/
theorem withoutForward_concat (front : List Instruction) (last call : Instruction) :
    withoutForward (front ++ [last]) call =
      if last.forwardsTo call.offset then front else front ++ [last] := by
  rw [withoutForward, List.getLast?_concat, Option.any_some, List.dropLast_concat]

/-! ## What a rewrite has counted -/

/-- Behind some getter calls a rewrite that goes on has counted all of them and has no failure; one
that has stopped has counted fewer. -/
structure Rewrite.Tallies (count : Nat) (done : Rewrite) : Prop where
  running : done.stopped = false → done.report.replaced = count ∧ done.report.failures = []
  stopped : done.stopped = true → done.report.replaced < count

namespace Rewrite

variable (patcher : Patcher) {count : Nat} {done : Rewrite}

/-- A step counts the getter call that it replaces, or stops. -/
theorem Tallies.advance (tallies : Tallies count done) (method : Method) (next : Instruction) :
    Tallies (count + (patcher.calls [next]).length) (patcher.advance method done next) := by
  rcases patcher.advance_cases method done next with
    ⟨passes, step⟩ | ⟨running, calls, kind, load, found, step⟩ | ⟨running, calls, error, -, step⟩
  · rw [step]
    constructor
    · intro running
      have other := passes.resolve_left (Bool.eq_false_iff.1 running)
      rw [patcher.calls_cons_of_not [] other]
      exact tallies.running running
    · intro stopped
      exact Nat.lt_of_lt_of_le (tallies.stopped stopped) (Nat.le_add_right _ _)
  · obtain ⟨all, clean⟩ := tallies.running running
    obtain ⟨constant, -, rfl, -⟩ := patcher.exists_constant_of_loadFor found
    rw [step, patcher.calls_cons_of_isGetterCall [] calls]
    refine ⟨fun _ => ⟨?_, ?_⟩, nofun⟩
    · rw [PatchReport.replaced_record _ constant.kind_ne_object, all]
      rfl
    · rw [← clean]
      cases constant.kind <;> rfl
  · obtain ⟨all, -⟩ := tallies.running running
    rw [step, patcher.calls_cons_of_isGetterCall [] calls]
    refine ⟨nofun, fun _ => ?_⟩
    show done.report.replaced < count + 1
    omega

/-- A rewrite counts the getter calls that it replaces, up to where it stops. -/
theorem Tallies.foldl (tallies : Tallies count done) (method : Method) (rest : List Instruction) :
    Tallies (count + (patcher.calls rest).length) (rest.foldl (patcher.advance method) done) := by
  induction rest generalizing count done with
  | nil => exact tallies
  | cons next rest ih =>
    have split : patcher.calls (next :: rest) = patcher.calls [next] ++ patcher.calls rest :=
      patcher.calls_append [next] rest
    rw [split, List.length_append, ← Nat.add_assoc]
    exact ih (tallies.advance patcher method next)

/-- A rewrite never counts less than it has. -/
theorem replaced_le_foldl (method : Method) (rest : List Instruction) :
    done.report.replaced ≤ (rest.foldl (patcher.advance method) done).report.replaced := by
  induction rest generalizing done with
  | nil => exact Nat.le_refl _
  | cons next rest ih =>
    refine Nat.le_trans ?_ ih
    rcases patcher.advance_cases method done next with
      ⟨-, step⟩ | ⟨-, -, kind, load, found, step⟩ | ⟨-, -, error, -, step⟩
    · exact Nat.le_of_eq (congrArg (·.report.replaced) step.symm)
    · obtain ⟨constant, -, rfl, -⟩ := patcher.exists_constant_of_loadFor found
      rw [step, PatchReport.replaced_record _ constant.kind_ne_object]
      exact Nat.le_succ _
    · exact Nat.le_of_eq (congrArg (·.report.replaced) step.symm)

/-- Instructions that are no getter calls are put out. -/
theorem foldl_of_no_calls (method : Method) {rest : List Instruction}
    (others : ∀ instruction ∈ rest,
      instruction.isGetterCall patcher.getter patcher.resolver = false) :
    rest.foldl (patcher.advance method) done = { done with output := done.output ++ rest } := by
  induction rest generalizing done with
  | nil => rw [List.append_nil]; rfl
  | cons next rest ih =>
    obtain ⟨here, others⟩ := List.forall_mem_cons.1 others
    rw [List.foldl_cons, Patcher.advance_of_passes method (.inr here), ih others, List.append_assoc]
    rfl

end Rewrite

/-! ## A rewrite at a call site that is forwarded to -/

namespace ForwardedSite

variable {patcher : Patcher} (site : ForwardedSite patcher) (method : Method)

/-- The state of a rewrite behind what is in front of the literal. -/
def reached : Rewrite :=
  site.front.foldl (patcher.advance method) { report := .ofMethod, output := [], stopped := false }

/-- Literal and jumps are put out before the call is looked at. -/
theorem rewritten_body :
    patcher.rewritten { method with body := site.body } =
      site.rest.foldl (patcher.advance method) (patcher.advance method
        { site.reached method with
          output := (site.reached method).output ++ site.literal :: site.jumps } site.call) := by
  have others : ∀ instruction ∈ site.literal :: site.jumps,
      instruction.isGetterCall patcher.getter patcher.resolver = false := by
    refine List.forall_mem_cons.2 ⟨Instruction.isGetterCall_of_isInt32Load site.loads, ?_⟩
    exact fun jump member => Instruction.isGetterCall_of_forwardsTo (site.forwards jump member).1
  show site.body.foldl (patcher.advance method) _ = _
  rw [body, List.foldl_append, ← List.cons_append, List.foldl_append,
    Rewrite.foldl_of_no_calls patcher method others, List.foldl_cons]
  rfl

/-- The call site without its jumps. -/
def unforwarded : ForwardedSite patcher :=
  { site with jumps := [], forwards := fun _ inside => absurd inside List.not_mem_nil }

/-- At most one jump is gone when the call is looked at. -/
theorem withoutForward_few (few : site.jumps.length ≤ 1) (output : List Instruction) :
    withoutForward (output ++ site.literal :: site.jumps) site.call = output ++ [site.literal] := by
  have forwards := site.forwards
  generalize site.jumps = jumps at few forwards
  match jumps with
  | [] => rw [withoutForward_concat, site.stays, if_neg Bool.false_ne_true]
  | [jump] =>
    have split : output ++ [site.literal, jump] = output ++ [site.literal] ++ [jump] := by
      rw [List.append_assoc, List.singleton_append]
    rw [split, withoutForward_concat, (forwards jump List.mem_cons_self).1, if_pos rfl]
  | _ :: _ :: _ => cases few; contradiction

/-- Of several jumps the last one is gone when the call is looked at, and the call has no literal in
front of it. -/
theorem advance_call_many (many : 2 ≤ site.jumps.length) (report : PatchReport)
    (output : List Instruction) :
    ∃ jump left, site.jumps.dropLast.getLast? = some jump ∧
      patcher.advance method ⟨report, output ++ site.literal :: site.jumps, false⟩ site.call =
        { report := report.fail method site.call.offset
            (.invalidCallSite (.noLiteral site.call jump))
          output := left
          stopped := true } := by
  have forwards := site.forwards
  generalize site.jumps = jumps at many forwards ⊢
  -- The last jump is the one that goes; the one in front of it is what the call finds.
  rcases List.eq_nil_or_concat jumps with rfl | ⟨others, last, rfl⟩
  · cases many
  rw [List.concat_eq_append] at many forwards ⊢
  rcases List.eq_nil_or_concat others with rfl | ⟨others, jump, rfl⟩
  · cases many
    contradiction
  rw [List.concat_eq_append] at forwards ⊢
  have loads : jump.int32Literal? = none :=
    Option.not_isSome_iff_eq_none.1 (Bool.eq_false_iff.1 (forwards jump (by simp)).2)
  have gone : withoutForward (output ++ site.literal :: (others ++ [jump] ++ [last])) site.call =
      output ++ site.literal :: others ++ [jump] := by
    have split : output ++ site.literal :: (others ++ [jump] ++ [last]) =
        output ++ site.literal :: others ++ [jump] ++ [last] := by simp
    rw [split, withoutForward_concat, (forwards last (by simp)).1, if_pos rfl]
  have found : patcher.loadFor (output ++ site.literal :: others ++ [jump]) site.call =
      .error (.invalidCallSite (.noLiteral site.call jump)) := by
    rw [Patcher.loadFor, List.getLast?_concat]
    simp only [loads]
  refine ⟨jump, _, ?_, Patcher.advance_of_error method rfl site.calls (gone ▸ found)⟩
  rw [List.dropLast_concat, List.getLast?_concat]

/-- How rewrites of a body with the jumps of a call site and without them compare. -/
inductive Compares (forwarded direct : Rewrite) : Prop
  /-- A call site in front fails. -/
  | earlier (reports : forwarded.report = direct.report)
      (short : direct.report.replaced < site.number)
  /-- The one jump is gone, or there is none. -/
  | few (few : site.jumps.length ≤ 1) (same : forwarded = direct)
  /-- A jump is left, and the call site fails; without the jumps it may be replaced. -/
  | many {report : PatchReport} {jump : Instruction} (many : 2 ≤ site.jumps.length)
      (all : report.replaced = site.number) (clean : report.failures = [])
      (left : site.jumps.dropLast.getLast? = some jump)
      (fails : forwarded.report = report.fail method site.call.offset
        (.invalidCallSite (.noLiteral site.call jump)))
      (without : (∃ error, direct.report = report.fail method site.call.offset error) ∨
        site.number < direct.report.replaced)

/-- What the rewrite without the jumps comes to at the call site: a failure, or one more replaced.
-/
theorem fails_or_replaced_direct {report : PatchReport} (all : report.replaced = site.number)
    (output : List Instruction) :
    let direct := site.rest.foldl (patcher.advance method)
      (patcher.advance method ⟨report, output ++ [site.literal], false⟩ site.call)
    (∃ error, direct.report = report.fail method site.call.offset error) ∨
      site.number < direct.report.replaced := by
  intro direct
  rcases patcher.advance_cases method ⟨report, output ++ [site.literal], false⟩ site.call with
    ⟨passes, -⟩ | ⟨-, -, kind, load, found, step⟩ | ⟨-, -, error, -, step⟩
  · rcases passes with stopped | other
    · cases stopped
    · rw [site.calls] at other
      cases other
  · right
    obtain ⟨constant, -, rfl, -⟩ := patcher.exists_constant_of_loadFor found
    have counted := report.replaced_record constant.kind_ne_object
    have more : (patcher.advance method ⟨report, output ++ [site.literal], false⟩
        site.call).report.replaced ≤ direct.report.replaced :=
      Rewrite.replaced_le_foldl patcher method site.rest
    rw [step, counted] at more
    omega
  · left
    refine ⟨error, ?_⟩
    show (site.rest.foldl _ (patcher.advance method _ site.call)).report = _
    rw [step, patcher.foldl_advance_stopped]

/-- The jumps make no difference unless there are several and the call site is reached. -/
theorem compares_rewritten :
    site.Compares method (patcher.rewritten { method with body := site.body })
      (patcher.rewritten { method with body := site.direct }) := by
  have tallies : Rewrite.Tallies site.number (site.reached method) := by
    have start : Rewrite.Tallies 0 ⟨.ofMethod, [], false⟩ := ⟨fun _ => ⟨rfl, rfl⟩, nofun⟩
    have counted := start.foldl patcher method site.front
    rwa [Nat.zero_add] at counted
  have forwarded := site.rewritten_body method
  have direct := site.unforwarded.rewritten_body method
  change patcher.rewritten { method with body := site.direct } =
    site.rest.foldl (patcher.advance method) (patcher.advance method
      { site.reached method with
        output := (site.reached method).output ++ [site.literal] } site.call) at direct
  rw [forwarded, direct]
  -- A rewrite that has stopped in front of the literal does not look at the call any more.
  generalize site.reached method = reached at tallies ⊢
  obtain ⟨report, output, stopped⟩ := reached
  cases stopped with
  | true =>
    rw [Patcher.advance_of_passes method (.inl rfl), Patcher.advance_of_passes method (.inl rfl),
      patcher.foldl_advance_stopped, patcher.foldl_advance_stopped]
    exact .earlier rfl (tallies.stopped rfl)
  | false =>
    obtain ⟨all, clean⟩ := tallies.running rfl
    rcases Nat.lt_or_ge 1 site.jumps.length with many | few
    · obtain ⟨jump, left, last, step⟩ := site.advance_call_many method many report output
      refine .many many all clean last ?_ (site.fails_or_replaced_direct method all output)
      rw [step, patcher.foldl_advance_stopped]
    · have same : patcher.advance method ⟨report, output ++ site.literal :: site.jumps, false⟩
          site.call = patcher.advance method ⟨report, output ++ [site.literal], false⟩ site.call := by
        apply patcher.advance_congr method site.calls
        rw [site.withoutForward_few few]
        exact (site.unforwarded.withoutForward_few (Nat.zero_le _) output).symm
      exact .few few (congrArg (site.rest.foldl (patcher.advance method)) same)

variable {site method} {forwarded direct : Rewrite}

/-- Outcomes differ exactly if there are several jumps and the call site is replaced without them.
-/
theorem Compares.agreeAt_iff (compares : site.Compares method forwarded direct) :
    AgreeAt site.number (forwarded.report, { method with body := renumber forwarded.output })
        (direct.report, { method with body := renumber direct.output }) ↔
      site.jumps.length ≤ 1 ∨ direct.report.replaced ≤ site.number := by
  cases compares with
  | earlier reports short =>
    refine ⟨fun _ => .inr (Nat.le_of_lt short), fun _ => ⟨reports ▸ .refl _, fun done => ?_⟩⟩
    change site.number < forwarded.report.replaced at done
    rw [reports] at done
    omega
  | few few same =>
    subst same
    exact ⟨fun _ => .inl few, fun _ => ⟨.refl _, fun _ => rfl⟩⟩
  | @many report jump many all clean left fails without =>
    have stuck : forwarded.report.replaced = site.number := by
      rw [fails]
      exact all
    constructor
    · intro agree
      exact .inr (Nat.le_of_eq (agree.reports.replaced.symm.trans stuck))
    · intro few
      rcases without with ⟨error, fault⟩ | replaced
      · refine ⟨?_, fun done => absurd stuck (Nat.ne_of_gt done)⟩
        show forwarded.report.Agrees direct.report
        rw [fails, fault]
        exact (PatchReport.Agrees.refl report).fail method _ _ _ _
      · omega

/-- Where several jumps keep a call site from being replaced, it fails for the last jump but one. -/
theorem Compares.failures_eq (compares : site.Compares method forwarded direct)
    (many : 2 ≤ site.jumps.length) (replaced : site.number < direct.report.replaced) :
    forwarded.report.replaced = site.number ∧
      ∃ jump, site.jumps.dropLast.getLast? = some jump ∧ forwarded.report.failures =
        [PatchFailure.ofCall method (.invalidCallSite (.noLiteral site.call jump)) site.call] := by
  cases compares with
  | earlier reports short => omega
  | few few => omega
  | @many report jump many all clean left fails without =>
    rw [fails]
    refine ⟨all, jump, left, ?_⟩
    rw [PatchReport.fail, clean]
    rfl

end ForwardedSite

/-- Jumps that forward to a getter call change the outcome of patching exactly if there are several
and the call site is replaced without them. Whatever the body is around the call site, with at most
one jump the report and, where the call site is replaced, the new body are those of the body without
it. With several, where the call site would be replaced, it is the first one that is not, and the
failure says that the last jump but one is no literal. The shorter body may be renumbered before it
is patched. -/
theorem Patcher.patchMethod_forwarded_iff (patcher : Patcher) (unaided : patcher.cleaner? = none)
    (site : ForwardedSite patcher) (method : Method) (sharing : Option Interner) :
    let outcome (body : List Instruction) :=
      ((patcher.patchMethod { method with body }).run sharing).1
    let forwarded := outcome site.body
    let direct := outcome site.direct
    (AgreeAt site.number forwarded direct ↔
      site.jumps.length ≤ 1 ∨ direct.1.replaced ≤ site.number) ∧
    (2 ≤ site.jumps.length → site.number < direct.1.replaced →
      forwarded.1.replaced = site.number ∧ ∃ jump, site.jumps.dropLast.getLast? = some jump ∧
        forwarded.1.failures = [PatchFailure.ofCall method
          (.invalidCallSite (.noLiteral site.call jump)) site.call]) ∧
    (Ascending site.direct → (∀ instruction ∈ site.direct, 0 < instruction.size) →
      JumpsToStarts site.direct →
        (AgreeAt site.number forwarded (outcome (renumber site.direct)) ↔
          site.jumps.length ≤ 1 ∨ direct.1.replaced ≤ site.number)) := by
  intro outcome forwarded direct
  have compares := site.compares_rewritten method
  have long : forwarded = _ := patcher.run_patchMethod_eq_rewritten unaided _ sharing
  have short : direct = _ := patcher.run_patchMethod_eq_rewritten unaided _ sharing
  have agree : AgreeAt site.number forwarded direct ↔
      site.jumps.length ≤ 1 ∨ direct.1.replaced ≤ site.number := by
    rw [long, short]
    exact compares.agreeAt_iff
  refine ⟨agree, ?_, ?_⟩
  · rw [long, short]
    exact compares.failures_eq
  · intro ascending room aims
    obtain ⟨reports, bodies⟩ := patcher.patchMethod_renumber unaided
      { method with body := site.direct } sharing ascending room aims
    exact (AgreeAt.congr_right reports bodies.symm).symm.trans agree

/-- A call site for the number 20 with two jumps to the call. -/
def forwardedTwice : ForwardedSite numberPatcher where
  front := []
  literal := .ldcI4 1
  jumps := [(Instruction.branch 0x2B 5).placedAt 1, (Instruction.branch 0x2B 5).placedAt 3]
  call := (Instruction.call ⟨0x2B000001⟩).placedAt 5
  rest := [Instruction.ret.placedAt 10]
  loads := by decide
  stays := by decide
  forwards := by decide
  calls := by decide

/-- Without jumps the number is loaded; the second of two jumps goes, and the first keeps the call
from its literal. -/
theorem Patcher.patchMethod_forwarded_iff_of_two :
    let site := forwardedTwice
    let outcome (body : List Instruction) :=
      ((numberPatcher.patchMethod ⟨⟨0x06000002⟩, "C::M", body⟩).run none).1
    numberPatcher.cleaner? = none ∧ 2 ≤ site.jumps.length ∧ Ascending site.direct ∧
      (∀ instruction ∈ site.direct, 0 < instruction.size) ∧ JumpsToStarts site.direct ∧
      (outcome site.direct).2.body = settle 0 [.ldcI4 20, .ret] ∧
      ¬ AgreeAt site.number (outcome site.body) (outcome (renumber site.direct)) ∧
      (outcome site.body).1.replaced = 0 ∧ (outcome site.body).1.failures.map (·.offset) = [5] := by
  intro site outcome
  have ascending : Ascending site.direct := by
    unfold Ascending
    decide
  have room : ∀ instruction ∈ site.direct, 0 < instruction.size := by decide
  have aims : JumpsToStarts site.direct := by
    have none : ∀ instruction ∈ site.direct, instruction.isUnconditional = false := by decide
    intro jump inside jumps
    rw [none jump inside] at jumps
    cases jumps
  have replaced : (outcome site.direct).1.replaced = 1 := by decide +kernel
  obtain ⟨-, fails, differ⟩ :=
    numberPatcher.patchMethod_forwarded_iff rfl site ⟨⟨0x06000002⟩, "C::M", []⟩ none
  have reached : site.number < (outcome site.direct).1.replaced := by
    rw [replaced]
    decide
  obtain ⟨none, jump, -, failure⟩ := fails (by decide) reached
  refine ⟨rfl, by decide, ascending, room, aims, by decide +kernel, ?_, none, ?_⟩
  · rw [differ ascending room aims]
    exact not_or.2 ⟨by decide, Nat.not_le.2 reached⟩
  · rw [failure]
    rfl

/-- Jumps that forward to a getter call do change the outcome of the call site, in a body without
gaps where nothing else jumps to them or to the call. -/
theorem Patcher.not_agreeAt :
    ¬ ∀ (patcher : Patcher) (site : ForwardedSite patcher) (method : Method),
      patcher.cleaner? = none → site.body = settle 0 site.body →
        (∀ other ∈ site.direct, ∀ target ∈ other.targets,
          target ≠ site.call.offset ∧ ∀ jump ∈ site.jumps, target ≠ jump.offset) →
          AgreeAt site.number
            ((patcher.patchMethod { method with body := site.body }).run none).1
            ((patcher.patchMethod { method with body := renumber site.direct }).run none).1 := by
  intro agree
  have same := agree numberPatcher forwardedTwice ⟨⟨0x06000002⟩, "C::M", []⟩ rfl (by decide)
    (by decide)
  have counts := same.reports.replaced
  revert counts
  decide +kernel

end ConstantRecovery
