import ConstantRecovery.Patch.Patcher

/-!
# Patching as one pass

The patcher edits a stream under a moving cursor. The same outcome comes from one pass
over the stream that keeps what is in front of the cursor apart from what is not yet
looked at: the pass takes each instruction once, and only a getter call changes what is
in front of it. Sharing of texts plays no part in the outcome.
-/

namespace ConstantRecovery

variable (sharing : Option Interner)

/-- A shared text is the text itself. -/
theorem run_shareText (text : String) : ((shareText text).run sharing).1 = text := by
  cases sharing with
  | none => rfl
  | some interner => exact Interner.text_intern interner text

/-- A shared constant is the constant itself. -/
theorem Constant.run_share (constant : Constant) : (constant.share.run sharing).1 = constant := by
  cases constant with
  | text value => exact congrArg Constant.text (run_shareText sharing value)
  | _ => rfl

/-- What is in front of a getter call, without the jump that only forwards to it. -/
def withoutForward (front : List Instruction) (call : Instruction) : List Instruction :=
  if front.getLast?.any (·.forwardsTo call.offset) then front.dropLast else front

namespace Patcher

variable (patcher : Patcher)

/-- The kind of a call site and the instruction that takes its place, with its own text. -/
def replacement (site : CallSite) : Except Error (ConstantKind × Instruction) :=
  (patcher.constantAt site).map fun constant =>
    (constant.kind, constant.load.placedAt site.offset)

/-- What a getter call behind `front` and the instruction in front of it become. -/
def collapse (front : List Instruction) (call : Instruction) :
    Except Error (ConstantKind × Instruction) :=
  (patcher.callSite (front ++ [call]) front.length).bind patcher.replacement

/-- One pass over what is behind `front`. -/
def sweep (method : Method) (report : PatchReport) (front : List Instruction) :
    List Instruction → PatchReport × List Instruction
  | [] => (report, front)
  | instruction :: rest =>
    if instruction.isGetterCall patcher.getter patcher.resolver then
      let front := withoutForward front instruction
      match patcher.collapse front instruction with
      | .ok (kind, load) => sweep method (report.record kind) (front.dropLast ++ [load]) rest
      | .error error =>
        (report.fail method instruction.offset error, front ++ instruction :: rest)
    else sweep method report (front ++ [instruction]) rest

/-- Decoding does not depend on the texts that are shared. -/
theorem run_decode (site : CallSite) :
    ((patcher.decode site).run sharing).1 = patcher.replacement site := by
  unfold decode replacement
  cases patcher.constantAt site with
  | error error => rfl
  | ok constant =>
    have same := constant.run_share sharing
    show Except.ok (constant.kind, (constant.share.run sharing).1.load.placedAt site.offset) = _
    rw [same]
    rfl

/-- A call site is read from the call and the instruction in front of it. -/
theorem callSite_append (front rest : List Instruction) (call : Instruction) :
    patcher.callSite (front ++ call :: rest) front.length =
      patcher.callSite (front ++ [call]) front.length := by
  have here (back : List Instruction) : (front ++ call :: back)[front.length]? = some call := by
    rw [List.getElem?_append_right (Nat.le_refl _), Nat.sub_self]
    rfl
  unfold callSite readCallSite
  rw [here rest, here []]
  cases size : front.length with
  | zero => rfl
  | succ before =>
    have inside : before < front.length := by omega
    simp only [List.getElem?_append_left inside]

/-- A call site that can be read has a literal in front of the call. -/
theorem exists_literal_of_callSite {front : List Instruction} {call : Instruction}
    {site : CallSite} (read : patcher.callSite (front ++ [call]) front.length = .ok site) :
    ∃ before literal, front = before ++ [literal] ∧ literal.int32Literal? = some site.raw ∧
      site.offset = literal.offset := by
  unfold callSite readCallSite at read
  rw [List.getElem?_append_right (Nat.le_refl _), Nat.sub_self] at read
  rcases List.eq_nil_or_concat front with rfl | ⟨before, literal, rfl⟩
  · cases read
  · refine ⟨before, literal, List.concat_eq_append, ?_⟩
    simp only [List.concat_eq_append, List.length_append, List.length_singleton] at read
    have place : (before ++ [literal] ++ [call])[before.length]? = some literal := by
      rw [List.append_assoc, List.getElem?_append_right (Nat.le_refl _), Nat.sub_self]
      rfl
    simp only [place, List.getElem?_cons_zero] at read
    cases number : literal.int32Literal? with
    | none =>
      rw [number] at read
      cases read
    | some raw =>
      rw [number] at read
      cases type : (call.instantiation? patcher.resolver).bind (·.arguments.head?) with
      | none =>
        simp only [type] at read
        cases read
      | some argument =>
        simp only [type] at read
        cases read
        exact ⟨rfl, rfl⟩

/-- What a getter call collapses to comes from a literal in front of it and the constant that
literal stands for. -/
theorem exists_constant_of_collapse {front : List Instruction} {call load : Instruction}
    {kind : ConstantKind} (done : patcher.collapse front call = .ok (kind, load)) :
    ∃ before literal, ∃ constant : Constant, front = before ++ [literal] ∧
      literal.isInt32Load = true ∧ kind = constant.kind ∧
        load = constant.load.placedAt literal.offset := by
  unfold collapse at done
  cases read : patcher.callSite (front ++ [call]) front.length with
  | error error =>
    rw [read] at done
    cases done
  | ok site =>
    rw [read] at done
    change Except.map _ (patcher.constantAt site) = _ at done
    obtain ⟨before, literal, shape, number, place⟩ := patcher.exists_literal_of_callSite read
    cases known : patcher.constantAt site with
    | error error =>
      rw [known] at done
      cases done
    | ok constant =>
      rw [known, place] at done
      cases done
      have loads := Instruction.isInt32Load_of_int32Literal? number
      exact ⟨before, literal, constant, shape, loads, rfl, rfl⟩

/-- Replacing puts what the call site collapses to in the place of both instructions. -/
theorem run_replace (front rest : List Instruction) (call : Instruction) :
    ((patcher.replace (front ++ call :: rest) front.length).run sharing).1 =
      (patcher.collapse front call).map fun (kind, load) =>
        (kind, front.dropLast ++ load :: rest) := by
  unfold replace collapse
  rw [callSite_append]
  cases read : patcher.callSite (front ++ [call]) front.length with
  | error error => rfl
  | ok site =>
    obtain ⟨before, literal, shape, -⟩ := patcher.exists_literal_of_callSite read
    have decoded := patcher.run_decode sharing site
    have cut : (front ++ call :: rest).take (front.length - 1) = front.dropLast := by
      rw [List.take_append_of_le_length (Nat.sub_le _ _), List.dropLast_eq_take]
    have tail : (front ++ call :: rest).drop (front.length + 1) = rest := by
      rw [List.drop_append]
      simp
    show _ = Except.map _ (patcher.replacement site)
    simp only [StateT.run_bind]
    cases outcome : (patcher.decode site).run sharing with
    | mk result after =>
      rw [outcome] at decoded
      change result = _ at decoded
      subst decoded
      cases patcher.replacement site with
      | error error => rfl
      | ok result =>
        obtain ⟨kind, load⟩ := result
        show Except.ok (kind, (front ++ call :: rest).take (front.length - 1) ++
          load :: (front ++ call :: rest).drop (front.length + 1)) = _
        rw [cut, tail]
        rfl

/-- A getter call at the cursor is the next one, and what is in front of it loses its forward. -/
theorem nextCallSite_call {front rest : List Instruction} {call : Instruction}
    (calls : call.isGetterCall patcher.getter patcher.resolver = true) :
    patcher.nextCallSite (front ++ call :: rest) front.length =
      some ((withoutForward front call).length, withoutForward front call ++ call :: rest) := by
  have found : getterCallFrom? patcher.getter patcher.resolver (front ++ call :: rest)
      front.length = some front.length := by
    rw [getterCallFrom?, List.drop_append, Nat.sub_self, List.drop_length, List.nil_append,
      List.drop_zero, List.findIdx?_cons, if_pos calls]
    rfl
  rw [nextCallSite, ConstantRecovery.nextCallSite, found, Option.map_some]
  have forwarded : forwardedInto (front ++ call :: rest) front.length =
      front.getLast?.any (·.forwardsTo call.offset) := by
    rcases List.eq_nil_or_concat front with rfl | ⟨before, last, rfl⟩
    · rfl
    · rw [List.concat_eq_append, List.getLast?_concat, List.length_append, List.length_singleton,
        List.append_assoc]
      have first : (before ++ ([last] ++ call :: rest))[before.length]? = some last := by
        rw [List.getElem?_append_right (Nat.le_refl _), Nat.sub_self]
        rfl
      have second : (before ++ ([last] ++ call :: rest))[before.length + 1]? = some call := by
        rw [List.getElem?_append_right (Nat.le_add_right _ _), Nat.add_sub_cancel_left]
        rfl
      simp only [forwardedInto, first, second, Option.any_some]
  rw [forwarded]
  unfold withoutForward
  by_cases jumps : front.getLast?.any (·.forwardsTo call.offset) = true
  · rw [if_pos jumps, if_pos jumps]
    rcases List.eq_nil_or_concat front with rfl | ⟨before, last, rfl⟩
    · cases jumps
    · rw [List.concat_eq_append, List.length_append, List.length_singleton, Nat.add_sub_cancel,
        List.dropLast_concat, List.append_assoc, List.eraseIdx_append_of_length_le (Nat.le_refl _),
        Nat.sub_self]
      rfl
  · rw [if_neg jumps, if_neg jumps]

/-- An instruction at the cursor that is no getter call is passed. -/
theorem nextCallSite_other {front rest : List Instruction} {instruction : Instruction}
    (other : instruction.isGetterCall patcher.getter patcher.resolver = false) :
    patcher.nextCallSite (front ++ instruction :: rest) front.length =
      patcher.nextCallSite (front ++ [instruction] ++ rest) (front ++ [instruction]).length := by
  have passed : getterCallFrom? patcher.getter patcher.resolver (front ++ instruction :: rest)
      front.length = getterCallFrom? patcher.getter patcher.resolver
        (front ++ [instruction] ++ rest) (front ++ [instruction]).length := by
    have behind : (front ++ [instruction] ++ rest).drop (front ++ [instruction]).length = rest :=
      List.drop_left
    rw [getterCallFrom?, getterCallFrom?, behind, List.drop_left, List.findIdx?_cons, other,
      List.length_append, List.length_singleton]
    cases rest.findIdx? (·.isGetterCall patcher.getter patcher.resolver) with
    | none => rfl
    | some index =>
      show some (front.length + (index + 1)) = some (front.length + 1 + index)
      rw [Nat.add_assoc, Nat.add_comm index 1]
  rw [nextCallSite, nextCallSite, ConstantRecovery.nextCallSite, ConstantRecovery.nextCallSite,
    passed, List.append_assoc]
  rfl

/-- The loop of the patcher is one pass, if it has a round for each instruction that is left. -/
theorem run_patchFrom (method : Method) (report : PatchReport) {rounds : Nat}
    {front rest : List Instruction} (enough : rest.length < rounds) :
    ((patcher.patchFrom method report rounds (front ++ rest) front.length).run sharing).1 =
      patcher.sweep method report front rest := by
  induction rest generalizing report rounds front sharing with
  | nil =>
    obtain ⟨rounds, rfl⟩ : ∃ fewer, rounds = fewer + 1 := ⟨rounds - 1, by simp at enough; omega⟩
    have nothing : patcher.nextCallSite (front ++ []) front.length = none := by
      rw [nextCallSite, ConstantRecovery.nextCallSite, getterCallFrom?, List.append_nil,
        List.drop_length]
      rfl
    rw [patchFrom, nothing, List.append_nil]
    rfl
  | cons instruction rest ih =>
    rw [List.length_cons] at enough
    obtain ⟨rounds, rfl⟩ : ∃ fewer, rounds = fewer + 1 := ⟨rounds - 1, by omega⟩
    cases calls : instruction.isGetterCall patcher.getter patcher.resolver with
    | false =>
      have shape : front ++ [instruction] ++ rest = front ++ instruction :: rest :=
        List.append_assoc _ _ _
      have fewer : rest.length < rounds + 1 := by omega
      have later := @ih sharing report (rounds + 1) (front ++ [instruction]) fewer
      rw [patchFrom, ← patcher.nextCallSite_other calls, shape] at later
      rw [patchFrom, sweep, calls]
      exact later
    | true =>
      rw [patchFrom, patcher.nextCallSite_call calls, sweep, if_pos calls]
      generalize withoutForward front instruction = front
      have replaced := patcher.run_replace sharing front rest instruction
      simp only [StateT.run_bind]
      cases outcome : (patcher.replace (front ++ instruction :: rest) front.length).run sharing with
      | mk result after =>
        rw [outcome] at replaced
        change result = _ at replaced
        subst replaced
        cases collapsed : patcher.collapse front instruction with
        | error error =>
          have here : (front ++ instruction :: rest)[front.length]? = some instruction := by
            rw [List.getElem?_append_right (Nat.le_refl _), Nat.sub_self]
            rfl
          simp only [Except.map, here, Option.map_some, Option.getD_some]
          rfl
        | ok pair =>
          obtain ⟨kind, load⟩ := pair
          have inhabited : front.dropLast.length + 1 = front.length := by
            obtain ⟨before, literal, -, shape, -⟩ := patcher.exists_constant_of_collapse collapsed
            rw [shape, List.dropLast_concat, List.length_append, List.length_singleton]
          have later := @ih after (report.record kind) rounds (front.dropLast ++ [load]) (by omega)
          rw [List.length_append, List.length_singleton, inhabited, List.append_assoc] at later
          exact later

/-- Patching a method without a cleaner is one pass over its body. -/
theorem run_patchMethod (unaided : patcher.cleaner? = none) (method : Method) :
    ((patcher.patchMethod method).run sharing).1 =
      ((patcher.sweep method .ofMethod [] method.body).1,
        { method with body := renumber (patcher.sweep method .ofMethod [] method.body).2 }) := by
  have enough := Nat.lt_succ_self method.body.length
  have swept := @run_patchFrom sharing patcher method .ofMethod _ [] _ enough
  rw [← swept, patchMethod, clean, unaided]
  rfl

/-- A map over a list whose steps do not depend on what is shared does not either. -/
theorem run_mapM {α β : Type} {step : α → Sharing β} {pure : α → β}
    (each : ∀ item sharing, ((step item).run sharing).1 = pure item) (items : List α) :
    ((items.mapM step).run sharing).1 = items.map pure := by
  induction items generalizing sharing with
  | nil => rfl
  | cons item rest ih =>
    rw [List.mapM_cons, List.map_cons, ← each item sharing, ← ih ((step item).run sharing).2]
    rfl

/-- Patching several methods is a pass over each of them. -/
theorem run_patchAll {outcome : Method → PatchReport × Method}
    (each : ∀ method sharing, ((patcher.patchMethod method).run sharing).1 = outcome method)
    (methods : List Method) :
    ((patcher.patchAll methods).run sharing).1 =
      ((methods.map fun method => (outcome method).1).foldl PatchReport.merge PatchReport.empty,
        methods.map fun method => (outcome method).2) := by
  have mapped := run_mapM sharing each methods
  show ((((methods.mapM patcher.patchMethod).run sharing).1.map (·.1)).foldl
      PatchReport.merge PatchReport.empty,
    ((methods.mapM patcher.patchMethod).run sharing).1.map (·.2)) = _
  rw [mapped, List.map_map, List.map_map]
  rfl

end Patcher

end ConstantRecovery
