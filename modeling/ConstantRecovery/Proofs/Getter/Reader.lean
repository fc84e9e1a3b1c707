import ConstantRecovery.Getter.Probe
import ConstantRecovery.Proofs.Getter.Realization

/-!
# Reading back what a getter hides

A getter whose plan realizes a mapping and keys gives both back when it is read. Each
probe runs the skeleton to the stub of the path that its tag selects, and the sentinel
lies above all that the quiet code has put on the stack. The probes count instructions,
so the limit under which reading succeeds is exact.
-/

namespace ConstantRecovery

namespace GetterPlan

/-- What the skeleton keeps of the code around the dispatch: the prologue from its first load of
a local variable on, and the default path. -/
def kept (plan : GetterPlan) : List Instruction :=
  plan.prologue.dropWhile (!·.isLocalLoad) ++ plan.fallback

/-- How many instructions the longest probe executes: all that is kept, the tests of three arms,
and the load of the id with its return. -/
def longestProbe (plan : GetterPlan) : Nat := plan.kept.length + 11

/-- How many instructions the probe of a tag executes. -/
def probeLength (plan : GetterPlan) (tag : Int32) : Nat :=
  (plan.prologue.dropWhile (!·.isLocalLoad)).length +
    dispatchCost (plan.fallback.length + 2) tag plan.arms

/-- The skeleton keeps the prologue from its first load of a local variable on. -/
theorem prologue_skeleton (plan : GetterPlan) : plan.skeleton.prologue =
    (plan.prologue.dropWhile (!·.isLocalLoad)).map (·.neutralized) := by
  have same (instruction : Instruction) :
      instruction.neutralized.isLocalLoad = instruction.isLocalLoad := by
    cases load : instruction.isLocalLoad with
    | true => rw [Instruction.neutralized_of_isLocalLoad load, load]
    | false =>
      rw [Instruction.neutralized]
      split
      · exact load
      · rfl
  show (plan.prologue.map (·.neutralized)).dropWhile (!·.isLocalLoad) = _
  rw [List.dropWhile_map]
  congr 2
  funext instruction
  rw [Function.comp_apply, same]

end GetterPlan

section Costs

variable {tag : Int32} {default : Nat} {arms : List Arm}

/-- A dispatch of stubs does as the dispatch does. -/
theorem selected_map_stubbed (tag : Int32) (arms : List Arm) :
    selected tag (arms.map (·.stubbed)) = selected tag arms := by
  rw [selected, List.find?_map, Option.map_map]
  rfl

/-- A dispatch of stubs costs what the dispatch costs. -/
theorem dispatchCost_map_stubbed (default : Nat) (tag : Int32) (arms : List Arm) :
    dispatchCost default tag (arms.map (·.stubbed)) = dispatchCost default tag arms := by
  induction arms with
  | nil => rfl
  | cons arm rest ih =>
    rw [List.map_cons, dispatchCost, dispatchCost, ih]
    rfl

/-- No tag costs more than one that no arm asks for. -/
theorem dispatchCost_le (least : 2 ≤ default) (tag : Int32) (arms : List Arm) :
    dispatchCost default tag arms ≤ default + 3 * arms.length := by
  induction arms with
  | nil => exact Nat.le_refl _
  | cons arm rest ih =>
    rw [dispatchCost, List.length_cons]
    split <;> omega

/-- A tag that selects the default is asked for by no arm. -/
theorem dispatchCost_of_default (named : ∀ arm ∈ arms, arm.kind ≠ .default)
    (none : selected tag arms = .default) :
    dispatchCost default tag arms = default + 3 * arms.length := by
  induction arms with
  | nil => rfl
  | cons arm rest ih =>
    obtain ⟨head, others⟩ := List.forall_mem_cons.1 named
    rw [selected, List.find?_cons] at none
    by_cases asks : arm.literal.int32Literal? = some tag
    · rw [decide_eq_true asks] at none
      exact absurd none head
    · rw [decide_eq_false asks] at none
      rw [dispatchCost, if_neg asks, ih others none, List.length_cons]
      omega

end Costs

/-- Where each probe names the kind of its tag or stops for one reason, all of them together give
the mapping or stop for that reason. -/
theorem GetterReader.probe_of_probeTag {reader : GetterReader} {code : List Instruction}
    {mapping : TagMapping} {reason : Error} {passes : Nat → Prop} [DecidablePred passes]
    (each : ∀ tag < 4, reader.probeTag code (UInt32.ofNat tag).toInt32 =
      if passes tag then .ok (mapping.kind (UInt32.ofNat tag)) else .error reason)
    {enough : Prop} [Decidable enough] (same : enough ↔ ∀ tag < 4, passes tag) :
    reader.probe code = if enough then .ok mapping else .error reason := by
  have zero : reader.probeTag code 0 = _ := each 0 (by decide)
  have one : reader.probeTag code 1 = _ := each 1 (by decide)
  have two : reader.probeTag code 2 = _ := each 2 (by decide)
  have three : reader.probeTag code 3 = _ := each 3 (by decide)
  rw [probe, zero, one, two, three]
  by_cases all : enough
  · rw [if_pos all]
    have all := same.1 all
    have valid := mapping.ofKinds_kinds
    rw [← mapping.kinds_eq] at valid
    rw [if_pos (all 0 (by decide)), if_pos (all 1 (by decide)),
      if_pos (all 2 (by decide)), if_pos (all 3 (by decide))]
    show (TagMapping.ofKinds #v[mapping.kind 0, mapping.kind 1, mapping.kind 2,
      mapping.kind 3]).mapError Error.malformedGetter = _
    rw [valid]
    rfl
  · -- the first probe that stops ends the others
    rw [if_neg all]
    by_cases first : passes 0
    · rw [if_pos first]
      by_cases second : passes 1
      · rw [if_pos second]
        by_cases third : passes 2
        · have fourth : ¬ passes 3 := by
            intro fourth
            apply all
            apply same.2
            intro tag four
            obtain rfl | rfl | rfl | rfl : tag = 0 ∨ tag = 1 ∨ tag = 2 ∨ tag = 3 := by omega
            all_goals assumption
          rw [if_pos third, if_neg fourth]
          rfl
        · rw [if_neg third]
          rfl
      · rw [if_neg second]
        rfl
    · rw [if_neg first]
      rfl

namespace GetterPlan.Realizes

variable {plan : GetterPlan} {resolver : Resolver} {mapping : TagMapping} {keys : Keys}

/-- The longest probe is that of the tag that selects the default. -/
theorem probeLength_le (realizes : plan.Realizes resolver mapping keys) (tag : Int32) :
    plan.probeLength tag ≤ plan.longestProbe := by
  have costs := dispatchCost_le (Nat.le_add_left 2 plan.fallback.length) tag plan.arms
  have length := realizes.length_arms
  rw [probeLength, longestProbe, kept, List.length_append]
  omega

/-- The probe of the tag that selects the default is the longest. -/
theorem probeLength_of_default (realizes : plan.Realizes resolver mapping keys) {tag : Nat}
    (four : tag < 4) (default : mapping.kind (UInt32.ofNat tag) = .default) :
    plan.probeLength (UInt32.ofNat tag).toInt32 = plan.longestProbe := by
  have named : ∀ arm ∈ plan.arms, arm.kind ≠ .default := by
    intro arm member
    have claimed := realizes.kinds.mem_iff.1 (List.mem_map_of_mem member)
    intro equal
    rw [equal] at claimed
    exact absurd claimed (by decide)
  have costs := @dispatchCost_of_default _ (plan.fallback.length + 2) _ named
    ((realizes.selected_eq four).trans default)
  have length := realizes.length_arms
  rw [probeLength, longestProbe, kept, List.length_append, costs]
  omega

/-- What a run of the skeleton starts from looks up its tag. -/
theorem probes_start (reader : GetterReader) (code : List Instruction) (tag : Int32) :
    (reader.probeRoutine code tag).start.Probes code tag where
  tag := by
    show FiniteMap.get? ((FiniteMap.empty.set 0 _).set 1 _) 0 = _
    rw [FiniteMap.get?_set, if_neg (by decide), FiniteMap.get?_set, if_pos rfl]
  id := by
    show FiniteMap.get? ((FiniteMap.empty.set 0 _).set 1 _) 1 = _
    rw [FiniteMap.get?_set, if_pos rfl]
  starts := rfl

/-- A run of the skeleton finds the path of its tag. -/
theorem finishes_skeleton (realizes : plan.Realizes resolver mapping keys)
    (numbered : ∀ instruction ∈ plan.kept, instruction.IsNumbered) (limits : Limits) (base : Nat)
    {context : Context} {tag : Int32}
    (probes : context.Probes (assemble base plan.skeleton.segments) tag) :
    ∃ after, Finishes limits (assemble base plan.skeleton.segments) (plan.probeLength tag) 0
      context after ∧ after.top? = some (.int32 (selected tag plan.arms).sentinel) := by
  have built := realizes.isBuilt.skeleton
  obtain ⟨front, back⟩ := List.forall_mem_append.1 numbered
  have harmless {code : List Instruction}
      (quiet : ∀ instruction ∈ code, instruction.IsQuiet resolver)
      (numbered : ∀ instruction ∈ code, instruction.IsNumbered) :
      ∀ instruction ∈ code.map (·.neutralized), instruction.Harmless := by
    intro instruction member
    obtain ⟨original, inside, rfl⟩ := List.mem_map.1 member
    exact (quiet original inside).harmless_neutralized (numbered original inside)
  have stubs : ∀ arm ∈ plan.skeleton.arms,
      arm.IsStub plan.skeleton.segments plan.skeleton.target := by
    intro arm member
    have far := @IsBuilt.getElem?_target _ _ built member
    obtain ⟨original, inside, rfl⟩ := List.mem_map.1 member
    have selects := realizes.arms original inside
    obtain ⟨-, own, -, asked⟩ := selects.literal
    exact ⟨⟨_, selects.load.2, asked, selects.opcode⟩, rfl, far⟩
  have run := @finishes_dispatch base 0 plan.skeleton.segments limits context tag
    plan.skeleton.prologue plan.skeleton.target plan.skeleton.fallback plan.skeleton.idLoad
    plan.skeleton.arms (plan.skeleton.behind.map (·.segment)) built.sound rfl stubs (by
      rw [prologue_skeleton]
      exact harmless (fun instruction member =>
        realizes.prologue instruction (List.dropWhile_subset _ member)) front)
    (harmless realizes.fallback back) realizes.idLoad.2 probes
  have arms : plan.skeleton.arms = plan.arms.map (·.stubbed) := rfl
  have fallback : plan.skeleton.fallback.length = plan.fallback.length := List.length_map _
  rw [prologue_skeleton, List.length_map, arms, dispatchCost_map_stubbed, selected_map_stubbed,
    fallback] at run
  exact run

/-- A probe names the kind of its tag, or stops at the limit. -/
theorem probeTag_eq (realizes : plan.Realizes resolver mapping keys)
    (numbered : ∀ instruction ∈ plan.kept, instruction.IsNumbered) (reader : GetterReader)
    (base : Nat) {tag : Nat} (four : tag < 4) :
    reader.probeTag (assemble base plan.skeleton.segments) (UInt32.ofNat tag).toInt32 =
      if plan.probeLength (UInt32.ofNat tag).toInt32 ≤ reader.limits.allowance then
        .ok (mapping.kind (UInt32.ofNat tag))
      else .error (.emulation reader.limits.exceeded) := by
  obtain ⟨after, ends, top⟩ := realizes.finishes_skeleton numbered reader.limits base
    (probes_start reader _ (UInt32.ofNat tag).toInt32)
  rw [realizes.selected_eq four] at top
  have kind : GetterReader.kindOfProbe? after = some (mapping.kind (UInt32.ofNat tag)) := by
    rw [GetterReader.kindOfProbe?, top]
    exact (ConstantKind.ofSentinel?_eq_some_iff _ _).2 rfl
  have emulates : (reader.probeRoutine (assemble base plan.skeleton.segments)
      (UInt32.ofNat tag).toInt32).emulate = _ := ends reader.limits.allowance
  rw [GetterReader.probeTag, emulates]
  by_cases enough : plan.probeLength (UInt32.ofNat tag).toInt32 ≤ reader.limits.allowance
  · rw [if_pos enough, if_pos enough]
    dsimp only
    rw [kind]
  · rw [if_neg enough, if_neg enough]

/-- Probing the skeleton gives the mapping, or stops at the limit. -/
theorem probe_eq (realizes : plan.Realizes resolver mapping keys)
    (numbered : ∀ instruction ∈ plan.kept, instruction.IsNumbered) (reader : GetterReader)
    (base : Nat) :
    reader.probe (assemble base plan.skeleton.segments) =
      if plan.longestProbe ≤ reader.limits.allowance then .ok mapping
      else .error (.emulation reader.limits.exceeded) := by
  apply GetterReader.probe_of_probeTag fun tag => realizes.probeTag_eq numbered reader base
  constructor
  · intro enough tag _
    exact Nat.le_trans (realizes.probeLength_le _) enough
  · intro all
    obtain ⟨tag, four, default⟩ := mapping.exists_default
    have longest := all tag four
    rwa [realizes.probeLength_of_default four default] at longest

/-- The prologue of a getter stands at the front of its body. -/
theorem stands_prologue (realizes : plan.Realizes resolver mapping keys) :
    Stands plan.body 0 plan.prologue := by
  have length := realizes.length_arms
  obtain ⟨arm, rest, shape⟩ := List.exists_cons_of_length_pos (by omega : 0 < plan.arms.length)
  obtain ⟨exit, others, segments⟩ := exists_segments_eq shape
  have whole : plan.segments = _ := segments plan.prologue
  have front : plan.segments[0]? = some ⟨plan.prologue ++ arm.test, exit⟩ := by
    rw [whole]
    rfl
  have stands := @stands_assemble 0 0 plan.segments _ front
  exact stands.left.left

/-- The keys of a getter are read back. -/
theorem readKeys_eq (realizes : plan.Realizes resolver mapping keys) {reader : GetterReader}
    {getter : Method} (resolves : reader.resolver = resolver) (body : getter.body = plan.body) :
    reader.readKeys getter = .ok keys := by
  have stands := realizes.stands_prologue
  have holds {position : Nat} {value : Int32}
      (here : plan.prologue[position]?.bind (·.int32Literal?) = some value) :
      GetterReader.keyAt getter position = .ok value := by
    obtain ⟨instruction, there, literal⟩ := Option.bind_eq_some_iff.1 here
    obtain ⟨offset, place⟩ := stands position instruction there
    rw [Nat.zero_add, ← body] at place
    have moved : (instruction.placedAt offset).int32Literal? = some value := literal
    rw [GetterReader.keyAt, place, Option.bind_some, moved]
  have positions : reader.keyPositions getter = plan.keyPositions resolver := by
    cases front : plan.prologue with
    | nil =>
      have absent := realizes.multiplier
      rw [front] at absent
      cases absent
    | cons first rest =>
      rw [front] at stands
      obtain ⟨offset, place⟩ := stands.head
      obtain ⟨others, shape⟩ := List.head?_eq_some_iff.1 (List.head?_eq_getElem? ▸ place)
      rw [GetterReader.keyPositions, body, shape, keyPositions, front, resolves]
      rfl
  have multiplier := realizes.multiplier
  have mask := realizes.mask
  rw [← positions] at multiplier mask
  unfold GetterReader.readKeys
  generalize reader.keyPositions getter = places at multiplier mask ⊢
  obtain ⟨first, second⟩ := places
  dsimp only
  rw [holds multiplier, holds mask]
  rfl

/-- Reading a getter comes down to probing its skeleton. -/
theorem resolve_eq_probe (realizes : plan.Realizes resolver mapping keys) {reader : GetterReader}
    {getter : Method} (resolves : reader.resolver = resolver) (body : getter.body = plan.body) :
    ∃ base, reader.resolve getter =
      (reader.probe (assemble base plan.skeleton.segments)).map (·, keys) := by
  have read := realizes.readKeys_eq resolves body
  obtain ⟨base, skeleton⟩ := IsMarked.dispatchSkeleton_body realizes.isBuilt realizes.isMarked
    realizes.length_arms
  refine ⟨base, ?_⟩
  rw [GetterReader.resolve, read, body, resolves, skeleton]
  show (do
    let mapping ← reader.probe (assemble base plan.skeleton.segments)
    return (mapping, keys)) = _
  cases reader.probe (assemble base plan.skeleton.segments) <;> rfl

end GetterPlan.Realizes

/-- A getter that is put together for a mapping and keys gives both back, if each load of a 64-bit
number that the skeleton keeps has its number and the limit allows the longest probe. A limit that
does not is reached. -/
theorem GetterReader.resolve_of_realizes {reader : GetterReader} {getter : Method}
    {plan : GetterPlan} {mapping : TagMapping} {keys : Keys}
    (realizes : plan.Realizes reader.resolver mapping keys)
    (numbered : ∀ instruction ∈ plan.kept, instruction.IsNumbered)
    (body : getter.body = plan.body) :
    reader.resolve getter =
      if plan.longestProbe ≤ reader.limits.allowance then .ok (mapping, keys)
      else .error (.emulation reader.limits.exceeded) := by
  obtain ⟨base, same⟩ := realizes.resolve_eq_probe rfl body
  rw [same, realizes.probe_eq numbered]
  by_cases enough : plan.longestProbe ≤ reader.limits.allowance
  · rw [if_pos enough, if_pos enough]
    rfl
  · rw [if_neg enough, if_neg enough]
    rfl

namespace GetterReader.Specimen

/-- Knows the accessor of the UTF-8 encoding. -/
def reader : GetterReader where
  resolver :=
    { memberName := fun token =>
        if token = ⟨0x0A000011⟩ then some "System.Text.Encoding::get_UTF8" else none
      instantiation := fun _ => none }
  limits := .standard

/-- What the specimen says about tags. -/
def mapping : TagMapping := ⟨#v[.object, .string, .number, .default], by decide⟩

/-- The keys of the specimen. -/
def keys : Keys := ⟨0x3C6EF35F, 0x1F123BB5⟩

/-- The arm whose path stands behind the default path. -/
def object : Arm :=
  { kind := .object, load := .ldloc 0, literal := .ldcI4 0, opcode := 0x3B, inline := false
    path := [.plain Opcode.Code.ldtoken (.token ⟨0x1B000002⟩), .call ⟨0x0A000015⟩] }

/-- A getter with something at the end of its prologue. -/
def plan (filler : List Instruction) : GetterPlan where
  prologue :=
    [.ldarg 0, .ldcI4 keys.multiplier, .plain 0x5A .bare, .ldcI4 keys.mask, .plain 0x61 .bare,
      .stloc 1, .ldloc 1, .ldcI4 30, .plain 0x64 .bare, .stloc 0] ++ filler
  arms :=
    [{ kind := .number, load := .ldloc 0, literal := .ldcI4 2, opcode := 0x33, inline := true
       path := [.ldcI4 1, .plain Opcode.Code.newarr (.token ⟨0x1B000002⟩), .stloc 2] },
      object,
      { kind := .string, load := .ldloc 0, literal := .ldcI4 1, opcode := 0x33, inline := true
        path := [.call ⟨0x0A000011⟩, .ldloc 1] }]
  fallback := [.plain 0x12 (.localIndex 1), .initobj .object]
  idLoad := .ldloc 1
  behind := [object]

/-- The getter of the specimen, with something at the end of its prologue. -/
def getter (filler : List Instruction) : Method :=
  ⟨⟨0x06000002⟩, "<Module>::Get", (plan filler).body⟩

/-- Whatever is quiet may stand at the end of the prologue. -/
theorem realizes {filler : List Instruction}
    (quiet : ∀ instruction ∈ filler, instruction.IsQuiet reader.resolver) :
    (plan filler).Realizes reader.resolver mapping keys where
  prologue := List.forall_mem_append.2 ⟨by decide +kernel, quiet⟩
  fallback := by
    show ∀ instruction ∈ (plan []).fallback, _
    decide +kernel
  idLoad := by
    show (plan []).idLoad.IsBuilt ∧ (plan []).idLoad.loadedLocal? = _
    decide +kernel
  arms := by
    show ∀ arm ∈ (plan []).arms, _
    decide +kernel
  kinds := by
    show ((plan []).arms.map (·.kind)).Perm _
    decide +kernel
  behind := .refl _
  multiplier := by rfl
  mask := by rfl

/-- A skeleton keeps all of what stands at the end of the prologue. -/
theorem kept_plan (filler : List Instruction) :
    (plan filler).kept =
      ([.ldloc 1, .ldcI4 30, .plain 0x64 .bare, .stloc 0] ++ filler) ++ (plan []).fallback := by
  rfl

end GetterReader.Specimen

open GetterReader.Specimen in
/-- A getter whose prologue ends with the load of a 64-bit number is read. -/
theorem GetterReader.resolve_of_realizes_specimen :
    (plan [.ldcI8 7]).Realizes reader.resolver mapping keys ∧
      (∀ instruction ∈ (plan [.ldcI8 7]).kept, instruction.IsNumbered) ∧
      reader.resolve (getter [.ldcI8 7]) = .ok (mapping, keys) := by
  have valid := @realizes [.ldcI8 7] (by decide +kernel)
  have numbered : ∀ instruction ∈ (plan [.ldcI8 7]).kept, instruction.IsNumbered := by
    decide +kernel
  have answer := GetterReader.resolve_of_realizes valid numbered
    (show (getter [.ldcI8 7]).body = (plan [.ldcI8 7]).body from rfl)
  rw [if_pos (by decide +kernel)] at answer
  exact ⟨valid, numbered, answer⟩

open GetterReader.Specimen in
/-- Quiet code alone is not enough: a load of a 64-bit number may be without one, and a long
prologue may exhaust the standard limit. -/
theorem GetterReader.not_resolve_of_realizes :
    ((plan [.plain Opcode.Code.ldcI8 .bare]).Realizes reader.resolver mapping keys ∧
      reader.resolve (getter [.plain Opcode.Code.ldcI8 .bare]) =
        .error (.emulation (.invalidOperand "ldc.i8" .numericLiteral))) ∧
    ((plan (List.replicate 10000 .nop)).Realizes reader.resolver mapping keys ∧
      reader.resolve (getter (List.replicate 10000 .nop)) =
        .error (.emulation (.instructionLimitExceeded 10000 10000))) := by
  refine ⟨⟨realizes (by decide +kernel), ?_⟩, ?_⟩
  · have fails : (match reader.resolve (getter [.plain Opcode.Code.ldcI8 .bare]) with
        | .ok _ => false
        | .error error =>
          error = .emulation (.invalidOperand "ldc.i8" .numericLiteral)) = true := by
      decide +kernel
    cases answer : reader.resolve (getter [.plain Opcode.Code.ldcI8 .bare]) with
    | ok result =>
      rw [answer] at fails
      cases fails
    | error error =>
      rw [answer] at fails
      rw [of_decide_eq_true fails]
  · have quiet : ∀ instruction ∈ List.replicate 10000 Instruction.nop,
        instruction.IsQuiet reader.resolver := by
      intro instruction member
      rw [List.eq_of_mem_replicate member]
      decide +kernel
    have valid := realizes quiet
    have numbered : ∀ instruction ∈ (plan (List.replicate 10000 .nop)).kept,
        instruction.IsNumbered := by
      rw [kept_plan]
      refine List.forall_mem_append.2 ⟨List.forall_mem_append.2 ⟨by decide +kernel, ?_⟩,
        by decide +kernel⟩
      intro instruction member
      rw [List.eq_of_mem_replicate member]
      decide +kernel
    have long : ¬ (plan (List.replicate 10000 .nop)).longestProbe ≤ reader.limits.allowance := by
      have allowance : reader.limits.allowance = 10000 := by decide
      rw [allowance, GetterPlan.longestProbe, kept_plan, List.length_append, List.length_append,
        List.length_replicate]
      omega
    obtain ⟨base, answer⟩ := @GetterPlan.Realizes.resolve_eq_probe _ _ _ _ valid reader
      (getter (List.replicate 10000 .nop)) rfl rfl
    rw [valid.probe_eq numbered, if_neg long] at answer
    exact ⟨valid, answer⟩

end ConstantRecovery
