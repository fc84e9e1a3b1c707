import ConstantRecovery.Proofs.Getter.Reader
import ConstantRecovery.Proofs.Getter.Reduction
import ConstantRecovery.Proofs.Getter.TagMapping

/-!
# Probes end in stubs

A sentinel that no live code loads can only come from a stub. A probe carries nothing but
seeds, literals of the code it passes and 64-bit numbers made of them, and it can enter a
stub only at its front, where it loads the sentinel and returns. So a probe that names a
decode path has just executed the stub of a block on that path, and a mapping names each
of the three paths.
-/

namespace ConstantRecovery

/-- No two paths share a sentinel. -/
theorem ConstantKind.sentinel_injective : Function.Injective ConstantKind.sentinel := by
  intro first second same
  have named := (ConstantKind.ofSentinel?_eq_some_iff _ second).2 same
  rw [(ConstantKind.ofSentinel?_eq_some_iff _ first).2 rfl] at named
  exact Option.some.inj named

/-! ## What carries no sentinel -/

/-- The value is no sentinel of a decode path. -/
def Value.Unclaimed (value : Value) : Prop :=
  ∀ kind ∈ ConstantKind.claimed, value ≠ .int32 kind.sentinel

/-- The instruction loads no sentinel of a decode path. -/
def Instruction.Unclaimed (instruction : Instruction) : Prop :=
  ∀ kind ∈ ConstantKind.claimed, instruction.int32Literal? ≠ some kind.sentinel

/-- Whether a value is a sentinel can be computed. -/
instance (value : Value) : Decidable value.Unclaimed :=
  inferInstanceAs (Decidable (∀ kind ∈ ConstantKind.claimed, _))

/-- Whether an instruction loads a sentinel can be computed. -/
instance (instruction : Instruction) : Decidable instruction.Unclaimed :=
  inferInstanceAs (Decidable (∀ kind ∈ ConstantKind.claimed, _))

/-- Neither the stack nor a local variable holds a sentinel of a decode path. -/
structure Context.Unclaimed (context : Context) : Prop where
  /-- No value on the stack is a sentinel. -/
  stack : ∀ value ∈ context.stack, value.Unclaimed
  /-- No local variable holds a sentinel. -/
  locals : ∀ index value, context.locals.get? index = some value → value.Unclaimed

namespace Instruction

variable {instruction : Instruction}

/-- What a number loaded by an instruction is worth, its 32-bit literal is. -/
theorem Unclaimed.literal? (unclaimed : instruction.Unclaimed) {value : Value}
    (loads : instruction.literal? = some value) : value.Unclaimed := by
  rintro kind claimed rfl
  apply unclaimed kind claimed
  unfold Instruction.literal? at loads
  cases number : instruction.int32Literal? with
  | some value =>
    rw [number] at loads
    cases loads
    rfl
  | none =>
    rw [number] at loads
    dsimp only at loads
    split at loads
    · split at loads <;> cases loads
    · split at loads <;> cases loads
    · split at loads <;> cases loads
    · cases loads

/-- Neutralizing brings no sentinel. -/
theorem Unclaimed.neutralized (unclaimed : instruction.Unclaimed) :
    instruction.neutralized.Unclaimed := by
  rw [Instruction.neutralized]
  split
  · exact unclaimed
  · intro kind claimed loads
    cases loads

end Instruction

/-- A step of skeleton code that loads no sentinel brings none. -/
theorem Context.Unclaimed.step {context after : Context} {instruction : Instruction} {next : Next}
    (unclaimed : context.Unclaimed) (skeletal : instruction.IsSkeletal)
    (plain : instruction.Unclaimed) (done : step instruction context = .ok next after) :
    after.Unclaimed := by
  unfold ConstantRecovery.step at done
  cases known : Operation.ofOpcode? instruction.lead instruction.opcode with
  | none =>
    rw [known] at done
    cases done
  | some operation =>
    rw [known] at done
    obtain ⟨stack, rfl, sources⟩ :=
      operation.exists_stack_of_dispatches (skeletal.dispatches known) done
    refine ⟨fun value member => ?_, unclaimed.locals⟩
    cases sources value member with
    | kept member => exact unclaimed.stack value member
    | literal loads => exact plain.literal? loads
    | held loads => exact unclaimed.locals _ value loads
    | @widened narrow _ _ widens =>
      rintro kind - rfl
      cases narrow <;> cases widens

/-- A cursor in a skeleton is behind its end or in a block, and in a stub only at the front. -/
def Rests (resolver : Resolver) (kept : List BasicBlock) (number : Nat) : Prop :=
  number = (joined (canonicalize resolver kept)).length ∨
    ∃ index block inner, kept[index]? = some block ∧
      inner < (block.canonical resolver).instructions.length ∧
      number = placeIn (canonicalize resolver kept) index inner ∧
      ((block.kind? resolver).isSome → inner = 0)

section Resting

variable {resolver : Resolver} {kept : List BasicBlock} {dropped skeleton : List Instruction}
  {index inner : Nat} {block : BasicBlock}

/-- The front of a block, or of where a block would be behind the last one, is a place to rest. -/
theorem rests_front (inhabited : Inhabited kept) (index : Nat) :
    Rests resolver kept (placeIn (canonicalize resolver kept) index 0) := by
  cases here : kept[index]? with
  | none =>
    have behind : (canonicalize resolver kept).length ≤ index := by
      rw [canonicalize, List.length_map]
      exact List.getElem?_eq_none_iff.1 here
    exact .inl (placeIn_of_length_le behind)
  | some block =>
    exact .inr ⟨index, block, 0, here, length_canonical_pos inhabited here, rfl, fun _ => rfl⟩

/-- Going on in a block that is no decode block leads to a place to rest. -/
theorem rests_next (inhabited : Inhabited kept) (here : kept[index]? = some block)
    (within : inner < (block.canonical resolver).instructions.length)
    (other : block.kind? resolver = none) :
    Rests resolver kept (placeIn (canonicalize resolver kept) index inner + 1) := by
  by_cases more : inner + 1 < (block.canonical resolver).instructions.length
  · refine .inr ⟨index, block, inner + 1, here, more, rfl, ?_⟩
    rw [other]
    intro decodes
    cases decodes
  · have full : inner + 1 = (block.canonical resolver).instructions.length := by omega
    have front := placeIn_succ (@getElem?_canonicalize_of_getElem? resolver _ _ _ here)
    have next : placeIn (canonicalize resolver kept) index inner + 1 =
        placeIn (canonicalize resolver kept) (index + 1) 0 := by
      rw [front, ← full]
      rfl
    rw [next]
    exact rests_front inhabited (index + 1)

/-- Trimming stops outside every stub, since a stub loads no local variable. -/
theorem Reduces.rests_start (reduces : Reduces resolver kept dropped skeleton) :
    Rests resolver kept dropped.length := by
  by_cases empty : skeleton = []
  · have size := length_of_flattenBlocks reduces.joins
    rw [empty, List.append_nil] at size
    exact .inl size
  · obtain ⟨index, block, inner, first, here, inside, loads, place⟩ := reduces.exists_start empty
    refine .inr ⟨index, block, inner, here, (List.getElem?_eq_some_iff.1 inside).1, place, ?_⟩
    intro decodes
    obtain ⟨kind, path⟩ := Option.isSome_iff_exists.1 decodes
    rw [instructions_canonical_of_kind? path] at inside
    rw [not_isLocalLoad_of_mem_stub (List.mem_of_getElem? inside)] at loads
    cases loads

end Resting

section Runs

variable {reader : GetterReader} {resolver : Resolver} {kept : List BasicBlock}
  {dropped skeleton : List Instruction} {limits : Limits} {left cursor : Nat}
  {context after : Context}

/-- A run that enters a stub at its front and ends well executes the stub and no more. -/
theorem run_of_stub {block : BasicBlock} {kind : ConstantKind}
    (stands : Stands skeleton cursor (block.stub kind))
    (done : runFrom limits skeleton left cursor context = .ok after) :
    after.top? = some (.int32 kind.sentinel) ∧
      trail skeleton left cursor context = [cursor, cursor + 1] := by
  obtain ⟨start, first⟩ := stands.head
  obtain ⟨next, second⟩ := stands.tail.head
  have pushes := @step_of_int32Literal?
    ((((Instruction.ldcI4 kind.sentinel).placedAt block.offset).placedAt start))
    (context.at (((Instruction.ldcI4 kind.sentinel).placedAt block.offset).placedAt start))
    kind.sentinel (by cases kind <;> rfl)
  match left with
  | 0 =>
    rw [runFrom_zero first] at done
    cases done
  | 1 =>
    rw [runFrom_succ first, pushes] at done
    dsimp only at done
    rw [runFrom_zero second] at done
    cases done
  | left + 2 =>
    rw [runFrom_succ first, pushes] at done
    dsimp only at done
    rw [runFrom_succ second] at done
    cases done
    refine ⟨rfl, ?_⟩
    rw [trail_succ first, pushes]
    dsimp only
    rw [trail_succ second]
    rfl

/-- A jump in the skeleton that finds its target lands at the front of a block. -/
theorem Reduces.exists_front_of_jump (reduces : Reduces resolver kept dropped skeleton)
    {instruction : Instruction} (here : skeleton[cursor]? = some instruction) {target : Nat}
    (aims : instruction.target? = some target) (starts : context.starts = offsets skeleton)
    {place : Nat} (lands : context.indexOf target = .ok place) :
    ∃ index, dropped.length + place = placeIn (canonicalize resolver kept) index 0 := by
  obtain ⟨offset, shape⟩ := reduces.getElem?_skeleton cursor
  rw [here] at shape
  obtain ⟨original, there, rfl⟩ := Option.map_eq_some_iff.1 shape.symm
  change (original.mapSlots _).target? = some target at aims
  rw [Instruction.target?_mapSlots] at aims
  obtain ⟨slot, named, rfl⟩ := Option.map_eq_some_iff.1 aims
  rw [Context.indexOf, starts] at lands
  cases found : lastPosition? (slotMove (canonicalize resolver kept) slot) (offsets skeleton) with
  | none =>
    rw [found] at lands
    cases lands
  | some landed =>
    rw [found] at lands
    cases lands
    obtain ⟨index, -, front⟩ := (reduces.lastPosition?_slot (List.mem_of_getElem? there)
      (mem_jumpSlots_of_target? named)).1 found
    exact ⟨index, front⟩

/-- What a probe keeps from step to step: the cursor rests, and the state carries no sentinel. -/
structure Probing (resolver : Resolver) (kept : List BasicBlock)
    (dropped skeleton : List Instruction) (cursor : Nat) (context : Context) : Prop where
  rests : Rests resolver kept (dropped.length + cursor)
  unclaimed : context.Unclaimed
  starts : context.starts = offsets skeleton

/-- The number on top of a state that carries no sentinel is none. -/
theorem Context.Unclaimed.top?_ne (unclaimed : context.Unclaimed) {kind : ConstantKind}
    (claimed : kind ∈ ConstantKind.claimed) : context.top? ≠ some (.int32 kind.sentinel) := by
  intro top
  exact unclaimed.stack _ (List.mem_of_head? top) kind claimed rfl

/-- The instruction at a place of a block that is no decode block may stand in a skeleton, and
loads no sentinel where no such block does. -/
theorem Reduces.exists_instruction (reduces : Reduces resolver kept dropped skeleton)
    (clean : ∀ block ∈ kept, block.kind? resolver = none →
      ∀ instruction ∈ block.instructions, instruction.Unclaimed)
    {index inner : Nat} {block : BasicBlock} (here : kept[index]? = some block)
    (other : block.kind? resolver = none)
    (within : inner < (block.canonical resolver).instructions.length)
    (place : dropped.length + cursor = placeIn (canonicalize resolver kept) index inner) :
    ∃ instruction, skeleton[cursor]? = some instruction ∧ instruction.IsSkeletal ∧
      instruction.Unclaimed := by
  obtain ⟨offset, shape⟩ := reduces.getElem?_skeleton cursor
  have inside := @getElem?_canonicalize_of_getElem? resolver _ _ _ here
  rw [place, getElem?_joined_placeIn inside within, List.getElem?_eq_getElem within,
    Option.map_some] at shape
  have member := List.getElem_mem within
  generalize (block.canonical resolver).instructions[inner] = original at shape member
  have skeletal : original.IsSkeletal := by
    apply reduces.skeletal
    exact List.mem_flatMap.2 ⟨_, List.mem_of_getElem? inside, member⟩
  have plain : original.Unclaimed := by
    rw [instructions_canonical_of_no_kind other] at member
    obtain ⟨instruction, within, rfl⟩ := List.mem_map.1 member
    exact (clean block (List.mem_of_getElem? here) other instruction within).neutralized
  refine ⟨_, shape, (skeletal.mapSlots _).placedAt offset, ?_⟩
  intro kind claimed loads
  apply plain kind claimed
  rw [← Instruction.int32Literal?_mapSlots (slotMove (canonicalize resolver kept))]
  exact loads

/-- One step of a probe outside the stubs. -/
theorem Probing.step (reduces : Reduces resolver kept dropped skeleton)
    (probing : Probing resolver kept dropped skeleton cursor context)
    {index inner : Nat} {block : BasicBlock} (here : kept[index]? = some block)
    (other : block.kind? resolver = none)
    (within : inner < (block.canonical resolver).instructions.length)
    (place : dropped.length + cursor = placeIn (canonicalize resolver kept) index inner)
    {instruction : Instruction} (fetched : skeleton[cursor]? = some instruction)
    (skeletal : instruction.IsSkeletal) (plain : instruction.Unclaimed) {next : Next}
    {reached : Context} (done : step instruction (context.at instruction) = .ok next reached) :
    match next with
    | .proceed => Probing resolver kept dropped skeleton (cursor + 1) reached
    | .jump target => ∀ landed, reached.indexOf target = .ok landed →
        Probing resolver kept dropped skeleton landed reached
    | .finish => reached.Unclaimed := by
  have begun : (context.at instruction).Unclaimed :=
    ⟨probing.unclaimed.stack, probing.unclaimed.locals⟩
  have unclaimed := begun.step skeletal plain done
  have yields := @yields_step instruction (context.at instruction) rfl
  rw [done] at yields
  obtain ⟨kept, operation, -, allowed⟩ := yields
  have starts : reached.starts = offsets skeleton := kept.trans probing.starts
  cases next with
  | finish => exact unclaimed
  | proceed =>
    refine ⟨?_, unclaimed, starts⟩
    rw [← Nat.add_assoc, place]
    exact rests_next reduces.inhabited here within other
  | jump target =>
    intro landed lands
    obtain ⟨goal, front⟩ := reduces.exists_front_of_jump fetched allowed.target? starts lands
    refine ⟨?_, unclaimed, starts⟩
    rw [front]
    exact rests_front reduces.inhabited goal

/-- What is visited last is the stub that stands for a block on a path. -/
def EntersStub (resolver : Resolver) (kept : List BasicBlock) (dropped : List Instruction)
    (kind : ConstantKind) (passed : List Nat) : Prop :=
  ∃ index block place visited, kept[index]? = some block ∧ block.kind? resolver = some kind ∧
    dropped.length + place = placeIn (canonicalize resolver kept) index 0 ∧
    passed = visited ++ [place, place + 1]

/-- Whatever was visited before, the last is the same. -/
theorem EntersStub.cons {kind : ConstantKind} {passed : List Nat}
    (enters : EntersStub resolver kept dropped kind passed) (cursor : Nat) :
    EntersStub resolver kept dropped kind (cursor :: passed) := by
  obtain ⟨index, block, place, visited, here, path, front, rfl⟩ := enters
  exact ⟨index, block, place, cursor :: visited, here, path, front, rfl⟩

/-- A probe that stands behind the end has no sentinel of a decode path on top. -/
theorem Probing.top?_ne_of_none (probing : Probing resolver kept dropped skeleton cursor context)
    (behind : skeleton[cursor]? = none)
    (done : runFrom limits skeleton left cursor context = .ok after) {kind : ConstantKind}
    (claimed : kind ∈ ConstantKind.claimed) : after.top? ≠ some (.int32 kind.sentinel) := by
  rw [runFrom_of_none behind] at done
  cases done
  exact probing.unclaimed.top?_ne claimed

/-- A probe that ends well with the sentinel of a decode path on top has executed the stub of a
block on that path last. The induction is on the instructions left. -/
theorem Probing.entersStub (reduces : Reduces resolver kept dropped skeleton)
    (clean : ∀ block ∈ kept, block.kind? resolver = none →
      ∀ instruction ∈ block.instructions, instruction.Unclaimed)
    (probing : Probing resolver kept dropped skeleton cursor context)
    (done : runFrom limits skeleton left cursor context = .ok after)
    {kind : ConstantKind} (claimed : kind ∈ ConstantKind.claimed)
    (top : after.top? = some (.int32 kind.sentinel)) :
    EntersStub resolver kept dropped kind (trail skeleton left cursor context) := by
  induction left generalizing cursor context with
  | zero =>
    cases fetched : skeleton[cursor]? with
    | none => exact absurd top (probing.top?_ne_of_none fetched done claimed)
    | some instruction =>
      rw [runFrom_zero fetched] at done
      cases done
  | succ left ih =>
    rcases probing.rests with ended | ⟨index, block, inner, here, within, place, front⟩
    · obtain ⟨offset, fetched⟩ := reduces.getElem?_skeleton cursor
      rw [ended, List.getElem?_eq_none (Nat.le_refl _)] at fetched
      exact absurd top (probing.top?_ne_of_none fetched done claimed)
    · cases path : block.kind? resolver with
      | some found =>
        rw [path] at front
        rw [front rfl] at place
        obtain ⟨named, visited⟩ := run_of_stub (reduces.stands_stub here path place) done
        have same : found = kind := by
          rw [named, Option.some.injEq, Value.int32.injEq] at top
          exact ConstantKind.sentinel_injective top
        exact ⟨index, block, cursor, [], here, same ▸ path, place, visited⟩
      | none =>
        obtain ⟨instruction, fetched, skeletal, plain⟩ :=
          reduces.exists_instruction clean here path within place
        rw [runFrom_succ fetched] at done
        rw [trail_succ fetched]
        cases stepped : ConstantRecovery.step instruction (context.at instruction) with
        | error fault failed =>
          rw [stepped] at done
          cases done
        | ok next reached =>
          have goesOn := probing.step reduces here path within place fetched skeletal plain stepped
          rw [stepped] at done
          cases next with
          | finish =>
            cases done
            exact absurd top (goesOn.top?_ne claimed)
          | proceed => exact (ih goesOn done).cons cursor
          | jump target =>
            cases lands : reached.indexOf target with
            | error fault =>
              simp only [lands] at done
              cases done
            | ok landed =>
              simp only [lands] at done ⊢
              exact (ih (goesOn landed lands) done).cons cursor

end Runs

/-! ## What a mapping that was read rests on -/

/-- Where no two decode blocks are on one path, a path has one block. -/
theorem eq_of_kind?_of_nodup {resolver : Resolver} {blocks : List BasicBlock}
    (nodup : (decodeKinds resolver blocks).Nodup) {index other : Nat} {block twin : BasicBlock}
    {kind : ConstantKind} (here : blocks[index]? = some block)
    (path : block.kind? resolver = some kind) (there : blocks[other]? = some twin)
    (same : twin.kind? resolver = some kind) : other = index := by
  have apart := List.pairwise_filterMap.1 nodup
  rw [List.pairwise_iff_getElem] at apart
  obtain ⟨bound, rfl⟩ := List.getElem?_eq_some_iff.1 here
  obtain ⟨limit, rfl⟩ := List.getElem?_eq_some_iff.1 there
  rcases Nat.lt_trichotomy other index with before | equal | behind
  · exact absurd rfl (apart other index limit bound before kind same kind path)
  · exact equal
  · exact absurd rfl (apart index other bound limit behind kind path kind same)

namespace GetterReader

variable {reader : GetterReader} {kept : List BasicBlock} {dropped skeleton : List Instruction}
  {tag : UInt32} {kind : ConstantKind} {mapping : TagMapping}

/-- The probe of a tag ends well, and the last it executes is the stub that stands for a block of a
path. The skeleton is what trimming leaves of the joined canonical blocks. -/
def EndsInStub (reader : GetterReader) (kept : List BasicBlock)
    (dropped skeleton : List Instruction) (tag : UInt32) (kind : ConstantKind) (index : Nat) :
    Prop :=
  ∃ block place visited after, kept[index]? = some block ∧
    block.kind? reader.resolver = some kind ∧
    dropped.length + place = placeIn (canonicalize reader.resolver kept) index 0 ∧
    Stands skeleton place (block.stub kind) ∧
    (reader.probeRoutine skeleton tag.toInt32).emulate = .ok after ∧
    trail skeleton reader.limits.allowance 0 (reader.probeRoutine skeleton tag.toInt32).start =
      visited ++ [place, place + 1]

/-- A probe that names a path ends with its sentinel on top. -/
theorem exists_of_probeTag {tag : Int32} (done : reader.probeTag skeleton tag = .ok kind) :
    ∃ after, (reader.probeRoutine skeleton tag).emulate = .ok after ∧
      after.top? = some (.int32 kind.sentinel) := by
  unfold probeTag at done
  cases ends : (reader.probeRoutine skeleton tag).emulate with
  | error fault =>
    rw [ends] at done
    cases done
  | ok after =>
    rw [ends] at done
    dsimp only at done
    cases named : kindOfProbe? after with
    | none =>
      rw [named] at done
      cases done
    | some found =>
      rw [named] at done
      cases done
      refine ⟨after, rfl, ?_⟩
      obtain ⟨sentinel, number, same⟩ := Option.bind_eq_some_iff.1 named
      obtain ⟨top, held, narrow⟩ := Option.bind_eq_some_iff.1 number
      rw [held, ← (ConstantKind.ofSentinel?_eq_some_iff sentinel kind).1 same]
      cases top with
      | int32 value =>
        cases narrow
        rfl
      | _ => cases narrow

/-- There are four tags of two bits. -/
theorem eq_of_lt_four (four : tag < 4) : tag = 0 ∨ tag = 1 ∨ tag = 2 ∨ tag = 3 := by
  have bound : tag.toNat < 4 := four
  simp [← UInt32.toNat_inj]
  omega

/-- A mapping that is probed lists what the probes name. -/
theorem probeTag_of_probe (done : reader.probe skeleton = .ok mapping) (four : tag < 4) :
    reader.probeTag skeleton tag.toInt32 = .ok (mapping.kind tag) := by
  obtain ⟨first, zero, done⟩ := exists_of_bind_eq_ok done
  obtain ⟨second, one, done⟩ := exists_of_bind_eq_ok done
  obtain ⟨third, two, done⟩ := exists_of_bind_eq_ok done
  obtain ⟨fourth, three, done⟩ := exists_of_bind_eq_ok done
  have kinds := TagMapping.kinds_of_ofKinds (of_mapError_eq_ok done)
  rw [TagMapping.kind, kinds]
  rcases eq_of_lt_four four with rfl | rfl | rfl | rfl
  · exact zero
  · exact one
  · exact two
  · exact three

/-- What a getter is resolved to was probed on its skeleton. -/
theorem exists_of_resolve {getter : Method} {keys : Keys}
    (resolved : reader.resolve getter = .ok (mapping, keys)) :
    ∃ skeleton, dispatchSkeleton reader.resolver getter.body = .ok skeleton ∧
      reader.probe skeleton = .ok mapping := by
  obtain ⟨_, -, resolved⟩ := exists_of_bind_eq_ok resolved
  obtain ⟨skeleton, reduced, resolved⟩ := exists_of_bind_eq_ok resolved
  obtain ⟨_, probed, resolved⟩ := exists_of_bind_eq_ok resolved
  cases resolved
  exact ⟨skeleton, reduced, probed⟩

/-- What a probe starts from carries no sentinel but that of the default path. -/
theorem unclaimed_start (reader : GetterReader) (skeleton : List Instruction) (four : tag < 4) :
    (reader.probeRoutine skeleton tag.toInt32).start.Unclaimed where
  stack := List.forall_mem_nil _
  locals := by
    intro index value held
    change FiniteMap.get? ((FiniteMap.empty.set 0 (.int32 tag.toInt32)).set 1
      (.int32 ConstantKind.default.sentinel)) index = some value at held
    rw [FiniteMap.get?_set, FiniteMap.get?_set, FiniteMap.get?_empty] at held
    split at held
    · cases held
      decide
    · split at held
      · cases held
        rcases eq_of_lt_four four with rfl | rfl | rfl | rfl <;> decide
      · cases held

/-- The probe of a tag that selects a claimed path ends in the stub of a block on it. -/
theorem exists_endsInStub (reduces : Reduces reader.resolver kept dropped skeleton)
    (clean : ∀ block ∈ kept, block.kind? reader.resolver = none →
      ∀ instruction ∈ block.instructions, instruction.Unclaimed)
    (probed : reader.probe skeleton = .ok mapping) (four : tag < 4)
    (claimed : mapping.kind tag ∈ ConstantKind.claimed) :
    ∃ index, reader.EndsInStub kept dropped skeleton tag (mapping.kind tag) index := by
  obtain ⟨after, ends, top⟩ := exists_of_probeTag (probeTag_of_probe probed four)
  have probing : Probing reader.resolver kept dropped skeleton 0
      (reader.probeRoutine skeleton tag.toInt32).start :=
    ⟨reduces.rests_start, unclaimed_start reader skeleton four, rfl⟩
  obtain ⟨index, block, place, visited, here, path, front, passed⟩ :=
    probing.entersStub reduces clean ends claimed top
  exact ⟨index, block, place, visited, after, here, path, front,
    reduces.stands_stub here path front, ends, passed⟩

/-- Where no block without a marker loads a sentinel of a decode path, a mapping that was read rests
on one block for each path, and the probe of each tag that selects one ends in its stub. -/
theorem endsInStub_of_resolve {getter : Method} {keys : Keys}
    (built : ∀ instruction ∈ getter.body, instruction.IsBuilt)
    (resolved : reader.resolve getter = .ok (mapping, keys))
    (pruned : prune? (buildBlocks getter.body) = some kept)
    (clean : ∀ block ∈ kept, block.kind? reader.resolver = none →
      ∀ instruction ∈ block.instructions, instruction.Unclaimed) :
    (decodeKinds reader.resolver kept).Perm ConstantKind.claimed ∧
      ∃ dropped skeleton, dispatchSkeleton reader.resolver getter.body = .ok skeleton ∧
        flattenBlocks (canonicalize reader.resolver kept) = .ok (dropped ++ skeleton) ∧
        ∀ tag < 4, mapping.kind tag ≠ .default →
          ∃ index, reader.EndsInStub kept dropped skeleton tag (mapping.kind tag) index ∧
            ∀ other block, kept[other]? = some block →
              block.kind? reader.resolver = some (mapping.kind tag) → other = index := by
  obtain ⟨skeleton, reduced, probed⟩ := exists_of_resolve resolved
  obtain ⟨dropped, reduces⟩ := exists_reduces built pruned reduced
  have three := ((dispatchSkeleton_eq_ok_iff pruned).1 reduced).1
  have ends {tag : UInt32} (four : tag < 4) (claimed : mapping.kind tag ∈ ConstantKind.claimed) :=
    exists_endsInStub reduces clean probed four claimed
  have found : ConstantKind.claimed ⊆ decodeKinds reader.resolver kept := by
    intro kind claimed
    obtain ⟨tag, four, rfl⟩ := mapping.exists_kind claimed
    obtain ⟨index, block, -, -, -, here, path, -⟩ := ends four claimed
    exact List.mem_filterMap.2 ⟨block, List.mem_of_getElem? here, path⟩
  have kinds : ConstantKind.claimed.Perm (decodeKinds reader.resolver kept) :=
    (List.subperm_of_subset (by decide) found).perm_of_length_le (Nat.le_of_eq three)
  refine ⟨kinds.symm, dropped, skeleton, reduced, reduces.joins, ?_⟩
  intro tag four selects
  have claimed : mapping.kind tag ∈ ConstantKind.claimed := by
    cases named : mapping.kind tag with
    | default => exact absurd named selects
    | _ => decide
  obtain ⟨index, stub⟩ := ends four claimed
  obtain ⟨block, -, -, -, here, path, -⟩ := id stub
  refine ⟨index, stub, ?_⟩
  intro other twin there same
  exact eq_of_kind?_of_nodup (kinds.nodup_iff.1 (by decide)) here path there same

end GetterReader

namespace GetterReader.Specimen

/-- The live blocks of the specimen. -/
def view : List BasicBlock := (prune? (buildBlocks (getter []).body)).getD []

/-- The probe that asks the specimen for its number path ends in the stub of that path. -/
theorem endsInStub_of_resolve_number :
    (∀ instruction ∈ (getter []).body, instruction.IsBuilt) ∧
      reader.resolve (getter []) = .ok (mapping, keys) ∧
      prune? (buildBlocks (getter []).body) = some view ∧
      (∀ block ∈ view, block.kind? reader.resolver = none →
        ∀ instruction ∈ block.instructions, instruction.Unclaimed) ∧
      ∃ dropped skeleton, dispatchSkeleton reader.resolver (getter []).body = .ok skeleton ∧
        reader.EndsInStub view dropped skeleton 2 .number 1 := by
  have built : ∀ instruction ∈ (getter []).body, instruction.IsBuilt := by decide +kernel
  have resolved : reader.resolve (getter []) = .ok (mapping, keys) := by decide +kernel
  have pruned : prune? (buildBlocks (getter []).body) = some view := by decide +kernel
  have clean : ∀ block ∈ view, block.kind? reader.resolver = none →
      ∀ instruction ∈ block.instructions, instruction.Unclaimed := by decide +kernel
  obtain ⟨-, dropped, skeleton, reduced, -, ends⟩ :=
    GetterReader.endsInStub_of_resolve built resolved pruned clean
  obtain ⟨index, stub, only⟩ := ends 2 (by decide) (by decide)
  let path : BasicBlock := (view[1]?).getD ⟨0, 0, [], []⟩
  have first : view[1]? = some path := by decide +kernel
  have number : path.kind? reader.resolver = some .number := by decide +kernel
  rw [← only 1 path first number] at stub
  exact ⟨built, resolved, pruned, clean, dropped, skeleton, reduced, stub⟩

end GetterReader.Specimen

end ConstantRecovery
