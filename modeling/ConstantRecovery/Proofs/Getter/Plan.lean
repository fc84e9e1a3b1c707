import ConstantRecovery.Proofs.Getter.Skeleton

/-!
# Plans of getters

A plan says what a getter is put together from: a prologue, the arms of the dispatch in
order, and the default path. The decode path of an arm stands right behind the branch
that skips it, or behind the default path, where the branch goes to it. The body of a
plan is laid out from segments; this module says which, and that control reaches each.
-/

namespace ConstantRecovery

/-- An arm of a dispatch: a comparison of the tag, and the decode path that it selects. -/
structure Arm where
  /-- The kind that the path yields. -/
  kind : ConstantKind
  /-- Loads the tag. -/
  load : Instruction
  /-- Loads the tag of the path. -/
  literal : Instruction
  /-- The branch that compares both. -/
  opcode : UInt8
  /-- The branch skips the path if the tags differ; else it goes to the path if they are equal. -/
  inline : Bool
  /-- The path in front of its return. -/
  path : List Instruction

namespace Arm

/-- What stands in front of the branch. -/
def test (arm : Arm) : List Instruction := [arm.load, arm.literal]

/-- The decode path. -/
def segment (arm : Arm) : Segment := ⟨arm.path, .returns⟩

/-- How many segments the arm takes in the dispatch. -/
def width (arm : Arm) : Nat := if arm.inline then 2 else 1

/-- The arm as the skeleton has it. -/
def stubbed (arm : Arm) : Arm := { arm with path := [.ldcI4 arm.kind.sentinel] }

end Arm

/-- The segments of a dispatch and the default path, from a segment number on. The first one
starts with `lead`, and a path behind the default path stands where `target` says. -/
def dispatch (target : ConstantKind → Nat) (default : List Instruction) :
    Nat → List Instruction → List Arm → List Segment
  | _, lead, [] => [⟨lead ++ default, .returns⟩]
  | index, lead, arm :: rest =>
    if arm.inline then
      ⟨lead ++ arm.test, .branch arm.opcode (index + 2)⟩ :: arm.segment ::
        dispatch target default (index + 2) [] rest
    else
      ⟨lead ++ arm.test, .branch arm.opcode (target arm.kind)⟩ ::
        dispatch target default (index + 1) [] rest

/-- How many segments a dispatch and the default path take. -/
def dispatchWidth : List Arm → Nat
  | [] => 1
  | arm :: rest => arm.width + dispatchWidth rest

/-- What a getter is put together from. -/
structure GetterPlan where
  /-- What stands in front of the dispatch. -/
  prologue : List Instruction
  /-- The arms of the dispatch, in order. -/
  arms : List Arm
  /-- What stands on the default path in front of the load of the id. -/
  fallback : List Instruction
  /-- Loads the id. -/
  idLoad : Instruction
  /-- The arms whose paths stand behind the default path, in the order of these paths. -/
  behind : List Arm

namespace GetterPlan

/-- The number of the segment behind the default path that yields a kind. -/
def target (plan : GetterPlan) (kind : ConstantKind) : Nat :=
  dispatchWidth plan.arms + plan.behind.findIdx (·.kind = kind)

/-- The segments of a getter. -/
def segments (plan : GetterPlan) : List Segment :=
  dispatch plan.target (plan.fallback ++ [plan.idLoad]) 0 plan.prologue plan.arms ++
    plan.behind.map (·.segment)

/-- The body of a getter. -/
def body (plan : GetterPlan) : List Instruction := assemble 0 plan.segments

/-- The plan of the skeleton, before anything is dropped from its front. -/
def canonical (plan : GetterPlan) : GetterPlan where
  prologue := plan.prologue.map (·.neutralized)
  arms := plan.arms.map (·.stubbed)
  fallback := plan.fallback.map (·.neutralized)
  idLoad := plan.idLoad
  behind := plan.behind.map (·.stubbed)

/-- The plan of the skeleton. -/
def skeleton (plan : GetterPlan) : GetterPlan :=
  { plan.canonical with prologue := plan.canonical.prologue.dropWhile (!·.isLocalLoad) }

end GetterPlan

section Dispatch

variable {target : ConstantKind → Nat} {default lead : List Instruction} {index : Nat} {arm : Arm}
  {rest : List Arm}

/-- An arm whose path stands right behind its comparison takes two segments, the comparison and the
path, and branches over the path. -/
theorem dispatch_inline (inline : arm.inline = true) :
    dispatch target default index lead (arm :: rest) =
      ⟨lead ++ arm.test, .branch arm.opcode (index + 2)⟩ :: arm.segment ::
        dispatch target default (index + 2) [] rest := by
  rw [dispatch, if_pos inline]

/-- An arm whose path stands behind the default path takes one segment, and branches to the path. -/
theorem dispatch_far (far : arm.inline = false) :
    dispatch target default index lead (arm :: rest) =
      ⟨lead ++ arm.test, .branch arm.opcode (target arm.kind)⟩ ::
        dispatch target default (index + 1) [] rest := by
  rw [dispatch, if_neg (by rw [far]; nofun)]

/-- A dispatch has at least the segment of its default path. -/
theorem dispatchWidth_pos (arms : List Arm) : 0 < dispatchWidth arms := by
  induction arms with
  | nil => exact Nat.one_pos
  | cons arm rest ih => exact Nat.add_pos_right arm.width ih

/-- A path right behind its comparison makes a dispatch two segments wider. -/
theorem dispatchWidth_inline (inline : arm.inline = true) :
    dispatchWidth (arm :: rest) = dispatchWidth rest + 2 := by
  rw [dispatchWidth, Arm.width, if_pos inline, Nat.add_comm]

/-- A path behind the default path makes a dispatch one segment wider. -/
theorem dispatchWidth_far (far : arm.inline = false) :
    dispatchWidth (arm :: rest) = dispatchWidth rest + 1 := by
  rw [dispatchWidth, Arm.width, far, Nat.add_comm]
  rfl

/-- A dispatch has as many segments as it is wide. -/
theorem length_dispatch (target : ConstantKind → Nat) (default : List Instruction) (index : Nat)
    (lead : List Instruction) (arms : List Arm) :
    (dispatch target default index lead arms).length = dispatchWidth arms := by
  induction arms generalizing index lead with
  | nil => rfl
  | cons arm rest ih =>
    cases inline : arm.inline with
    | true => rw [dispatch_inline inline, dispatchWidth_inline inline, List.length_cons,
        List.length_cons, ih]
    | false => rw [dispatch_far inline, dispatchWidth_far inline, List.length_cons, ih]

/-- What leads into a dispatch stands in front of its first segment. -/
theorem dispatch_cons (target : ConstantKind → Nat) (default : List Instruction) (index : Nat)
    (arm : Arm) (rest : List Arm) :
    ∃ exit others, ∀ lead,
      dispatch target default index lead (arm :: rest) = ⟨lead ++ arm.test, exit⟩ :: others := by
  cases inline : arm.inline with
  | true => exact ⟨_, _, fun lead => dispatch_inline inline⟩
  | false => exact ⟨_, _, fun lead => dispatch_far inline⟩

/-- An arm is put together from built code that does what its place asks for. -/
structure Arm.IsBuilt (arm : Arm) : Prop where
  /-- The load of the tag is straight. -/
  load : arm.load.IsStraight
  /-- So is the literal. -/
  literal : arm.literal.IsStraight
  /-- So is the path. -/
  path : ∀ instruction ∈ arm.path, instruction.IsStraight
  /-- The branch is taken to a path elsewhere, or over a path right behind it. -/
  opcode : Operation.ofOpcode? 0 arm.opcode = some (.jumpIfEqual (!arm.inline))

/-- The branch of an arm is conditional. -/
theorem Arm.IsBuilt.conditional (built : arm.IsBuilt) :
    (Opcode.lookup 0 arm.opcode).map (·.flow) = some .conditional := by
  have flow := flow_of_ofOpcode? built.opcode
  cases row : (Opcode.lookup 0 arm.opcode).map (·.flow) with
  | none =>
    rw [row] at flow
    cases flow
  | some found =>
    rw [row] at flow
    exact congrArg some flow

/-- The comparison of an arm is straight code. -/
theorem Arm.IsBuilt.test (built : arm.IsBuilt) :
    ∀ instruction ∈ arm.test, instruction.IsStraight :=
  List.forall_mem_cons.2 ⟨built.load, List.forall_mem_singleton.2 built.literal⟩

/-- No branch of a dispatch goes to the first segment. -/
theorem untargeted_dispatch {arms : List Arm} (behind : ∀ kind, 0 < target kind) :
    ∀ segment ∈ dispatch target default index lead arms, ∀ opcode,
      segment.exit ≠ .branch opcode 0 := by
  induction arms generalizing index lead with
  | nil => exact List.forall_mem_singleton.2 nofun
  | cons arm rest ih =>
    cases inline : arm.inline with
    | true =>
      rw [dispatch_inline inline]
      refine List.forall_mem_cons.2 ⟨fun opcode equal => ?_,
        List.forall_mem_cons.2 ⟨nofun, @ih [] (index + 2)⟩⟩
      exact absurd (Exit.branch.inj equal).2 (Nat.succ_ne_zero _)
    | false =>
      rw [dispatch_far inline]
      refine List.forall_mem_cons.2 ⟨fun opcode equal => ?_, @ih [] (index + 1)⟩
      have zero := (Exit.branch.inj equal).2
      exact absurd zero (Nat.ne_of_gt (behind arm.kind))

/-- A dispatch of built arms is sound in a view that has all it branches to. -/
theorem sound_dispatch {count : Nat} {arms : List Arm}
    (leads : ∀ instruction ∈ lead, instruction.IsStraight)
    (defaults : ∀ instruction ∈ default, instruction.IsStraight)
    (built : ∀ arm ∈ arms, arm.IsBuilt) (inside : index + dispatchWidth arms ≤ count)
    (known : ∀ arm ∈ arms, arm.inline = false → target arm.kind < count) :
    ∀ segment ∈ dispatch target default index lead arms, segment.IsSound count := by
  induction arms generalizing index lead with
  | nil =>
    exact List.forall_mem_singleton.2 ⟨List.forall_mem_append.2 ⟨leads, defaults⟩, trivial⟩
  | cons arm rest ih =>
    obtain ⟨head, others⟩ := List.forall_mem_cons.1 built
    obtain ⟨first, later⟩ := List.forall_mem_cons.1 known
    have straight := List.forall_mem_append.2 ⟨leads, head.test⟩
    cases inline : arm.inline with
    | true =>
      rw [dispatchWidth_inline inline] at inside
      have width := dispatchWidth_pos rest
      have tail := @ih [] (index + 2) (List.forall_mem_nil _) others (by omega) later
      rw [dispatch_inline inline]
      have branch : (Exit.branch arm.opcode (index + 2)).IsSound count :=
        ⟨by omega, head.conditional⟩
      exact List.forall_mem_cons.2
        ⟨⟨straight, branch⟩, List.forall_mem_cons.2 ⟨⟨head.path, trivial⟩, tail⟩⟩
    | false =>
      rw [dispatchWidth_far inline] at inside
      have tail := @ih [] (index + 1) (List.forall_mem_nil _) others (by omega) later
      rw [dispatch_far inline]
      exact List.forall_mem_cons.2 ⟨⟨straight, first inline, head.conditional⟩, tail⟩

/-- What a list has from a position on, entry by entry. -/
theorem getElem?_of_drop {α : Type} {items rest : List α} {first : α} {position : Nat}
    (shape : items.drop position = first :: rest) :
    items[position]? = some first ∧ items.drop (position + 1) = rest := by
  constructor
  · have here := congrArg (·[0]?) shape
    simpa using here
  · rw [← List.drop_drop, shape, List.drop_succ_cons, List.drop_zero]

/-- A run that gets to a dispatch can get to each of its segments, and to each path behind the
default path. -/
theorem reached_dispatch {segments back : List Segment} {base : Nat} {arms : List Arm}
    (sound : Sound segments)
    (shape : segments.drop index = dispatch target default index lead arms ++ back)
    (here : Relation.ReflTransGen (Leads (buildBlocks (assemble base segments))) 0 index) :
    (∀ other, index ≤ other → other < index + dispatchWidth arms →
      Relation.ReflTransGen (Leads (buildBlocks (assemble base segments))) 0 other) ∧
    ∀ arm ∈ arms, arm.inline = false →
      Relation.ReflTransGen (Leads (buildBlocks (assemble base segments))) 0 (target arm.kind) := by
  induction arms generalizing index lead with
  | nil =>
    refine ⟨fun other low high => ?_, List.forall_mem_nil _⟩
    have same : other = index := by
      rw [dispatchWidth] at high
      exact Nat.le_antisymm (Nat.le_of_lt_succ high) low
    exact same ▸ here
  | cons arm rest ih =>
    have length := congrArg List.length shape
    have width := dispatchWidth_pos rest
    rw [List.length_drop, List.length_append, length_dispatch] at length
    cases inline : arm.inline with
    | true =>
      rw [dispatchWidth_inline inline] at length ⊢
      rw [dispatch_inline inline] at shape
      obtain ⟨branch, behind⟩ := getElem?_of_drop shape
      have path := here.tail (sound.leads_next base branch (by omega))
      obtain ⟨inside, targets⟩ :=
        ih (getElem?_of_drop behind).2 (here.tail (sound.leads_target base branch))
      refine ⟨fun other low high => ?_, List.forall_mem_cons.2 ⟨fun far => ?_, targets⟩⟩
      · by_cases first : other = index
        · exact first ▸ here
        · by_cases second : other = index + 1
          · exact second ▸ path
          · exact inside other (by omega) (by omega)
      · rw [inline] at far
        cases far
    | false =>
      rw [dispatchWidth_far inline] at length ⊢
      rw [dispatch_far inline] at shape
      obtain ⟨branch, behind⟩ := getElem?_of_drop shape
      obtain ⟨inside, targets⟩ :=
        ih behind (here.tail (sound.leads_next base branch (by omega)))
      refine ⟨fun other low high => ?_,
        List.forall_mem_cons.2 ⟨fun _ => here.tail (sound.leads_target base branch), targets⟩⟩
      by_cases first : other = index
      · exact first ▸ here
      · exact inside other (by omega) (by omega)

/-- An arm that survives in the skeleton: only its path is marked, and its test drives the
dispatch. -/
structure Arm.IsMarked (resolver : Resolver) (arm : Arm) : Prop where
  /-- The comparison carries no marker. -/
  test : classify? resolver arm.test = none
  /-- The comparison stays in the skeleton. -/
  drives : arm.test.map (·.neutralized) = arm.test
  /-- The path carries the marker of the kind. -/
  path : classify? resolver arm.path = some arm.kind

/-- A stub stands for a marked path. -/
theorem Arm.IsMarked.canonical_segment {resolver : Resolver} (marked : arm.IsMarked resolver) :
    arm.segment.canonical resolver = arm.stubbed.segment := by
  rw [Segment.canonical, Arm.segment, marked.path]
  rfl

variable {resolver : Resolver} {arms : List Arm}

/-- Code that is put together from code without a marker has no marker. -/
theorem classify?_append {front back : List Instruction} (first : classify? resolver front = none)
    (second : classify? resolver back = none) : classify? resolver (front ++ back) = none := by
  rw [classify?] at first second
  rw [classify?, List.findSome?_append, first, second]
  rfl

/-- An unmarked segment loses what drives no dispatch. -/
theorem Segment.canonical_of_unmarked {segment : Segment}
    (unmarked : classify? resolver segment.straight = none) : segment.canonical resolver =
      { segment with straight := segment.straight.map (·.neutralized) } := by
  rw [Segment.canonical, unmarked]

/-- The skeleton of a dispatch is a dispatch. -/
theorem canonical_dispatch (leads : classify? resolver lead = none)
    (defaults : classify? resolver default = none) (marked : ∀ arm ∈ arms, arm.IsMarked resolver) :
    (dispatch target default index lead arms).map (·.canonical resolver) =
      dispatch target (default.map (·.neutralized)) index (lead.map (·.neutralized))
        (arms.map (·.stubbed)) := by
  induction arms generalizing index lead with
  | nil =>
    have same := @Segment.canonical_of_unmarked resolver ⟨lead ++ default, .returns⟩
      (classify?_append leads defaults)
    rw [dispatch, List.map_singleton, same, List.map_append]
    rfl
  | cons arm rest ih =>
    obtain ⟨head, others⟩ := List.forall_mem_cons.1 marked
    have changed (exit : Exit) := @Segment.canonical_of_unmarked resolver ⟨lead ++ arm.test, exit⟩
      (classify?_append leads head.test)
    simp only [List.map_append, head.drives] at changed
    cases inline : arm.inline with
    | true =>
      have stub : arm.stubbed.inline = true := inline
      rw [dispatch_inline inline, List.map_cons, List.map_cons, changed, head.canonical_segment,
        @ih [] (index + 2) rfl others, List.map_cons, dispatch_inline stub]
      rfl
    | false =>
      have stub : arm.stubbed.inline = false := inline
      rw [dispatch_far inline, List.map_cons, changed, @ih [] (index + 1) rfl others,
        List.map_cons, dispatch_far stub]
      rfl

/-- The decode paths in a dispatch are those of its inline arms. -/
theorem kinds_dispatch (leads : classify? resolver lead = none)
    (defaults : classify? resolver default = none) (marked : ∀ arm ∈ arms, arm.IsMarked resolver) :
    (dispatch target default index lead arms).filterMap (classify? resolver ·.straight) =
      (arms.filter (·.inline)).map (·.kind) := by
  induction arms generalizing index lead with
  | nil =>
    have none := classify?_append leads defaults
    simp [dispatch, none]
  | cons arm rest ih =>
    obtain ⟨head, others⟩ := List.forall_mem_cons.1 marked
    have none := classify?_append leads head.test
    have path : classify? resolver arm.segment.straight = some arm.kind := head.path
    cases inline : arm.inline with
    | true => simp [dispatch_inline inline, none, path, inline, @ih [] _ rfl others]
    | false => simp [dispatch_far inline, none, inline, @ih [] _ rfl others]

end Dispatch

/-- A plan is put together from built code, and each path that is not inline stands behind the
default path once. -/
structure GetterPlan.IsBuilt (plan : GetterPlan) : Prop where
  /-- Control passes the prologue. -/
  prologue : ∀ instruction ∈ plan.prologue, instruction.IsStraight
  /-- Control passes the default path. -/
  fallback : ∀ instruction ∈ plan.fallback, instruction.IsStraight
  /-- Control passes the load of the id. -/
  idLoad : plan.idLoad.IsStraight
  /-- The arms compare, and their paths are straight. -/
  arms : ∀ arm ∈ plan.arms, arm.IsBuilt
  /-- No two arms yield one kind. -/
  kinds : (plan.arms.map (·.kind)).Nodup
  /-- The paths elsewhere are those of the arms that are not inline. -/
  behind : plan.behind.Perm (plan.arms.filter (!·.inline))

/-- The skeleton finds the decode paths of a plan and nothing else. -/
structure GetterPlan.IsMarked (resolver : Resolver) (plan : GetterPlan) : Prop where
  /-- The prologue carries no marker. -/
  prologue : classify? resolver plan.prologue = none
  /-- The default path carries no marker. -/
  fallback : classify? resolver (plan.fallback ++ [plan.idLoad]) = none
  /-- The id is loaded from a local variable. -/
  idLoad : plan.idLoad.isLocalLoad = true
  /-- The paths of the arms carry markers, and their comparisons load local variables. -/
  arms : ∀ arm ∈ plan.arms, arm.IsMarked resolver ∧ arm.load.isLocalLoad = true

/-- Straight code stays straight when it is neutralized. -/
theorem isStraight_map_neutralized {code : List Instruction}
    (straight : ∀ instruction ∈ code, instruction.IsStraight) :
    ∀ instruction ∈ code.map (·.neutralized), instruction.IsStraight := by
  intro instruction member
  obtain ⟨original, inside, rfl⟩ := List.mem_map.1 member
  exact Segment.isStraight_neutralized (straight original inside)

namespace GetterPlan

variable {plan : GetterPlan} {resolver : Resolver} {arm : Arm}

namespace IsBuilt

/-- The arms whose paths stand behind the default path are those that are not inline. -/
theorem mem_behind_iff (built : plan.IsBuilt) :
    arm ∈ plan.behind ↔ arm ∈ plan.arms ∧ arm.inline = false := by
  rw [built.behind.mem_iff, List.mem_filter, Bool.not_eq_true']

/-- A path behind the default path is found by its kind. -/
theorem target_eq (built : plan.IsBuilt) {position : Nat}
    (here : plan.behind[position]? = some arm) :
    plan.target arm.kind = dispatchWidth plan.arms + position := by
  obtain ⟨inside, rfl⟩ := List.getElem?_eq_some_iff.1 here
  have sublist := (List.filter_sublist (p := (!·.inline)) (l := plan.arms)).map (·.kind)
  have nodup := ((built.behind.map (·.kind)).nodup_iff).2 (built.kinds.sublist sublist)
  rw [target, (List.findIdx_eq inside).2]
  refine ⟨decide_eq_true rfl, fun other before => decide_eq_false fun same => ?_⟩
  have bound : other < (plan.behind.map (·.kind)).length := by
    rw [List.length_map]
    omega
  have equal : (plan.behind.map (·.kind))[other]? = (plan.behind.map (·.kind))[position]? := by
    rw [List.getElem?_map, List.getElem?_map, here,
      List.getElem?_eq_getElem (Nat.lt_trans before inside)]
    exact congrArg some same
  exact absurd ((List.getElem?_inj bound nodup).1 equal) (Nat.ne_of_lt before)

/-- The segment that a branch to a path goes to. -/
theorem getElem?_target (built : plan.IsBuilt) (member : arm ∈ plan.arms)
    (far : arm.inline = false) : plan.segments[plan.target arm.kind]? = some arm.segment := by
  obtain ⟨position, here⟩ := List.mem_iff_getElem?.1 (built.mem_behind_iff.2 ⟨member, far⟩)
  rw [built.target_eq here, segments, List.getElem?_append_right, length_dispatch,
    Nat.add_sub_cancel_left, List.getElem?_map, here]
  · rfl
  · rw [length_dispatch]
    exact Nat.le_add_right _ _

/-- The segments of a built plan are sound. -/
theorem sound (built : plan.IsBuilt) : Sound plan.segments := by
  have length : plan.segments.length = dispatchWidth plan.arms + plan.behind.length := by
    rw [segments, List.length_append, length_dispatch, List.length_map]
  refine List.forall_mem_append.2 ⟨?_, ?_⟩
  · refine sound_dispatch built.prologue
      (List.forall_mem_append.2 ⟨built.fallback, List.forall_mem_singleton.2 built.idLoad⟩)
      built.arms (by omega) fun arm member far => ?_
    exact (List.getElem?_eq_some_iff.1 (built.getElem?_target member far)).1
  · intro segment member
    obtain ⟨arm, inside, rfl⟩ := List.mem_map.1 member
    exact ⟨(built.arms arm (built.mem_behind_iff.1 inside).1).path, trivial⟩

/-- Control can get to each segment of a built plan. -/
theorem reached (built : plan.IsBuilt) (base : Nat) :
    ∀ index < plan.segments.length,
      Relation.ReflTransGen (Leads (buildBlocks (assemble base plan.segments))) 0 index := by
  intro index inside
  obtain ⟨front, targets⟩ := @reached_dispatch plan.target (plan.fallback ++ [plan.idLoad])
    plan.prologue 0 plan.segments (plan.behind.map (·.segment)) base plan.arms built.sound rfl .refl
  by_cases early : index < dispatchWidth plan.arms
  · exact front index (Nat.zero_le _) (by omega)
  · obtain ⟨position, rfl⟩ := Nat.exists_eq_add_of_le (Nat.le_of_not_lt early)
    have bound : position < plan.behind.length := by
      rw [segments, List.length_append, length_dispatch, List.length_map] at inside
      omega
    have here := List.getElem?_eq_getElem bound
    obtain ⟨member, far⟩ := built.mem_behind_iff.1 (List.getElem_mem bound)
    have path := targets _ member far
    rwa [built.target_eq here] at path

/-- The skeleton of a plan is put together from built code. -/
theorem canonical (built : plan.IsBuilt) : plan.canonical.IsBuilt where
  prologue := isStraight_map_neutralized built.prologue
  fallback := isStraight_map_neutralized built.fallback
  idLoad := built.idLoad
  arms := by
    intro arm member
    obtain ⟨original, inside, rfl⟩ := List.mem_map.1 member
    have arms := built.arms original inside
    exact ⟨arms.load, arms.literal, List.forall_mem_singleton.2 (Segment.isStraight_sentinel _),
      arms.opcode⟩
  kinds := by
    show ((plan.arms.map (·.stubbed)).map (·.kind)).Nodup
    rw [List.map_map]
    exact built.kinds
  behind := by
    show (plan.behind.map (·.stubbed)).Perm ((plan.arms.map (·.stubbed)).filter (!·.inline))
    rw [List.filter_map]
    exact built.behind.map (·.stubbed)

/-- Built code stays built when its front is dropped. -/
theorem skeleton (built : plan.IsBuilt) : plan.skeleton.IsBuilt :=
  { built.canonical with
    prologue := fun instruction member =>
      built.canonical.prologue instruction (List.dropWhile_subset _ member) }

end IsBuilt

/-- The paths of a skeleton stand where those of its plan stand. -/
theorem target_canonical (plan : GetterPlan) : plan.canonical.target = plan.target := by
  have width (arms : List Arm) : dispatchWidth (arms.map (·.stubbed)) = dispatchWidth arms := by
    induction arms with
    | nil => rfl
    | cons arm rest ih => exact congrArg (arm.width + ·) ih
  funext kind
  show dispatchWidth (plan.arms.map (·.stubbed)) +
    (plan.behind.map (·.stubbed)).findIdx (·.kind = kind) = _
  rw [width, List.findIdx_map]
  rfl

/-- A prologue stands in front of the first segment of a plan and matters nowhere else. -/
theorem exists_segments_eq {rest : List Arm} (shape : plan.arms = arm :: rest) :
    ∃ exit others, ∀ prologue,
      { plan with prologue }.segments = ⟨prologue ++ arm.test, exit⟩ :: others := by
  obtain ⟨exit, others, split⟩ :=
    dispatch_cons plan.target (plan.fallback ++ [plan.idLoad]) 0 arm rest
  rw [← shape] at split
  exact ⟨exit, others ++ plan.behind.map (·.segment), fun prologue =>
    congrArg (· ++ plan.behind.map (·.segment)) (split prologue)⟩

/-- No branch of a plan goes to its first segment. -/
theorem untargeted_segments (plan : GetterPlan) :
    ∀ segment ∈ plan.segments, ∀ opcode, segment.exit ≠ .branch opcode 0 := by
  have behind (kind : ConstantKind) : 0 < plan.target kind :=
    Nat.add_pos_left (dispatchWidth_pos plan.arms) _
  intro segment member opcode
  rcases List.mem_append.1 member with front | back
  · exact untargeted_dispatch behind segment front opcode
  · obtain ⟨arm, -, rfl⟩ := List.mem_map.1 back
    intro equal
    cases equal

/-- Behind the front that is dropped, a prologue or else the test behind it starts with a load of
a local variable. -/
theorem exists_first_load (prologue : List Instruction) (loads : arm.load.isLocalLoad = true) :
    ∃ first others, prologue.dropWhile (!·.isLocalLoad) ++ arm.test = first :: others ∧
      first.isLocalLoad = true := by
  cases left : prologue.dropWhile (!·.isLocalLoad) with
  | nil => exact ⟨arm.load, [arm.literal], rfl, loads⟩
  | cons first rest =>
    have stops := List.head?_dropWhile_not (fun instruction : Instruction =>
      !instruction.isLocalLoad) prologue
    rw [left] at stops
    exact ⟨first, rest ++ arm.test, rfl, by simpa using stops⟩

/-- Trimming the body of a plan trims its prologue. -/
theorem trim_assemble_segments {rest : List Arm} (shape : plan.arms = arm :: rest)
    (loads : arm.load.isLocalLoad = true) :
    ∃ base, trim (assemble 0 plan.segments) = assemble base
      { plan with prologue := plan.prologue.dropWhile (!·.isLocalLoad) }.segments := by
  obtain ⟨exit, others, segments⟩ := exists_segments_eq shape
  have whole : plan.segments = ⟨plan.prologue ++ arm.test, exit⟩ :: others := segments plan.prologue
  have kept := segments (plan.prologue.dropWhile (!·.isLocalLoad))
  have untargeted := untargeted_segments
    { plan with prologue := plan.prologue.dropWhile (!·.isLocalLoad) }
  rw [kept] at untargeted
  obtain ⟨first, behind, starts, isLoad⟩ := exists_first_load plan.prologue loads
  have silent : ∀ instruction ∈ plan.prologue.takeWhile (!·.isLocalLoad),
      instruction.isLocalLoad = false := by
    intro instruction member
    have all := List.all_takeWhile (p := fun instruction : Instruction => !instruction.isLocalLoad)
      (l := plan.prologue)
    simpa using List.all_eq_true.1 all instruction member
  have trimmed := trim_assemble silent starts isLoad untargeted
  rw [← List.append_assoc, List.takeWhile_append_dropWhile] at trimmed
  rw [whole, kept]
  exact ⟨_, trimmed⟩

namespace IsMarked

/-- The skeleton of the segments of a plan is laid out from its canonical plan. -/
theorem map_canonical_segments (built : plan.IsBuilt) (marked : plan.IsMarked resolver) :
    plan.segments.map (·.canonical resolver) = plan.canonical.segments := by
  have front := @canonical_dispatch plan.target (plan.fallback ++ [plan.idLoad]) plan.prologue 0
    resolver plan.arms marked.prologue marked.fallback fun arm member => (marked.arms arm member).1
  have idLoad := Instruction.neutralized_of_isLocalLoad marked.idLoad
  have behind : (plan.behind.map (·.segment)).map (·.canonical resolver) =
      plan.canonical.behind.map (·.segment) := by
    show _ = (plan.behind.map (·.stubbed)).map (·.segment)
    rw [List.map_map, List.map_map]
    refine List.map_congr_left fun arm member => ?_
    exact (marked.arms arm (built.mem_behind_iff.1 member).1).1.canonical_segment
  rw [List.map_append, List.map_singleton, idLoad] at front
  rw [segments, List.map_append, front, behind, segments, target_canonical]
  rfl

/-- Each arm of a plan has one decode path in its body. -/
theorem length_kinds (built : plan.IsBuilt) (marked : plan.IsMarked resolver) :
    (plan.segments.filterMap (classify? resolver ·.straight)).length = plan.arms.length := by
  have front := @kinds_dispatch plan.target (plan.fallback ++ [plan.idLoad]) plan.prologue 0
    resolver plan.arms marked.prologue marked.fallback fun arm member => (marked.arms arm member).1
  have behind : (plan.behind.map (·.segment)).filterMap (classify? resolver ·.straight) =
      plan.behind.map (·.kind) := by
    rw [List.filterMap_map, ← List.filterMap_eq_map]
    refine List.filterMap_congr fun arm member => ?_
    exact (marked.arms arm (built.mem_behind_iff.1 member).1).1.path
  rw [segments, List.filterMap_append, front, behind, List.length_append, List.length_map,
    List.length_map, built.behind.length_eq]
  exact (List.length_eq_length_filter_add _).symm

/-- The skeleton of a getter is laid out from the skeleton of its plan, where the front that is
dropped ended. -/
theorem dispatchSkeleton_body (built : plan.IsBuilt) (marked : plan.IsMarked resolver)
    (three : plan.arms.length = 3) :
    ∃ base, dispatchSkeleton resolver plan.body = .ok (assemble base plan.skeleton.segments) := by
  have whole := built.sound.dispatchSkeleton_assemble (built.reached 0)
    ((length_kinds built marked).trans three)
  rw [map_canonical_segments built marked] at whole
  obtain ⟨arm, rest, shape⟩ := List.exists_cons_of_length_pos (by omega : 0 < plan.arms.length)
  have loads := (marked.arms arm (by rw [shape]; exact List.mem_cons_self)).2
  have canonical : plan.canonical.arms = arm.stubbed :: rest.map (·.stubbed) :=
    congrArg (List.map Arm.stubbed) shape
  obtain ⟨base, trimmed⟩ := trim_assemble_segments canonical loads
  rw [trimmed] at whole
  exact ⟨base, whole⟩

end IsMarked

end GetterPlan

end ConstantRecovery
