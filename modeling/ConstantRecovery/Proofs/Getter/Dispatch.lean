import ConstantRecovery.Proofs.Getter.Plan
import ConstantRecovery.Proofs.Machine.Execution

/-!
# Running a dispatch

With a tag in local variable 0 and the default sentinel in local variable 1, a run of a
dispatch tries one arm after the other. It ends in the stub of the first arm that asks
for the tag, or on the default path, and leaves the sentinel of that path on top of the
stack, above whatever the code in front of the dispatch has put there.
-/

namespace ConstantRecovery

variable {base index : Nat} {segments : List Segment}

/-- A segment stands in the stream at its place. -/
theorem stands_assemble {segment : Segment} (here : segments[index]? = some segment) :
    Stands (assemble base segments) (placeOf segments index)
      (segment.code (startOf base segments)) := by
  intro position instruction there
  have inside := (List.getElem?_eq_some_iff.1 there).1
  rw [Segment.code, List.length_append, List.length_singleton] at inside
  obtain ⟨offset, place⟩ := @getElem?_assemble base segments index position segment here inside
  rw [there] at place
  exact ⟨offset, place⟩

/-- A jump to the start of a segment lands at its place. -/
theorem Sound.indexOf_startOf (sound : Sound segments) {context : Context}
    (starts : context.starts = offsets (assemble base segments))
    (inside : index < segments.length) :
    context.indexOf (startOf base segments index) = .ok (placeOf segments index) := by
  rw [Context.indexOf, starts, sound.lastPosition?_startOf base inside]

/-- A run looks up a tag. -/
structure Context.Probes (context : Context) (code : List Instruction) (tag : Int32) : Prop where
  /-- The first local variable holds the tag. -/
  tag : context.locals.get? 0 = some (.int32 tag)
  /-- The second one holds the sentinel of the default. -/
  id : context.locals.get? 1 = some (.int32 ConstantKind.default.sentinel)
  /-- Offsets are looked up in the code. -/
  starts : context.starts = offsets code

/-- A stack or a position makes no difference to what is looked up. -/
theorem Context.Probes.update {context : Context} {code : List Instruction} {tag : Int32}
    (probes : context.Probes code tag) (stack : List Value) (position : Nat) :
    Context.Probes { context with stack, position } code tag :=
  ⟨probes.tag, probes.id, probes.starts⟩

/-- A stretch that is harmless is run through while a tag is looked up. -/
theorem Context.Probes.executes {limits : Limits} {code stretch : List Instruction} {cursor : Nat}
    {context : Context} {tag : Int32} (probes : context.Probes code tag)
    (stands : Stands code cursor stretch)
    (harmless : ∀ instruction ∈ stretch, instruction.Harmless) :
    ∃ stack position, Executes limits code stretch.length cursor context
      (cursor + stretch.length) { context with stack, position } :=
  executes_of_harmless stands harmless (by rw [probes.tag]; rfl) (by rw [probes.id]; rfl)

/-- An arm asks for a tag. -/
structure Arm.AsksFor (arm : Arm) (tag : Int32) : Prop where
  /-- The tag is loaded. -/
  load : arm.load.loadedLocal? = some 0
  /-- It is compared with the tag asked for. -/
  literal : arm.literal.int32Literal? = some tag
  /-- The branch is taken to a path elsewhere, or over a path right behind it. -/
  opcode : Operation.ofOpcode? 0 arm.opcode = some (.jumpIfEqual (!arm.inline))

section Segments

variable {limits : Limits} {context : Context} {tag : Int32} {lead : List Instruction}

/-- A load, wherever it stands, is executed by putting its value on the stack. -/
theorem executes_of_push {code : List Instruction} {cursor : Nat} {instruction : Instruction}
    {rest : List Instruction} {value : Value} (stands : Stands code cursor (instruction :: rest))
    (done : ∀ position, step instruction { context with position } =
      .ok .proceed (Context.push { context with position } value)) :
    ∃ position, Executes limits code 1 cursor context (cursor + 1)
      { context with stack := value :: context.stack, position } := by
  obtain ⟨offset, here⟩ := stands.head
  exact ⟨offset, executes_of_proceed here (step_placedAt (done offset) offset)⟩

/-- A return ends the run and leaves the stack. -/
theorem finishes_of_returns {code : List Instruction} {cursor : Nat}
    (stands : Stands code cursor [.ret]) :
    ∃ position, Finishes limits code 1 cursor context { context with position } := by
  obtain ⟨offset, here⟩ := stands.head
  exact ⟨offset, finishes_of_finish here rfl⟩

/-- A stub leaves the sentinel of its path. -/
theorem finishes_stub {kind : ConstantKind}
    (here : segments[index]? = some ⟨[.ldcI4 kind.sentinel], .returns⟩) :
    ∃ after, Finishes limits (assemble base segments) 2 (placeOf segments index) context after ∧
      after.top? = some (.int32 kind.sentinel) := by
  have stands := @stands_assemble base index segments _ here
  have literal : (Instruction.ldcI4 kind.sentinel).int32Literal? = some kind.sentinel := by
    cases kind <;> decide
  obtain ⟨first, load⟩ := @executes_of_push limits context _ _ _ _ _ stands
    fun position => step_of_int32Literal? literal
  obtain ⟨last, ends⟩ := finishes_of_returns stands.tail
  exact ⟨_, load.finishes ends, rfl⟩

/-- The default path leaves the id. -/
theorem finishes_default {fallback : List Instruction} {idLoad : Instruction}
    (here : segments[index]? = some ⟨lead ++ (fallback ++ [idLoad]), .returns⟩)
    (leads : ∀ instruction ∈ lead, instruction.Harmless)
    (fallbacks : ∀ instruction ∈ fallback, instruction.Harmless)
    (loads : idLoad.loadedLocal? = some 1)
    (probes : context.Probes (assemble base segments) tag) :
    ∃ after, Finishes limits (assemble base segments) (lead.length + (fallback.length + 2))
      (placeOf segments index) context after ∧
        after.top? = some (.int32 ConstantKind.default.sentinel) := by
  have stands := @stands_assemble base index segments _ here
  have shape : Segment.code (startOf base segments) ⟨lead ++ (fallback ++ [idLoad]), .returns⟩ =
      (lead ++ fallback) ++ [idLoad, .ret] := by
    rw [Segment.code, List.append_assoc, List.append_assoc, List.append_assoc]
    rfl
  rw [shape] at stands
  obtain ⟨stack, position, front⟩ := @Context.Probes.executes limits _ _ _ _ _ probes
    stands.left (List.forall_mem_append.2 ⟨leads, fallbacks⟩)
  obtain ⟨second, load⟩ := @executes_of_push limits { context with stack, position } _ _ _ _ _
    stands.right fun position => step_of_loadedLocal? loads probes.id
  obtain ⟨last, ends⟩ := finishes_of_returns stands.right.tail
  have whole := front.finishes (load.finishes ends)
  rw [List.length_append, Nat.add_assoc] at whole
  exact ⟨_, whole, rfl⟩

/-- A test takes the branch of its arm, or goes on to the next segment. -/
theorem executes_test {arm : Arm} {target : Nat} {asked : Int32} (sound : Sound segments)
    (here : segments[index]? = some ⟨lead ++ arm.test, .branch arm.opcode target⟩)
    (leads : ∀ instruction ∈ lead, instruction.Harmless) (asks : arm.AsksFor asked)
    (probes : context.Probes (assemble base segments) tag) :
    ∃ stack position, Executes limits (assemble base segments) (lead.length + 3)
      (placeOf segments index) context
      (placeOf segments (if decide (tag = asked) = !arm.inline then target else index + 1))
      { context with stack, position } := by
  have exits := (sound _ (List.mem_of_getElem? here)).exit
  have aims := Instruction.target?_branch exits.2 (startOf base segments target)
  have bytes := Instruction.build_bytes 0 arm.opcode (.target (startOf base segments target))
  have next := placeOf_succ here
  have stands := @stands_assemble base index segments _ here
  have shape : Segment.code (startOf base segments)
      ⟨lead ++ arm.test, .branch arm.opcode target⟩ =
      lead ++ [arm.load, arm.literal, .branch arm.opcode (startOf base segments target)] := by
    rw [Segment.code, List.append_assoc]
    rfl
  rw [shape] at stands
  obtain ⟨stack, position, front⟩ := @Context.Probes.executes limits _ _ _ _ _ probes
    stands.left leads
  obtain ⟨second, load⟩ := @executes_of_push limits { context with stack, position } _ _ _ _ _
    stands.right fun position => step_of_loadedLocal? asks.load probes.tag
  obtain ⟨third, literal⟩ := @executes_of_push limits
    { context with stack := .int32 tag :: stack, position := second } _ _ _ _ _
    stands.right.tail fun position => step_of_int32Literal? asks.literal
  obtain ⟨offset, branch⟩ := stands.right.tail.tail.head
  have known : Operation.ofOpcode?
      (Instruction.branch arm.opcode (startOf base segments target)).lead
      (Instruction.branch arm.opcode (startOf base segments target)).opcode =
        some (.jumpIfEqual (!arm.inline)) := by
    rw [Instruction.branch, Instruction.plain, bytes.1, bytes.2, asks.opcode]
  have compares := step_placedAt (@step_of_jumpIfEqual _
    { context with stack := .int32 asked :: .int32 tag :: stack, position := offset }
    (!arm.inline) _ tag asked stack known aims rfl) offset
  have threefold := front.trans (load.trans literal)
  refine ⟨stack, offset, ?_⟩
  by_cases taken : decide (tag = asked) = !arm.inline
  · rw [if_pos taken] at compares ⊢
    have lands := @Sound.indexOf_startOf base target segments sound
      { context with stack, position := offset } probes.starts exits.1
    exact threefold.trans (executes_of_jump branch compares lands)
  · rw [if_neg taken] at compares ⊢
    have falls := threefold.trans (executes_of_proceed branch compares)
    rw [next, List.length_append]
    exact falls

/-- The path of the first arm that asks for a tag. -/
def selected (tag : Int32) (arms : List Arm) : ConstantKind :=
  ((arms.find? (·.literal.int32Literal? = some tag)).map (·.kind)).getD .default

/-- How many instructions a dispatch of stubs executes for a tag, where the default path has so
many. -/
def dispatchCost (default : Nat) (tag : Int32) : List Arm → Nat
  | [] => default
  | arm :: rest =>
    if arm.literal.int32Literal? = some tag then 5 else 3 + dispatchCost default tag rest

/-- An arm asks for a tag, and a branch to its path finds the stub of its kind. -/
structure Arm.IsStub (segments : List Segment) (target : ConstantKind → Nat) (arm : Arm) :
    Prop where
  /-- The arm compares the tag. -/
  asks : ∃ asked, arm.AsksFor asked
  /-- Its path loads the sentinel of its kind. -/
  path : arm.path = [.ldcI4 arm.kind.sentinel]
  /-- A path elsewhere stands where the dispatch branches to. -/
  far : arm.inline = false → segments[target arm.kind]? = some arm.segment

/-- A run of a dispatch ends on the path that the tag selects. -/
theorem finishes_dispatch {target : ConstantKind → Nat} {fallback : List Instruction}
    {idLoad : Instruction} {arms : List Arm} {back : List Segment} (sound : Sound segments)
    (shape : segments.drop index =
      dispatch target (fallback ++ [idLoad]) index lead arms ++ back)
    (stubs : ∀ arm ∈ arms, arm.IsStub segments target)
    (leads : ∀ instruction ∈ lead, instruction.Harmless)
    (fallbacks : ∀ instruction ∈ fallback, instruction.Harmless)
    (loads : idLoad.loadedLocal? = some 1)
    (probes : context.Probes (assemble base segments) tag) :
    ∃ after, Finishes limits (assemble base segments)
      (lead.length + dispatchCost (fallback.length + 2) tag arms) (placeOf segments index)
      context after ∧ after.top? = some (.int32 (selected tag arms).sentinel) := by
  induction arms generalizing index lead context with
  | nil => exact finishes_default (getElem?_of_drop shape).1 leads fallbacks loads probes
  | cons arm rest ih =>
    obtain ⟨head, others⟩ := List.forall_mem_cons.1 stubs
    obtain ⟨asked, asks⟩ := head.asks
    have stub : arm.segment = ⟨[.ldcI4 arm.kind.sentinel], .returns⟩ := by
      rw [Arm.segment, head.path]
    have asksFor : arm.literal.int32Literal? = some tag ↔ tag = asked := by
      rw [asks.literal, Option.some.injEq, eq_comm]
    -- the branch of the test tells where the path stands, and where the next arm does
    have around : ∃ taken next, segments[index]? =
        some ⟨lead ++ arm.test, .branch arm.opcode taken⟩ ∧
        segments[if !arm.inline then taken else index + 1]? = some arm.segment ∧
        (if !arm.inline then index + 1 else taken) = next ∧
        segments.drop next = dispatch target (fallback ++ [idLoad]) next [] rest ++ back := by
      cases inline : arm.inline with
      | true =>
        rw [dispatch_inline inline] at shape
        obtain ⟨here, behind⟩ := getElem?_of_drop shape
        obtain ⟨path, behind⟩ := getElem?_of_drop behind
        exact ⟨index + 2, index + 2, here, path, rfl, behind⟩
      | false =>
        rw [dispatch_far inline] at shape
        obtain ⟨here, behind⟩ := getElem?_of_drop shape
        exact ⟨target arm.kind, index + 1, here, head.far inline, rfl, behind⟩
    obtain ⟨taken, next, here, path, goesOn, behind⟩ := around
    rw [stub] at path
    obtain ⟨stack, position, test⟩ := @executes_test base index segments limits context tag lead
      arm taken asked sound here leads asks probes
    rw [dispatchCost, selected, List.find?_cons]
    by_cases equal : tag = asked
    · rw [if_pos (asksFor.2 equal), decide_eq_true (asksFor.2 equal)]
      have place : (if decide (tag = asked) = !arm.inline then taken else index + 1) =
          if !arm.inline then taken else index + 1 := by
        rw [decide_eq_true equal]
        cases arm.inline <;> rfl
      rw [place] at test
      obtain ⟨after, ends, top⟩ := finishes_stub path
      exact ⟨after, test.finishes ends, top⟩
    · rw [if_neg (mt asksFor.1 equal), decide_eq_false (mt asksFor.1 equal)]
      have place : (if decide (tag = asked) = !arm.inline then taken else index + 1) = next := by
        rw [decide_eq_false equal, ← goesOn]
        cases arm.inline <;> rfl
      rw [place] at test
      obtain ⟨after, ends, top⟩ := @ih next _ [] behind others (List.forall_mem_nil _)
        (probes.update stack position)
      have whole := test.finishes ends
      rw [List.length_nil, Nat.zero_add, Nat.add_assoc] at whole
      exact ⟨after, whole, top⟩

end Segments

end ConstantRecovery
