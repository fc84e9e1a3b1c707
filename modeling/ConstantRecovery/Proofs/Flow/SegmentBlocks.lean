import ConstantRecovery.Proofs.Flow.Cutting
import ConstantRecovery.Proofs.Flow.Segments

/-!
# Blocks of laid-out segments

The block view of a stream laid out from segments has one block for each segment. A cut
falls behind each way out and nowhere else: straight code neither ends a run nor jumps,
and a branch lands where a segment starts. The edges are the branches and, behind a
branch, the step to the next segment.
-/

namespace ConstantRecovery

variable {base : Nat} {segments : List Segment}

/-- Segments have the places of their numbers. -/
theorem placeOf_succ {index : Nat} {segment : Segment} (here : segments[index]? = some segment) :
    placeOf segments (index + 1) = placeOf segments index + (segment.straight.length + 1) := by
  rw [placeOf, List.take_add_one, here, codeOf_append, List.length_append]
  congr 1
  rw [Option.toList_some, codeOf, List.flatMap_singleton, Segment.code, List.length_append,
    List.length_singleton]

/-- Segments start in order. -/
theorem placeOf_mono {first second : Nat} (le : first ≤ second) :
    placeOf segments first ≤ placeOf segments second := by
  have split : segments.take second =
      segments.take first ++ (segments.take second).drop first := by
    have cut := List.take_append_drop first (segments.take second)
    rwa [List.take_take, Nat.min_eq_left le, eq_comm] at cut
  rw [placeOf, placeOf, split, codeOf_append, List.length_append]
  exact Nat.le_add_right _ _

/-- A segment starts behind the one in front of it. -/
theorem startOf_succ {index : Nat} {segment : Segment} (here : segments[index]? = some segment) :
    startOf base segments (index + 1) =
      startOf base segments index + codeSize (segment.code (startOf base segments)) := by
  have same : codeSize (segment.code id) = codeSize (segment.code (startOf base segments)) := by
    have sizes := sizes_codeOf id (startOf base segments) [segment]
    simp only [codeOf, List.flatMap_singleton] at sizes
    exact codeSize_congr sizes
  rw [← same, startOf, startOf, List.take_add_one, here, codeOf_append, codeSize_append,
    Option.toList_some, Nat.add_assoc]
  congr 3
  exact List.flatMap_singleton _ _

/-- Segments start in order. -/
theorem startOf_lt (base : Nat) {first second : Nat}
    (lt : first < second) (bound : second < segments.length) :
    startOf base segments first < startOf base segments second := by
  induction second with
  | zero => exact absurd lt (Nat.not_lt_zero _)
  | succ second ih =>
    have here := List.getElem?_eq_getElem (Nat.lt_of_succ_lt bound)
    have next := @startOf_succ base segments second _ here
    have size := (segments[second].exit.isBuilt (startOf base segments)).size_pos
    have grows : 0 < codeSize (segments[second].code (startOf base segments)) := by
      rw [Segment.code, codeSize_append, codeSize_cons]
      omega
    rcases Nat.lt_or_ge first second with earlier | same
    · have before := ih earlier (Nat.lt_of_succ_lt bound)
      omega
    · have equal : first = second := by omega
      rw [equal]
      omega

/-- A segment stands in the stream from its place on. -/
theorem getElem?_assemble {index inner : Nat} {segment : Segment}
    (here : segments[index]? = some segment) (within : inner < segment.straight.length + 1) :
    ∃ offset, (assemble base segments)[placeOf segments index + inner]? =
      (segment.code (startOf base segments))[inner]?.map (·.placedAt offset) := by
  obtain ⟨inside, rfl⟩ := List.getElem?_eq_some_iff.1 here
  have length : inner < (segments[index].code (startOf base segments)).length := by
    rw [Segment.code, List.length_append, List.length_singleton]
    exact within
  have tail := List.drop_eq_getElem_cons inside
  refine ⟨startOf base segments index + codeSize
    ((codeOf (startOf base segments) (segments.drop index)).take inner), ?_⟩
  rw [← List.getElem?_drop, drop_assemble, getElem?_settle]
  congr 1
  rw [tail, codeOf_cons, List.getElem?_append_left length]

/-- The first instruction of a segment stands where the segment starts. -/
theorem getElem?_assemble_start {index : Nat} (inside : index < segments.length) :
    ∃ instruction, (assemble base segments)[placeOf segments index]? = some instruction ∧
      instruction.offset = startOf base segments index := by
  have front : ((assemble base segments).drop (placeOf segments index))[0]? =
      (assemble base segments)[placeOf segments index]? := by
    rw [List.getElem?_drop, Nat.add_zero]
  rw [← front, drop_assemble, List.drop_eq_getElem_cons inside, codeOf_cons, Segment.code]
  cases segments[index].straight with
  | nil => exact ⟨_, rfl, rfl⟩
  | cons first rest => exact ⟨_, rfl, rfl⟩

/-- Segments are sound in a view of all of them. -/
def Sound (segments : List Segment) : Prop :=
  ∀ segment ∈ segments, segment.IsSound segments.length

namespace Sound

/-- Everything in sound segments is made by a constructor. -/
theorem isBuilt (sound : Sound segments) (starts : Nat → Nat) :
    ∀ instruction ∈ codeOf starts segments, instruction.IsBuilt := by
  intro instruction member
  obtain ⟨segment, inside, member⟩ := List.mem_flatMap.1 member
  rcases List.mem_append.1 member with straight | exit
  · exact ((sound segment inside).straight instruction straight).1
  · rw [List.mem_singleton.1 exit]
    exact segment.exit.isBuilt starts

/-- The offsets of segments that are laid out grow. -/
theorem ascending (sound : Sound segments) (base : Nat) : Ascending (assemble base segments) :=
  ascending_settle base _ fun instruction member => (sound.isBuilt _ instruction member).size_pos

/-- The start of a segment is found at its place. -/
theorem lastPosition?_startOf (sound : Sound segments) (base : Nat) {index : Nat}
    (inside : index < segments.length) :
    lastPosition? (startOf base segments index) (offsets (assemble base segments)) =
      some (placeOf segments index) := by
  obtain ⟨instruction, here, starts⟩ := getElem?_assemble_start inside
  rw [← starts]
  exact (sound.ascending base).lastPosition? here

/-- Jumps land where segments start. -/
theorem exists_of_mem_landingPositions (sound : Sound segments) {position : Nat}
    (member : position ∈ landingPositions (assemble base segments)) :
    ∃ index < segments.length, position = placeOf segments index := by
  obtain ⟨target, aimed, found⟩ := List.mem_filterMap.1 member
  obtain ⟨instruction, inside, aims⟩ := List.mem_flatMap.1 aimed
  obtain ⟨place, here⟩ := List.mem_iff_getElem?.1 inside
  rw [assemble, getElem?_settle] at here
  obtain ⟨original, there, rfl⟩ := Option.map_eq_some_iff.1 here
  change target ∈ original.targets at aims
  obtain ⟨segment, listed, there⟩ := List.mem_flatMap.1 (List.mem_of_getElem? there)
  rcases List.mem_append.1 there with straight | exit
  · rw [((sound segment listed).straight original straight).targets] at aims
    cases aims
  · rw [List.mem_singleton.1 exit] at aims
    obtain ⟨index, bound, rfl⟩ := (sound segment listed).exit.exists_of_mem_targets aims
    rw [sound.lastPosition?_startOf base bound] at found
    exact ⟨index, bound, (Option.some.inj found).symm⟩

/-- No block starts inside a segment. -/
theorem isLeader_inside (sound : Sound segments) {index inner : Nat} {segment : Segment}
    (here : segments[index]? = some segment) (within : inner < segment.straight.length) :
    isLeader (assemble base segments) (landingPositions (assemble base segments))
      (placeOf segments index + inner + 1) = false := by
  rw [isLeader, Bool.or_eq_false_iff]
  constructor
  · rw [← Bool.not_eq_true, List.contains_iff_mem]
    intro member
    obtain ⟨other, -, same⟩ := sound.exists_of_mem_landingPositions member
    have next := placeOf_succ here
    rcases Nat.lt_or_ge index other with behind | before
    · have later := @placeOf_mono segments (index + 1) other behind
      omega
    · have earlier := @placeOf_mono segments other index before
      omega
  · obtain ⟨offset, place⟩ := @getElem?_assemble base segments index inner segment here (by omega)
    have straight := (sound segment (List.mem_of_getElem? here)).straight
      segment.straight[inner] (List.getElem_mem within)
    rw [place, Segment.code, List.getElem?_append_left within, List.getElem?_eq_getElem within,
      Option.map_some, Option.any_some]
    exact straight.isTerminal

/-- A block starts behind each segment. -/
theorem isLeader_behind (sound : Sound segments) {index : Nat} {segment : Segment}
    (here : segments[index]? = some segment) (landings : List Nat) :
    isLeader (assemble base segments) landings
      (placeOf segments index + segment.straight.length + 1) = true := by
  obtain ⟨offset, place⟩ := @getElem?_assemble base segments index segment.straight.length segment
    here (Nat.lt_succ_self _)
  have last : (segment.code (startOf base segments))[segment.straight.length]? =
      some (segment.exit.instruction (startOf base segments)) := by
    rw [Segment.code, List.getElem?_append_right (Nat.le_refl _), Nat.sub_self]
    rfl
  rw [isLeader, place, last, Option.map_some, Option.any_some]
  have ends : (segment.exit.instruction (startOf base segments)).isTerminal = true :=
    (sound segment (List.mem_of_getElem? here)).exit.isTerminal
  have placed : ((segment.exit.instruction (startOf base segments)).placedAt offset).isTerminal =
      true := ends
  rw [placed, Bool.or_true]

/-- A stream of sound segments is cut into its segments. -/
theorem cutAt_assemble (sound : Sound segments) (base : Nat) :
    cutAt (isLeader (assemble base segments) (landingPositions (assemble base segments))) 0
        (assemble base segments) =
      segments.zipIdx.map fun (segment, index) =>
        settle (startOf base segments index) (segment.code (startOf base segments)) := by
  have suffix : ∀ back front : List Segment, segments = front ++ back →
      cutAt (isLeader (assemble base segments) (landingPositions (assemble base segments)))
          (placeOf segments front.length)
          (settle (startOf base segments front.length) (codeOf (startOf base segments) back)) =
        (back.zipIdx front.length).map fun (segment, index) =>
          settle (startOf base segments index) (segment.code (startOf base segments)) := by
    intro back
    induction back with
    | nil =>
      intro front _
      rfl
    | cons segment rest ih =>
      intro front split
      have here : segments[front.length]? = some segment := by
        rw [split, List.getElem?_append_right (Nat.le_refl _), Nat.sub_self]
        rfl
      have later := ih (front ++ [segment]) (by rw [split, List.append_assoc]; rfl)
      rw [List.length_append, List.length_singleton] at later
      have place := placeOf_succ here
      have length : (settle (startOf base segments front.length)
          (segment.code (startOf base segments))).length = segment.straight.length + 1 := by
        rw [length_settle, Segment.code, List.length_append, List.length_singleton]
      rw [codeOf_cons, settle_append, List.zipIdx_cons, List.map_cons, ← later,
        startOf_succ here, place, cutAt_append]
      · rw [length]
      · rw [← List.length_pos_iff, length]
        exact Nat.succ_pos _
      · intro step positive within
        obtain ⟨inner, rfl⟩ : ∃ inner, step = inner + 1 := ⟨step - 1, by omega⟩
        exact sound.isLeader_inside here (by omega)
      · right
        rw [length]
        exact sound.isLeader_behind here _
  have whole := suffix segments [] rfl
  exact whole

end Sound

/-- Where the segments start. -/
def starts (base : Nat) (segments : List Segment) : List Nat :=
  segments.zipIdx.map fun (_, index) => startOf base segments index

/-- There are as many starts as segments. -/
theorem length_starts (base : Nat) (segments : List Segment) :
    (starts base segments).length = segments.length := by
  rw [starts, List.length_map, List.length_zipIdx]

/-- The start that is listed for a segment is where it starts. -/
theorem getElem?_starts {index : Nat} (inside : index < segments.length) :
    (starts base segments)[index]? = some (startOf base segments index) := by
  rw [starts, List.getElem?_map, List.getElem?_zipIdx, List.getElem?_eq_getElem inside,
    Nat.zero_add]
  rfl

/-- The start of a segment is found at its number. -/
theorem lastPosition?_starts (base : Nat) {index : Nat}
    (inside : index < segments.length) :
    lastPosition? (startOf base segments index) (starts base segments) = some index := by
  refine lastPosition?_of_ascending ?_ (getElem?_starts inside)
  rw [List.pairwise_iff_getElem]
  intro first second firstInside secondInside lt
  rw [length_starts] at firstInside secondInside
  have firstStart := @getElem?_starts base segments first firstInside
  have secondStart := @getElem?_starts base segments second secondInside
  rw [(List.getElem?_eq_some_iff.1 firstStart).2, (List.getElem?_eq_some_iff.1 secondStart).2]
  exact startOf_lt base lt secondInside

namespace Sound

/-- The view of a stream of sound segments has a block for each segment. -/
theorem buildBlocks_assemble (sound : Sound segments) (base : Nat) :
    buildBlocks (assemble base segments) = segments.zipIdx.map fun (segment, index) =>
      blockOfRun (starts base segments)
        (settle (startOf base segments index) (segment.code (startOf base segments))) index := by
  have heads : (segments.zipIdx.map fun (segment, index) =>
      settle (startOf base segments index) (segment.code (startOf base segments))).map
        (fun run => (run.head?.map (·.offset)).getD 0) = starts base segments := by
    rw [List.map_map, starts]
    refine List.map_congr_left fun pair _ => ?_
    obtain ⟨⟨straight, exit⟩, index⟩ := pair
    cases straight <;> rfl
  unfold buildBlocks
  dsimp only
  rw [sound.cutAt_assemble base, heads]
  refine List.ext_getElem? fun index => ?_
  simp only [List.getElem?_map, List.getElem?_zipIdx]
  cases segments[index]? with
  | none => rfl
  | some segment => simp only [Option.map_some, Nat.zero_add]

/-- There are as many blocks as segments. -/
theorem length_buildBlocks (sound : Sound segments) (base : Nat) :
    (buildBlocks (assemble base segments)).length = segments.length := by
  rw [sound.buildBlocks_assemble, List.length_map, List.length_zipIdx]

/-- A segment stands in the view at its number. -/
theorem getElem?_buildBlocks_assemble (sound : Sound segments) (base : Nat) {index : Nat}
    {segment : Segment} (here : segments[index]? = some segment) :
    (buildBlocks (assemble base segments))[index]? =
      some (blockOfRun (starts base segments)
        (settle (startOf base segments index) (segment.code (startOf base segments))) index) := by
  rw [sound.buildBlocks_assemble, List.getElem?_map, List.getElem?_zipIdx, here, Nat.zero_add]
  rfl

/-- What the view says about its code, segment by segment. -/
theorem content_buildBlocks (sound : Sound segments) (base : Nat) :
    (buildBlocks (assemble base segments)).map (·.content) =
      segments.zipIdx.map fun (segment, index) => (startOf base segments index,
        settle (startOf base segments index) (segment.code (startOf base segments))) := by
  rw [sound.buildBlocks_assemble, List.map_map]
  refine List.map_congr_left fun pair _ => ?_
  obtain ⟨⟨straight, exit⟩, index⟩ := pair
  cases straight <;> rfl

section Edges

variable {index target : Nat} {straight : List Instruction} {opcode : UInt8}

/-- The last instruction of a segment ends its block, whatever its place. -/
theorem getLast?_settle_code (start : Nat) (starts : Nat → Nat) (segment : Segment) :
    ∃ offset, (settle start (segment.code starts)).getLast? =
      some ((segment.exit.instruction starts).placedAt offset) := by
  refine ⟨start + codeSize segment.straight, ?_⟩
  rw [Segment.code, settle_append]
  exact List.getLast?_concat

/-- A branch out of a segment is an edge. -/
theorem leads_target (sound : Sound segments) (base : Nat)
    (here : segments[index]? = some ⟨straight, .branch opcode target⟩) :
    Leads (buildBlocks (assemble base segments)) index target := by
  have exits := (sound _ (List.mem_of_getElem? here)).exit
  have inside : target < segments.length := exits.1
  have flow := Instruction.flow_branch exits.2 (startOf base segments target)
  obtain ⟨offset, last⟩ := getLast?_settle_code (startOf base segments index)
    (startOf base segments) ⟨straight, .branch opcode target⟩
  have aims : ((Instruction.branch opcode (startOf base segments target)).placedAt offset).targets =
      [startOf base segments target] :=
    Instruction.targets_branch exits.2 (startOf base segments target)
  refine leads_of_successor (sound.getElem?_buildBlocks_assemble base here) ?_
    (by rwa [sound.length_buildBlocks base])
  simp only [blockOfRun, last, Option.map_some, Option.getD_some, edges, Exit.instruction, aims,
    List.filterMap_cons, lastPosition?_starts base inside, List.filterMap_nil]
  simp only [Instruction.placedAt, flow]
  exact List.mem_append_left _ (List.mem_eraseDups.2 List.mem_cons_self)

/-- Behind a branch control can fall into the next segment. -/
theorem leads_next (sound : Sound segments) (base : Nat)
    (here : segments[index]? = some ⟨straight, .branch opcode target⟩)
    (inside : index + 1 < segments.length) :
    Leads (buildBlocks (assemble base segments)) index (index + 1) := by
  have exits := (sound _ (List.mem_of_getElem? here)).exit
  have flow := Instruction.flow_branch exits.2 (startOf base segments target)
  obtain ⟨offset, last⟩ := getLast?_settle_code (startOf base segments index)
    (startOf base segments) ⟨straight, .branch opcode target⟩
  refine leads_of_continues (sound.getElem?_buildBlocks_assemble base here) last ?_
    (by rwa [sound.length_buildBlocks base])
  show (Instruction.branch opcode (startOf base segments target)).flow.continues = true
  rw [flow]
  rfl

end Edges

end Sound

end ConstantRecovery
