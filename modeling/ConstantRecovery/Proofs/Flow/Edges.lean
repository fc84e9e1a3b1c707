import ConstantRecovery.Proofs.Flow.Elimination

/-!
# Edges follow from last instructions

The edges of a block are determined by its last instruction, the starts of the blocks of
its view and whether a block stands behind it. So they can be read off a view again at
any time: they stay right when dead blocks are dropped and the others numbered anew,
because every block that an edge leads to is kept, and with it the block behind one that
control can run out of.
-/

namespace ConstantRecovery

/-- Dropping repetitions and renaming do not meet, if different entries get different names. -/
theorem eraseDups_map {α β : Type} [BEq α] [LawfulBEq α] [BEq β] [LawfulBEq β] {rename : α → β}
    (items : List α)
    (injective : ∀ first ∈ items, ∀ second ∈ items, rename first = rename second →
      first = second) :
    (items.map rename).eraseDups = items.eraseDups.map rename := by
  induction size : items.length using Nat.strongRecOn generalizing items with
  | ind length ih =>
    cases items with
    | nil => rfl
    | cons first rest =>
      have others : (rest.map rename).filter (fun other => !other == rename first) =
          (rest.filter fun other => !other == first).map rename := by
        rw [List.filter_map]
        congr 1
        apply List.filter_congr
        intro other member
        have same : rename other = rename first ↔ other = first :=
          ⟨injective other (List.mem_cons_of_mem _ member) first List.mem_cons_self,
            congrArg rename⟩
        rw [Function.comp_apply, Bool.eq_iff_iff]
        simp [same]
      have shorter := List.length_filter_le (fun other => !other == first) rest
      rw [List.length_cons] at size
      rw [List.map_cons, List.eraseDups_cons, List.eraseDups_cons, List.map_cons, others]
      congr 1
      apply ih _ (by omega) _ _ rfl
      intro one inside two within
      exact injective one (List.mem_cons_of_mem _ (List.mem_filter.1 inside).1) two
        (List.mem_cons_of_mem _ (List.mem_filter.1 within).1)

/-- Only what jumps has targets. -/
theorem Instruction.targets_eq_nil {instruction : Instruction}
    (still : (instruction.isBranch || instruction.isLeave) = false) : instruction.targets = [] := by
  obtain ⟨offset, size, opcode, lead, mnemonic, flow, operand⟩ := instruction
  cases flow <;> first | (cases operand <;> rfl) | cases still

/-- Edges lead to where jumps go, and to the block behind where control can go on; each is named
once. -/
theorem edges_eq_eraseDups (starts : List Nat) (next : Option Nat) (last : Instruction) :
    edges starts next last = (last.targets.filterMap (lastPosition? · starts) ++
      if last.flow.continues then next.toList else []).eraseDups := by
  have single : next.toList.eraseDups = next.toList := by cases next <;> rfl
  have falls (jumps : List Nat) : (next.toList.removeAll jumps).eraseDups =
      next.toList.filter (!jumps.eraseDups.contains ·) := by
    cases next with
    | none => rfl
    | some next =>
      by_cases known : next ∈ jumps
      · simp [List.removeAll, known]
      · simp only [List.removeAll, List.elem_eq_contains, List.contains_eq_mem, known,
          List.mem_eraseDups, Option.toList_some, decide_false, Bool.not_false,
          List.filter_cons_of_pos, List.filter_nil]
        exact single
  have still (other : (last.isBranch || last.isLeave) = false) (fall : List Nat) :
      (last.targets.filterMap (lastPosition? · starts) ++ fall).eraseDups = fall.eraseDups := by
    rw [Instruction.targets_eq_nil other]
    rfl
  unfold edges
  cases flow : last.flow with
  | conditional | switch =>
    rw [List.eraseDups_append, if_pos (by rfl), falls]
  | unconditional | leave =>
    rw [if_neg (by decide), List.append_nil]
  | sequential | call =>
    rw [still (by rw [Instruction.isBranch, Instruction.isLeave, flow]; rfl)]
    exact single.symm
  | returns | throws | endFinally =>
    rw [still (by rw [Instruction.isBranch, Instruction.isLeave, flow]; rfl)]
    rfl

/-- What a renaming finds: where an ascending list has a moved start at the renamed place, and has
none that is not moved from a start. -/
theorem lastPosition?_rename {starts moved : List Nat} {move rename : Nat → Nat} {target : Nat}
    (ordered : moved.Pairwise (· < ·))
    (finds : ∀ place, lastPosition? target starts = some place →
      moved[rename place]? = some (move target))
    (known : move target ∈ moved → target ∈ starts) :
    lastPosition? (move target) moved = (lastPosition? target starts).map rename := by
  cases found : lastPosition? target starts with
  | some place =>
    rw [Option.map_some]
    exact lastPosition?_of_ascending ordered (finds place found)
  | none =>
    cases lands : lastPosition? (move target) moved with
    | none => rfl
    | some spot =>
      have member := known (List.mem_of_getElem? (getElem?_of_lastPosition? lands))
      have hit := (lastPosition?_isSome _ _).2 member
      rw [found] at hit
      cases hit

/-- Edges into a view whose blocks have new names are the old ones under the new names, if each
jump finds the block it found and the block behind is the one that was there. -/
theorem edges_map {starts moved : List Nat} {next behind : Option Nat} {last copy : Instruction}
    {move rename : Nat → Nat} (flow : copy.flow = last.flow)
    (targets : copy.targets = last.targets.map move)
    (finds : ∀ target ∈ last.targets,
      lastPosition? (move target) moved = (lastPosition? target starts).map rename)
    (injective : ∀ first ∈ edges starts next last, ∀ second ∈ edges starts next last,
      rename first = rename second → first = second)
    (follows : last.flow.continues = true → behind = next.map rename) :
    edges moved behind copy = (edges starts next last).map rename := by
  have jumps : copy.targets.filterMap (lastPosition? · moved) =
      (last.targets.filterMap (lastPosition? · starts)).map rename := by
    rw [targets, List.filterMap_map, List.map_filterMap]
    exact List.filterMap_congr finds
  have falls : (if last.flow.continues then behind.toList else []) =
      (if last.flow.continues then next.toList else []).map rename := by
    by_cases continues : last.flow.continues = true
    · rw [if_pos continues, if_pos continues, follows continues]
      cases next <;> rfl
    · rw [if_neg continues, if_neg continues]
      rfl
  rw [edges_eq_eraseDups] at injective
  rw [edges_eq_eraseDups, edges_eq_eraseDups, jumps, flow, falls, ← List.map_append]
  apply eraseDups_map
  intro first inside second within
  exact injective first (List.mem_eraseDups.2 inside) second (List.mem_eraseDups.2 within)

/-! ## Views whose edges follow from their last instructions -/

/-- The position behind a position of a view, if there is one. -/
def behind? (blocks : List BasicBlock) (position : Nat) : Option Nat :=
  if position + 1 < blocks.length then some (position + 1) else none

/-- The position behind a position is one of the view. -/
theorem lt_of_mem_behind? {blocks : List BasicBlock} {position next : Nat}
    (follows : next ∈ behind? blocks position) : next < (blocks.map (·.offset)).length := by
  rw [List.length_map]
  unfold behind? at follows
  split at follows
  · cases follows
    assumption
  · cases follows

/-- The edges that the last instruction of the block at a position gives it. -/
def ruledEdges (blocks : List BasicBlock) (position : Nat) : List Nat :=
  match blocks[position]?.bind (·.last?) with
  | some last => edges (blocks.map (·.offset)) (behind? blocks position) last
  | none => []

/-- The edges of a block are those that its last instruction gives it. -/
theorem ruledEdges_eq {blocks : List BasicBlock} {position : Nat} {block : BasicBlock}
    {last : Instruction} (here : blocks[position]? = some block) (ends : block.last? = some last) :
    ruledEdges blocks position =
      edges (blocks.map (·.offset)) (behind? blocks position) last := by
  simp only [ruledEdges, here, Option.bind_some, ends]

/-- Every block has the edges that its last instruction gives it. -/
def Wired (blocks : List BasicBlock) : Prop :=
  ∀ position block, blocks[position]? = some block → block.successors = ruledEdges blocks position

/-- The view of a stream is wired. -/
theorem wired_buildBlocks (code : List Instruction) : Wired (buildBlocks code) := by
  let runs := cutAt (isLeader code (landingPositions code)) 0 code
  let starts := runs.map fun run => (run.head?.map (·.offset)).getD 0
  have view : buildBlocks code = runs.zipIdx.map fun pair =>
    blockOfRun starts pair.1 pair.2 := rfl
  have heads : (buildBlocks code).map (·.offset) = starts := by
    have same : (fun block : BasicBlock => block.offset) ∘
        (fun pair : List Instruction × Nat => blockOfRun starts pair.1 pair.2) =
        (fun run : List Instruction => (run.head?.map (·.offset)).getD 0) ∘ Prod.fst := rfl
    rw [view, List.map_map, same, ← List.map_map, List.zipIdx_map_fst]
  have count : starts.length = (buildBlocks code).length := by rw [← heads, List.length_map]
  intro position block here
  have found := here
  rw [view, List.getElem?_map] at found
  obtain ⟨⟨run, number⟩, pair, shape⟩ := Option.map_eq_some_iff.1 found
  rw [List.getElem?_zipIdx] at pair
  obtain ⟨original, inside, same⟩ := Option.map_eq_some_iff.1 pair
  obtain ⟨rfl, rfl⟩ := Prod.mk.inj same
  rw [Nat.zero_add] at shape
  subst shape
  have inhabited : original ≠ [] := ne_nil_of_mem_cutAt _ _ _ (List.mem_of_getElem? inside)
  have ends := List.getLast?_eq_getLast_of_ne_nil inhabited
  rw [ruledEdges_eq here ends, heads, behind?, ← count]
  simp only [blockOfRun, ends, Option.map_some, Option.getD_some]

/-- The blocks of a headed view start at offsets of its stream, in order. -/
theorem Headed.offsets_sublist {blocks : List BasicBlock} (headed : Headed blocks) :
    (blocks.map (·.offset)).Sublist (offsets (joined blocks)) := by
  induction blocks with
  | nil => exact List.Sublist.refl _
  | cons block rest ih =>
    obtain ⟨here, later⟩ := List.forall_mem_cons.1 headed
    obtain ⟨head, first, starts⟩ := Option.map_eq_some_iff.1 here
    obtain ⟨others, shape⟩ := List.head?_eq_some_iff.1 first
    have split : joined (block :: rest) = head :: (others ++ joined rest) := by
      show block.instructions ++ joined rest = _
      rw [shape, List.cons_append]
    rw [split, List.map_cons, offsets, List.map_cons, starts, List.map_append]
    exact ((ih later).trans (List.sublist_append_right _ _)).cons_cons _

/-- In a headed view whose stream ascends, blocks start in order. -/
theorem Headed.starts_pairwise {blocks : List BasicBlock} (headed : Headed blocks)
    (ascending : Ascending (joined blocks)) : (blocks.map (·.offset)).Pairwise (· < ·) :=
  List.Pairwise.sublist headed.offsets_sublist ascending

/-- The blocks at some positions are, position by position, those at each of them. -/
theorem getElem?_blocksAt {blocks : List BasicBlock} {positions : List Nat}
    (inside : ∀ position ∈ positions, position < blocks.length) (index : Nat) :
    (blocksAt blocks positions)[index]? = positions[index]?.bind (blocks[·]?) := by
  induction positions generalizing index with
  | nil => rfl
  | cons position rest ih =>
    obtain ⟨here, later⟩ := List.forall_mem_cons.1 inside
    rw [blocksAt_cons rest (List.getElem?_eq_getElem here)]
    cases index with
    | zero => exact (List.getElem?_eq_getElem here).symm
    | succ index => exact ih later index

/-- There are as many blocks at positions of a view as positions. -/
theorem length_blocksAt {blocks : List BasicBlock} {positions : List Nat}
    (inside : ∀ position ∈ positions, position < blocks.length) :
    (blocksAt blocks positions).length = positions.length := by
  induction positions with
  | nil => rfl
  | cons position rest ih =>
    obtain ⟨here, later⟩ := List.forall_mem_cons.1 inside
    rw [blocksAt_cons rest (List.getElem?_eq_getElem here), List.length_cons, List.length_cons,
      ih later]

section Pruning

variable {blocks kept : List BasicBlock}

/-- A position that stays has the number under which it is listed. -/
theorem survivorIndex_of_getElem? {index position : Nat}
    (here : (survivors blocks)[index]? = some position) :
    survivorIndex blocks position = index := by
  have nodup := survivors_nodup blocks
  obtain ⟨inside, shape⟩ := List.getElem?_eq_some_iff.1 here
  have found : (survivors blocks).idxOf? position = some index := by
    rw [List.idxOf?_eq_some_iff]
    refine ⟨inside, shape, fun earlier before same => ?_⟩
    have there := List.getElem?_eq_getElem (Nat.lt_trans before inside)
    rw [same, ← here] at there
    have equal := (List.getElem?_inj inside nodup).1 there.symm
    omega
  rw [survivorIndex, found, Option.getD_some]

/-- Different survivors have different positions. -/
theorem survivorIndex_inj {first second : Nat} (one : first ∈ survivors blocks)
    (two : second ∈ survivors blocks)
    (same : survivorIndex blocks first = survivorIndex blocks second) : first = second := by
  obtain ⟨left, here⟩ := List.mem_iff_getElem?.1 one
  obtain ⟨right, there⟩ := List.mem_iff_getElem?.1 two
  rw [survivorIndex_of_getElem? here, survivorIndex_of_getElem? there] at same
  rw [same, there] at here
  exact (Option.some.inj here).symm

/-- Pruning renames edges. -/
theorem successors_of_prune? (done : prune? blocks = some kept) :
    kept.map (·.successors) = (blocksAt blocks (survivors blocks)).map fun block =>
      block.successors.map (survivorIndex blocks) := by
  rw [eq_map_of_prune? done, List.map_map]
  rfl

/-- A position that stays is one of the view. -/
theorem lt_of_mem_survivors {position : Nat} (member : position ∈ survivors blocks) :
    position < blocks.length :=
  ((mem_survivors_iff position).1 member).1

/-- Pruning keeps as many blocks as there are survivors. -/
theorem length_of_prune? (done : prune? blocks = some kept) :
    kept.length = (survivors blocks).length := by
  have content := congrArg List.length (content_of_prune? done)
  rwa [List.length_map, List.length_map, length_blocksAt fun _ => lt_of_mem_survivors] at content

/-- A block that pruning keeps is that of a survivor, with its edges renamed. -/
theorem exists_survivor_of_prune? (done : prune? blocks = some kept) {index : Nat}
    {block : BasicBlock} (here : kept[index]? = some block) :
    ∃ position original, (survivors blocks)[index]? = some position ∧
      blocks[position]? = some original ∧ block.content = original.content ∧
      block.successors = original.successors.map (survivorIndex blocks) := by
  have content := congrArg (·[index]?) (content_of_prune? done)
  have successors := congrArg (·[index]?) (successors_of_prune? done)
  simp only [List.getElem?_map, here, Option.map_some] at content successors
  obtain ⟨original, there, equal⟩ := Option.map_eq_some_iff.1 content.symm
  rw [there, Option.map_some] at successors
  rw [getElem?_blocksAt fun _ => lt_of_mem_survivors] at there
  obtain ⟨position, kept, origin⟩ := Option.bind_eq_some_iff.1 there
  exact ⟨position, original, kept, origin, equal.symm, Option.some.inj successors⟩

/-- Kept blocks start where they started, in the same order. -/
theorem starts_sublist_of_prune? (done : prune? blocks = some kept) :
    (kept.map (·.offset)).Sublist (blocks.map (·.offset)) := by
  have starts := congrArg (List.map Prod.fst) (content_of_prune? done)
  rw [List.map_map, List.map_map] at starts
  change kept.map (·.offset) = (blocksAt blocks (survivors blocks)).map (·.offset) at starts
  rw [starts]
  exact (blocksAt_survivors_sublist blocks).map _

/-- A kept block starts where its survivor does. -/
theorem getElem?_starts_of_prune? (done : prune? blocks = some kept) {index position : Nat}
    (here : (survivors blocks)[index]? = some position) :
    (kept.map (·.offset))[index]? = (blocks.map (·.offset))[position]? := by
  have content := congrArg (·[index]?.map Prod.fst) (content_of_prune? done)
  simp only [List.getElem?_map, getElem?_blocksAt fun _ => lt_of_mem_survivors, here,
    Option.bind_some, Option.map_map] at content
  rw [List.getElem?_map, List.getElem?_map]
  exact content

/-- Where control can run out of a survivor, the next survivor is the block behind it. -/
theorem getElem?_survivors_succ {index position : Nat}
    (here : (survivors blocks)[index]? = some position)
    (edge : position + 1 < blocks.length → Leads blocks position (position + 1)) :
    (survivors blocks)[index + 1]? = behind? blocks position := by
  obtain ⟨inside, shape⟩ := List.getElem?_eq_some_iff.1 here
  have split : survivors blocks = (survivors blocks).take index ++
      position :: (survivors blocks).drop (index + 1) := by
    rw [← shape, List.getElem_cons_drop, List.take_append_drop]
  rw [behind?, ← List.head?_drop]
  by_cases more : position + 1 < blocks.length
  · obtain ⟨rest, behind⟩ := exists_cons_of_leads split (edge more)
    rw [behind, if_pos more, List.head?_cons]
  · have none := eq_nil_of_length_le split (by omega)
    rw [none, if_neg more, List.head?_nil]

/-- Where control can run out of a survivor, the block behind it is kept behind it. -/
theorem behind?_of_prune? (done : prune? blocks = some kept) {index position : Nat}
    (here : (survivors blocks)[index]? = some position)
    (edge : position + 1 < blocks.length → Leads blocks position (position + 1)) :
    behind? kept index = (behind? blocks position).map (survivorIndex blocks) := by
  rw [← getElem?_survivors_succ here edge, behind?, length_of_prune? done]
  by_cases more : index + 1 < (survivors blocks).length
  · have next := List.getElem?_eq_getElem more
    rw [if_pos more, next, Option.map_some, survivorIndex_of_getElem? next]
  · rw [if_neg more, List.getElem?_eq_none (Nat.not_lt.1 more), Option.map_none]

/-- Where control can go on behind the last instruction of a block of a wired view, an edge leads
to the block behind. -/
theorem Wired.leads_of_continues (wired : Wired blocks) {position : Nat} {block : BasicBlock}
    {last : Instruction} (here : blocks[position]? = some block) (ends : block.last? = some last)
    (continues : last.flow.continues = true) (inside : position + 1 < blocks.length) :
    Leads blocks position (position + 1) := by
  apply leads_of_successor here _ inside
  rw [wired position block here, ruledEdges_eq here ends, behind?, if_pos inside]
  exact mem_edges_of_continues continues

/-- Pruning a wired view leaves a wired view. -/
theorem Wired.of_prune? (wired : Wired blocks) (headed : Headed blocks)
    (ascending : Ascending (joined blocks)) (done : prune? blocks = some kept) : Wired kept := by
  have ordered := (headed.starts_pairwise ascending).sublist (starts_sublist_of_prune? done)
  intro index block here
  obtain ⟨position, original, survives, there, content, successors⟩ :=
    exists_survivor_of_prune? done here
  obtain ⟨-, instructions⟩ := Prod.mk.inj content
  obtain ⟨head, first, -⟩ := Option.map_eq_some_iff.1 (headed original (List.mem_of_getElem? there))
  have inhabited : original.instructions ≠ [] := by
    rintro none
    rw [none] at first
    cases first
  have ends : original.last? = some (original.instructions.getLast inhabited) :=
    List.getLast?_eq_getLast_of_ne_nil inhabited
  have keptEnds : block.last? = original.last? := by
    rw [BasicBlock.last?, BasicBlock.last?, instructions]
  generalize original.instructions.getLast inhabited = last at ends
  have edgesOld := (wired position original there).trans (ruledEdges_eq there ends)
  have kept_of_edge : ∀ target ∈ edges (blocks.map (·.offset)) (behind? blocks position) last,
      target ∈ survivors blocks := by
    intro target edge
    have bound := lt_of_mem_edges (fun _ => lt_of_mem_behind?) edge
    rw [List.length_map] at bound
    rw [← edgesOld] at edge
    exact mem_survivors_of_leads (List.mem_of_getElem? survives)
      (leads_of_successor there edge bound)
  rw [ruledEdges_eq here (keptEnds.trans ends), successors, edgesOld]
  symm
  have targets : last.targets = last.targets.map id := (List.map_id _).symm
  apply edges_map rfl targets
  · intro target aimed
    apply @lastPosition?_rename _ _ id _ _ ordered
    · intro place found
      have edge : place ∈ edges (blocks.map (·.offset)) (behind? blocks position) last := by
        rw [edges_eq_eraseDups, List.mem_eraseDups]
        exact List.mem_append_left _ (List.mem_filterMap.2 ⟨target, aimed, found⟩)
      obtain ⟨new, survived⟩ := List.mem_iff_getElem?.1 (kept_of_edge place edge)
      rw [survivorIndex_of_getElem? survived, getElem?_starts_of_prune? done survived]
      exact getElem?_of_lastPosition? found
    · exact fun member => (starts_sublist_of_prune? done).subset member
  · intro one inside two within
    exact survivorIndex_inj (kept_of_edge one inside) (kept_of_edge two within)
  · intro continues
    exact behind?_of_prune? done survives (wired.leads_of_continues there ends continues)

end Pruning

end ConstantRecovery
