import ConstantRecovery.Proofs.Code.Slots

/-!
# What renumbering restores

A stream is edited without asking where its instructions stand; renumbering lays it out again.
Where offsets do not decrease, a search that halves them finds the first instruction at or behind
what a slot held, and the slot follows it. Where they do, the search may end anywhere. Even so, once
renumbered, each slot holds the size of some front of the stream. That is all it takes for
renumbering to change nothing any more, although instructions that take no room share their offsets
with others.
-/

namespace ConstantRecovery

/-- The new offset of the first instruction whose old offset is at least `target`, or the size of
the new code if there is none. -/
def firstFrom (old new : List Instruction) (target : Nat) : Nat :=
  match (old.zip new).find? fun pair => target ≤ pair.1.offset with
  | some (_, instruction) => instruction.offset
  | none => codeSize new

/-- An operand with the offsets in it moved. -/
def Operand.retargeted (move : Nat → Nat) : Operand → Operand
  | .target offset => .target (move offset)
  | .table offsets => .table (offsets.map move)
  | other => other

/-- `left` is the stream `code` without gaps, and jumps have followed. -/
structure Relands (code left : List Instruction) : Prop where
  /-- Nothing is left out, and nothing added. -/
  length : left.length = code.length
  /-- Nothing changes but the offset and what a jump goes to. -/
  placed : ∀ (position : Nat) (old : Instruction), code[position]? = some old →
    left[position]? = some { old with
      offset := codeSize (code.take position)
      operand := if old.isBranch || old.isLeave then old.operand.retargeted (firstFrom code left)
        else old.operand }
  /-- Slots follow the first instruction at or behind what they held. -/
  slots : ∀ (position : Nat) (old new : Instruction), code[position]? = some old →
    left[position]? = some new → new.jumpSlots = old.jumpSlots.map (firstFrom code left)
  /-- Slots keep their order. -/
  ordered : ∀ first second, first ≤ second → firstFrom code left first ≤ firstFrom code left second
  /-- Nothing that is written is more than the size of the stream. -/
  fits : codeSize left = codeSize code ∧ ∀ instruction ∈ left,
    instruction.offset + instruction.size ≤ codeSize code ∧
      ∀ slot ∈ instruction.jumpSlots, slot ≤ codeSize code

/-! ## Searching the offsets -/

/-- In starts that do not decrease, `search` finds how many are in front of a target. Of other
starts nothing is said. -/
def FindsFirst (search : List Nat → Nat → Nat) : Prop :=
  ∀ starts target, starts.Pairwise (· ≤ ·) →
    search starts target = (starts.takeWhile (· < target)).length

/-- Renumbering with a search for the first instruction a slot follows. -/
def renumberBy (search : List Nat → Nat → Nat) (code : List Instruction) : List Instruction :=
  let settled := settle 0 code
  settled.map (·.mapSlots fun target =>
    ((offsets settled)[search (offsets code) target]?).getD (codeSize code))

/-- Halves the `size` starts from `base` on until one is left, and goes behind it if it is in
front of the target. -/
def bisect (starts : List Nat) (target base size : Nat) : Nat :=
  if 2 ≤ size then
    let middle := base + size / 2
    bisect starts target (if starts[middle]?.any (· < target) then middle else base)
      (size - size / 2)
  else if starts[base]?.any (· < target) then base + 1 else base
termination_by size

/-- In starts that do not decrease, those in front of a target are the first. -/
theorem any_lt_iff_of_pairwise {starts : List Nat} (sorted : starts.Pairwise (· ≤ ·))
    (target position : Nat) : starts[position]?.any (· < target) = true ↔
      position < (starts.takeWhile (· < target)).length := by
  induction starts generalizing position with
  | nil => simp
  | cons first rest ih =>
    obtain ⟨behind, sorted⟩ := List.pairwise_cons.1 sorted
    by_cases passed : first < target
    · rw [List.takeWhile_cons_of_pos (by simpa using passed)]
      cases position with
      | zero => simpa using passed
      | succ position =>
        rw [List.getElem?_cons_succ, ih sorted, List.length_cons]
        omega
    · rw [List.takeWhile_cons_of_neg (by simpa using passed), Option.any_eq_true]
      constructor
      · rintro ⟨start, here, front⟩
        have front : start < target := by simpa using front
        rcases List.mem_cons.1 (List.mem_of_getElem? here) with rfl | member
        · exact absurd front passed
        · have first_le := behind start member
          omega
      · exact fun none => absurd none (Nat.not_lt_zero position)

/-- Halving keeps the first start at or behind the target between its two ends. -/
theorem bisect_eq {starts : List Nat} (sorted : starts.Pairwise (· ≤ ·)) {target base size : Nat}
    (low : base ≤ (starts.takeWhile (· < target)).length)
    (high : (starts.takeWhile (· < target)).length ≤ base + size) :
    bisect starts target base size = (starts.takeWhile (· < target)).length := by
  have passed := any_lt_iff_of_pairwise sorted target
  generalize (starts.takeWhile (· < target)).length = found at low high passed
  fun_induction bisect starts target base size with
  | case1 base size many middle ih =>
    apply ih
    · split
      · next front => exact Nat.le_of_lt ((passed middle).1 front)
      · exact low
    · split
      · omega
      · next behind =>
        have found_le := mt (passed middle).2 behind
        omega
  | case2 base size few front =>
    have lt_found := (passed base).1 front
    omega
  | case3 base size few behind =>
    have found_le := mt (passed base).2 behind
    omega

/-- Halving all starts finds the first. -/
theorem findsFirst_bisect : FindsFirst fun starts target => bisect starts target 0 starts.length :=
  fun starts target sorted =>
    bisect_eq sorted (Nat.zero_le _)
      (by rw [Nat.zero_add]; exact (List.takeWhile_sublist _).length_le)

/-- Renumbering counts the instructions in front of a target one by one. -/
theorem renumber_eq_renumberBy (code : List Instruction) :
    renumber code =
      renumberBy (fun starts target => (starts.takeWhile (· < target)).length) code := by
  have same (target : Nat) : landing code (settle 0 code) target =
      ((offsets (settle 0 code))[((offsets code).takeWhile (· < target)).length]?).getD
        (codeSize code) := by
    rw [landing, codeSize_settle, offsets, offsets, List.takeWhile_map, List.length_map,
      List.getElem?_map, Function.comp_def]
    cases (settle 0 code)[(code.takeWhile (·.offset < target)).length]? <;> rfl
  rw [renumber, renumberBy]
  exact congrArg (fun move => (settle 0 code).map (·.mapSlots move)) (funext same)

/-- However the first instruction is searched, the slots follow it. -/
theorem FindsFirst.renumberBy_eq {search : List Nat → Nat → Nat} (finds : FindsFirst search)
    {code : List Instruction} (sorted : (offsets code).Pairwise (· ≤ ·)) :
    renumberBy search code = renumber code := by
  rw [renumber_eq_renumberBy, renumberBy, renumberBy]
  have same (target : Nat) := finds (offsets code) target sorted
  simp only [same]

/-! ## Once -/

/-- Moving slots makes no stream longer. -/
@[simp] theorem codeSize_map_mapSlots (code : List Instruction) (move : Nat → Nat) :
    codeSize (code.map (·.mapSlots move)) = codeSize code := by
  apply codeSize_congr
  rw [List.map_map]
  exact List.map_congr_left fun instruction _ => instruction.size_mapSlots move

/-- The first instruction from an offset on stands behind the sizes of all that it passes. -/
theorem match_find?_settle (start : Nat) (code : List Instruction) (move : Nat → Nat)
    (target : Nat) :
    (match (code.zip ((settle start code).map (·.mapSlots move))).find?
        fun pair => target ≤ pair.1.offset with
      | some (_, instruction) => instruction.offset
      | none => start + codeSize code) =
      start + codeSize (code.takeWhile (·.offset < target)) := by
  induction code generalizing start with
  | nil => rfl
  | cons first rest ih =>
    rw [settle, List.map_cons, List.zip_cons_cons]
    by_cases stays : target ≤ first.offset
    · have passed : ¬ first.offset < target := by omega
      rw [List.find?_cons_of_pos (by simpa using stays),
        List.takeWhile_cons_of_neg (by simpa using passed)]
      exact Instruction.offset_mapSlots move (first.placedAt start)
    · have passed : first.offset < target := by omega
      rw [List.find?_cons_of_neg (by simpa using stays),
        List.takeWhile_cons_of_pos (by simpa using passed), codeSize_cons, codeSize_cons,
        ← Nat.add_assoc, ← Nat.add_assoc]
      exact ih (start + first.size)

/-- A slot that is renumbered follows the first instruction from the offset in it on. -/
theorem landing_eq_firstFrom (code : List Instruction) :
    landing code (settle 0 code) = firstFrom code (renumber code) := by
  funext target
  have found := match_find?_settle 0 code (landing code (settle 0 code)) target
  rw [landing_settle, firstFrom, renumber, codeSize_map_mapSlots, codeSize_settle]
  rw [Nat.zero_add, Nat.zero_add] at found
  exact found.symm

/-- Renumbering places each instruction behind the sizes in front of it, and moves its slots. -/
theorem getElem?_renumber {code : List Instruction} {position : Nat} {old : Instruction}
    (here : code[position]? = some old) :
    (renumber code)[position]? =
      some ((old.placedAt (codeSize (code.take position))).mapSlots
        (firstFrom code (renumber code))) := by
  rw [← landing_eq_firstFrom, renumber, List.getElem?_map, getElem?_settle, here, Nat.zero_add]
  rfl

/-- Moving slots moves the operand of a jump. -/
theorem Instruction.mapSlots_eq (move : Nat → Nat) (instruction : Instruction) :
    instruction.mapSlots move = { instruction with
      operand := if instruction.isBranch || instruction.isLeave then
        instruction.operand.retargeted move else instruction.operand } := by
  obtain ⟨offset, size, opcode, lead, mnemonic, flow, operand⟩ := instruction
  cases flow <;> cases operand <;> rfl

/-- Slots that stay where they are leave the instruction as it is. -/
theorem Instruction.mapSlots_eq_self {move : Nat → Nat} {instruction : Instruction}
    (fixed : ∀ slot ∈ instruction.jumpSlots, move slot = slot) :
    instruction.mapSlots move = instruction := by
  rw [mapSlots_eq]
  obtain ⟨offset, size, opcode, lead, mnemonic, flow, operand⟩ := instruction
  cases jumps : isBranch ⟨offset, size, opcode, lead, mnemonic, flow, operand⟩ ||
    isLeave ⟨offset, size, opcode, lead, mnemonic, flow, operand⟩ with
  | false => rfl
  | true =>
    rw [jumpSlots, if_pos jumps] at fixed
    cases operand with
    | target slot =>
      have same := fixed slot (List.mem_singleton_self slot)
      simp only [Operand.retargeted, same, if_true]
    | table slots =>
      have same : slots.map move = slots.map id := List.map_congr_left fixed
      simp only [Operand.retargeted, same, List.map_id, if_true]
    | _ => rfl

/-- The front of a stream takes no more room than the stream. -/
theorem codeSize_take_le (code : List Instruction) (count : Nat) :
    codeSize (code.take count) ≤ codeSize code := by
  have whole := codeSize_append (code.take count) (code.drop count)
  rw [List.take_append_drop] at whole
  omega

/-- Renumbering moves jumps along, and changes nothing else but offsets. -/
theorem relands_renumber (code : List Instruction) : Relands code (renumber code) := by
  have placed (position : Nat) (old : Instruction) (here : code[position]? = some old) :=
    getElem?_renumber here
  constructor
  case length => exact length_renumber code
  case placed =>
    intro position old here
    rw [placed position old here, Instruction.mapSlots_eq]
    rfl
  case slots =>
    intro position old new here there
    rw [placed position old here] at there
    cases there
    exact Instruction.jumpSlots_mapSlots _ _
  case ordered =>
    intro first second le
    rw [← landing_eq_firstFrom]
    exact landing_mono code le
  case fits =>
    refine ⟨by rw [renumber, codeSize_map_mapSlots, codeSize_settle], ?_⟩
    intro instruction member
    obtain ⟨position, there⟩ := List.mem_iff_getElem?.1 member
    have inside := (List.getElem?_eq_some_iff.1 there).1
    rw [length_renumber] at inside
    have here := List.getElem?_eq_getElem inside
    rw [placed position _ here] at there
    cases there
    constructor
    · have front := codeSize_take_le code (position + 1)
      rw [List.take_add_one, here, Option.toList_some, codeSize_append, codeSize_cons,
        codeSize_nil] at front
      rw [Instruction.offset_mapSlots, Instruction.size_mapSlots]
      exact front
    · intro slot found
      rw [Instruction.jumpSlots_mapSlots] at found
      obtain ⟨target, -, rfl⟩ := List.mem_map.1 found
      rw [← landing_eq_firstFrom, landing_settle, List.takeWhile_eq_take_findIdx_not]
      exact codeSize_take_le code _

/-! ## Twice -/

/-- The offsets of a settled stream do not decrease. -/
theorem pairwise_offsets_settle (start : Nat) (code : List Instruction) :
    (offsets (settle start code)).Pairwise (· ≤ ·) := by
  induction code generalizing start with
  | nil => exact .nil
  | cons first rest ih =>
    refine .cons ?_ (ih (start + first.size))
    intro offset member
    obtain ⟨instruction, inside, rfl⟩ := List.mem_map.1 member
    exact Nat.le_trans (Nat.le_add_right start first.size) (le_offset_of_mem_settle inside)

/-- In a settled stream, what stands in front of the end of a front is as long as that front. It
may be a shorter front, if empty instructions end it. -/
theorem codeSize_takeWhile_settle (start : Nat) (code : List Instruction) (count : Nat) :
    codeSize ((settle start code).takeWhile (·.offset < start + codeSize (code.take count))) =
      codeSize (code.take count) := by
  induction code generalizing start count with
  | nil => rw [settle, List.takeWhile_nil, List.take_nil]
  | cons first rest ih =>
    cases count with
    | zero =>
      rw [settle, List.take_zero, List.takeWhile_cons_of_neg (by simp [Instruction.placedAt])]
    | succ count =>
      have behind := ih (start + first.size) count
      rw [Nat.add_assoc] at behind
      rw [settle, List.take_succ_cons, codeSize_cons]
      by_cases passed : start < start + (first.size + codeSize (rest.take count))
      · rw [List.takeWhile_cons_of_pos (by simpa [Instruction.placedAt] using passed),
          codeSize_cons, behind]
        rfl
      · rw [List.takeWhile_cons_of_neg (by simpa [Instruction.placedAt] using passed),
          codeSize_nil]
        omega

/-- Renumbering changes nothing in a settled stream whose slots hold the ends of fronts. -/
theorem renumber_eq_self {code : List Instruction} (settled : settle 0 code = code)
    (ends : ∀ instruction ∈ code, ∀ slot ∈ instruction.jumpSlots,
      ∃ count, slot = codeSize (code.take count)) : renumber code = code := by
  rw [renumber, settled]
  refine List.map_congr_left ?_ |>.trans (List.map_id code)
  intro instruction member
  refine Instruction.mapSlots_eq_self fun slot inside => ?_
  obtain ⟨count, rfl⟩ := ends instruction member slot inside
  have same := codeSize_takeWhile_settle 0 code count
  rw [settled, Nat.zero_add] at same
  have lands := landing_settle code (codeSize (code.take count))
  rw [settled] at lands
  exact lands.trans same

/-- Renumbering settles a stream. -/
theorem settle_renumberBy (search : List Nat → Nat → Nat) (code : List Instruction) :
    settle 0 (renumberBy search code) = renumberBy search code := by
  rw [renumberBy, settle_map_mapSlots, settle_settle]

/-- Renumbering lets a slot hold the end of a front, wherever it is searched. -/
theorem ends_of_renumberBy {search : List Nat → Nat → Nat} {code : List Instruction}
    {instruction : Instruction} (member : instruction ∈ renumberBy search code) {slot : Nat}
    (inside : slot ∈ instruction.jumpSlots) :
    ∃ count, slot = codeSize ((renumberBy search code).take count) := by
  have front (count : Nat) : codeSize ((renumberBy search code).take count) =
      codeSize (code.take count) := by
    rw [renumberBy, ← List.map_take, codeSize_map_mapSlots, codeSize_take_settle]
  obtain ⟨old, -, rfl⟩ := List.mem_map.1 member
  rw [Instruction.jumpSlots_mapSlots] at inside
  obtain ⟨target, -, rfl⟩ := List.mem_map.1 inside
  rw [offsets, List.getElem?_map, getElem?_settle]
  cases code[search (offsets code) target]? with
  | none =>
    refine ⟨code.length, ?_⟩
    rw [front, List.take_length]
    rfl
  | some _ =>
    refine ⟨search (offsets code) target, ?_⟩
    rw [front]
    exact Nat.zero_add _

/-- Renumbering twice is renumbering once, also where the first search was misled. -/
theorem FindsFirst.renumberBy_renumberBy {search : List Nat → Nat → Nat}
    (finds : FindsFirst search) (code : List Instruction) :
    renumberBy search (renumberBy search code) = renumberBy search code := by
  have settled := settle_renumberBy search code
  have sorted := pairwise_offsets_settle 0 (renumberBy search code)
  rw [settled] at sorted
  rw [finds.renumberBy_eq sorted]
  exact renumber_eq_self settled fun _ member _ inside => ends_of_renumberBy member inside

/-- Renumbering restores a valid layout: where the offsets did not decrease, each instruction
stands behind the sizes in front of it, and each slot follows the first instruction at or behind
what it held. And it does so at once: whatever the offsets were, renumbering again changes
nothing. All of this holds however the first instruction is searched, as long as a search among
offsets that do not decrease finds it. -/
theorem renumber_restores {search : List Nat → Nat → Nat} (finds : FindsFirst search)
    (code : List Instruction) :
    ((offsets code).Pairwise (· ≤ ·) →
      Relands code (renumber code) ∧ renumberBy search code = renumber code) ∧
    renumber (renumber code) = renumber code ∧
    renumberBy search (renumberBy search code) = renumberBy search code := by
  refine ⟨fun sorted => ⟨relands_renumber code, finds.renumberBy_eq sorted⟩, ?_,
    finds.renumberBy_renumberBy code⟩
  have counting : FindsFirst fun starts target => (starts.takeWhile (· < target)).length :=
    fun _ _ _ => rfl
  rw [renumber_eq_renumberBy code, renumber_eq_renumberBy (renumberBy _ code)]
  exact counting.renumberBy_renumberBy code

/-- Halving the offsets of a stream in which empty instructions share offsets: the targets in front
of the first instruction, between two, at shared offsets and behind the last all follow. -/
theorem renumber_restores_shared :
    let search := fun starts target => bisect starts target 0 starts.length
    let empty : Instruction := { Instruction.nop with size := 0 }
    let code : List Instruction := [(Instruction.switch [0, 5, 6, 9]).placedAt 4,
      empty.placedAt 5, empty.placedAt 5, (Instruction.branch 0xDE 5).placedAt 7,
      (Instruction.ldcI4 5).placedAt 8]
    let laid : List Instruction := [Instruction.switch [0, 21, 21, 24],
      empty.placedAt 21, empty.placedAt 21, (Instruction.branch 0xDE 21).placedAt 21,
      (Instruction.ldcI4 5).placedAt 23]
    FindsFirst search ∧ (offsets code).Pairwise (· ≤ ·) ∧ renumber code = laid ∧
      renumberBy search code = laid ∧ renumberBy search laid = laid := by
  intro search empty code laid
  have sorted : (offsets code).Pairwise (· ≤ ·) := by decide
  have moved : renumber code = laid := by decide
  obtain ⟨restored, -, again⟩ := renumber_restores findsFirst_bisect code
  have searched := (restored sorted).2.trans moved
  rw [searched] at again
  exact ⟨findsFirst_bisect, sorted, moved, searched, again⟩

end ConstantRecovery
