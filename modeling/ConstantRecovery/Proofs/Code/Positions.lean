import ConstantRecovery.Code.Layout
import ConstantRecovery.Flow.Block

/-!
# Where instructions stand

A settled stream gives each instruction the sum of the sizes in front of it, so its
offsets ascend as soon as no instruction is empty. In an ascending stream an offset
names one position, and looking the offset up finds that position.
-/

namespace ConstantRecovery

/-- The offsets of a stream grow from each instruction to the next. -/
def Ascending (code : List Instruction) : Prop := (offsets code).Pairwise (· < ·)

/-- Nothing takes no room. -/
@[simp] theorem codeSize_nil : codeSize [] = 0 := rfl

/-- A stream takes the room of its first instruction and that of the others. -/
@[simp] theorem codeSize_cons (instruction : Instruction) (rest : List Instruction) :
    codeSize (instruction :: rest) = instruction.size + codeSize rest := rfl

/-- Two streams in a row take the room of both. -/
@[simp] theorem codeSize_append (front back : List Instruction) :
    codeSize (front ++ back) = codeSize front + codeSize back := by
  induction front with
  | nil => rw [List.nil_append, codeSize, Nat.zero_add]
  | cons instruction rest ih => rw [List.cons_append, codeSize, ih, codeSize, Nat.add_assoc]

/-- Nothing that a stream is measured by depends on where its instructions stand. -/
theorem codeSize_congr {first second : List Instruction}
    (same : first.map (·.size) = second.map (·.size)) : codeSize first = codeSize second := by
  have sizes (code : List Instruction) : codeSize code = (code.map (·.size)).foldr (· + ·) 0 := by
    induction code with
    | nil => rfl
    | cons instruction rest ih => rw [codeSize, ih, List.map_cons, List.foldr_cons]
  rw [sizes, sizes, same]

/-- In a settled stream an instruction stands behind the sizes in front of it. -/
theorem getElem?_settle (start : Nat) (code : List Instruction) (position : Nat) :
    (settle start code)[position]? =
      code[position]?.map (·.placedAt (start + codeSize (code.take position))) := by
  induction code generalizing start position with
  | nil => simp [settle]
  | cons instruction rest ih =>
    cases position with
    | zero => simp [settle]
    | succ position =>
      simp only [settle, List.getElem?_cons_succ, ih, List.take_succ_cons, codeSize_cons]
      rw [Nat.add_assoc]

/-- Moving slots and settling do not meet. -/
theorem settle_map_mapSlots (start : Nat) (code : List Instruction) (move : Nat → Nat) :
    settle start (code.map (·.mapSlots move)) = (settle start code).map (·.mapSlots move) := by
  induction code generalizing start with
  | nil => rfl
  | cons first rest ih =>
    obtain ⟨operand, same⟩ := first.mapSlots_frame move
    have size : (first.mapSlots move).size = first.size := by rw [same]
    have placed : (first.mapSlots move).placedAt start = (first.placedAt start).mapSlots move := by
      obtain ⟨offset, size, opcode, lead, mnemonic, flow, operand⟩ := first
      cases flow <;> cases operand <;> rfl
    rw [List.map_cons, settle, size, ih, placed, settle, List.map_cons]

/-- Settling does not ask where instructions stood. -/
theorem settle_map_placedAt (start : Nat) (code : List Instruction) (place : Instruction → Nat) :
    settle start (code.map fun instruction => instruction.placedAt (place instruction)) =
      settle start code := by
  induction code generalizing start with
  | nil => rfl
  | cons first rest ih =>
    rw [List.map_cons, settle, settle, ih]
    rfl

/-- A stream that is settled twice stands where it is settled last. -/
@[simp] theorem settle_settle (start other : Nat) (code : List Instruction) :
    settle start (settle other code) = settle start code := by
  induction code generalizing start other with
  | nil => rfl
  | cons first rest ih => exact congrArg (first.placedAt start :: ·) (ih _ _)

/-- An offset lands behind the sizes of all instructions in front of it. -/
theorem landing_settle (code : List Instruction) (target : Nat) :
    landing code (settle 0 code) target = codeSize (code.takeWhile (·.offset < target)) := by
  generalize front : code.takeWhile (·.offset < target) = passed
  have split : passed ++ code.dropWhile (·.offset < target) = code := by
    rw [← front]
    exact List.takeWhile_append_dropWhile
  have taken : code.take passed.length = passed := by
    rw [← split, List.take_left]
  simp only [landing, front, getElem?_settle, taken, Nat.zero_add]
  cases here : code[passed.length]? with
  | some instruction => rfl
  | none =>
    have short := List.getElem?_eq_none_iff.1 here
    rw [List.take_of_length_le short] at taken
    show codeSize (settle 0 code) = codeSize passed
    rw [codeSize_settle, taken]

/-- Renumbering settles a stream and lets each slot follow the first instruction that stood at
or behind the offset in it. -/
theorem renumber_eq (code : List Instruction) :
    renumber code = settle 0 (code.map (·.mapSlots fun target =>
      codeSize (code.takeWhile (·.offset < target)))) := by
  have same : landing code (settle 0 code) =
      fun target => codeSize (code.takeWhile (·.offset < target)) :=
    funext (landing_settle code)
  rw [settle_map_mapSlots, ← same, renumber]

/-- A settled stream starts nowhere in front of its start. -/
theorem le_offset_of_mem_settle {start : Nat} {code : List Instruction} {instruction : Instruction}
    (member : instruction ∈ settle start code) : start ≤ instruction.offset := by
  induction code generalizing start with
  | nil => simp [settle] at member
  | cons first rest ih =>
    rcases List.mem_cons.1 member with rfl | member
    · exact Nat.le_refl start
    · have behind := ih member
      omega

/-- A settled stream without empty instructions ascends. -/
theorem ascending_settle (start : Nat) (code : List Instruction)
    (positive : ∀ instruction ∈ code, 0 < instruction.size) : Ascending (settle start code) := by
  induction code generalizing start with
  | nil => exact List.Pairwise.nil
  | cons first rest ih =>
    have tail := ih (start + first.size) fun instruction member =>
      positive instruction (List.mem_cons_of_mem _ member)
    refine List.Pairwise.cons ?_ tail
    intro offset member
    obtain ⟨instruction, inside, rfl⟩ := List.mem_map.1 member
    have behind := le_offset_of_mem_settle inside
    have size := positive first List.mem_cons_self
    show start < instruction.offset
    omega

/-- A part of an ascending stream ascends. -/
theorem Ascending.sublist {part code : List Instruction} (ascending : Ascending code)
    (sublist : part.Sublist code) : Ascending part :=
  List.Pairwise.sublist (sublist.map _) ascending

/-- In an ascending list each entry is found where it stands. -/
theorem lastPosition?_of_ascending {starts : List Nat} (ascending : starts.Pairwise (· < ·))
    {offset position : Nat} (here : starts[position]? = some offset) :
    lastPosition? offset starts = some position := by
  have member : offset ∈ starts := List.mem_of_getElem? here
  obtain ⟨found, hit⟩ := Option.isSome_iff_exists.1 ((lastPosition?_isSome offset starts).2 member)
  have there := getElem?_of_lastPosition? hit
  have nodup : starts.Nodup := ascending.imp Nat.ne_of_lt
  obtain ⟨inside, -⟩ := List.getElem?_eq_some_iff.1 here
  rw [hit, (List.getElem?_inj inside nodup).1 (here.trans there.symm)]

/-- In an ascending stream the offset of an instruction names its position. -/
theorem Ascending.lastPosition? {code : List Instruction} (ascending : Ascending code)
    {position : Nat} {instruction : Instruction} (here : code[position]? = some instruction) :
    lastPosition? instruction.offset (offsets code) = some position :=
  lastPosition?_of_ascending ascending (by simp [offsets, here])

/-- In an ascending stream what is in front of an instruction starts in front of it. -/
theorem Ascending.lt_offset {front rest : List Instruction} {instruction : Instruction}
    (ascending : Ascending (front ++ instruction :: rest)) :
    ∀ other ∈ front, other.offset < instruction.offset := by
  intro other member
  unfold Ascending offsets at ascending
  rw [List.map_append, List.pairwise_append] at ascending
  apply ascending.2.2 other.offset (List.mem_map_of_mem member)
  exact List.mem_cons_self

/-- In an ascending stream what is behind an instruction starts behind it. -/
theorem Ascending.offset_lt {front rest : List Instruction} {instruction : Instruction}
    (ascending : Ascending (front ++ instruction :: rest)) :
    ∀ other ∈ rest, instruction.offset < other.offset := by
  intro other member
  unfold Ascending offsets at ascending
  rw [List.map_append, List.pairwise_append, List.map_cons, List.pairwise_cons] at ascending
  exact ascending.2.1.1 other.offset (List.mem_map_of_mem member)

/-- A stream falls apart at each of its positions. -/
theorem split_at_position {code : List Instruction} {position : Nat} {instruction : Instruction}
    (here : code[position]? = some instruction) :
    code = code.take position ++ instruction :: code.drop (position + 1) := by
  obtain ⟨inside, shape⟩ := List.getElem?_eq_some_iff.1 here
  rw [← shape, List.getElem_cons_drop, List.take_append_drop]

/-- In an ascending stream exactly the instructions in front of one start in front of it. -/
theorem Ascending.takeWhile_offset {code : List Instruction} (ascending : Ascending code)
    {position : Nat} {instruction : Instruction} (here : code[position]? = some instruction) :
    code.takeWhile (·.offset < instruction.offset) = code.take position := by
  have split := split_at_position here
  rw [split] at ascending
  have before := ascending.lt_offset
  generalize code.take position = passed at split before
  rw [split, List.takeWhile_append_of_pos (by simpa using before),
    List.takeWhile_cons_of_neg (by simp), List.append_nil]

/-- In an ascending stream an offset lands with the instruction that stands at it. -/
theorem Ascending.landing_offset {code : List Instruction} (ascending : Ascending code)
    {position : Nat} {instruction : Instruction} (here : code[position]? = some instruction) :
    landing code (settle 0 code) instruction.offset = codeSize (code.take position) := by
  rw [landing_settle, ascending.takeWhile_offset here]

/-- Slots keep their order. -/
theorem landing_mono (code : List Instruction) {first second : Nat} (le : first ≤ second) :
    landing code (settle 0 code) first ≤ landing code (settle 0 code) second := by
  rw [landing_settle, landing_settle]
  induction code with
  | nil => exact Nat.le_refl _
  | cons instruction rest ih =>
    by_cases passed : instruction.offset < first
    · rw [List.takeWhile_cons_of_pos (by simpa using passed),
        List.takeWhile_cons_of_pos (by simp; omega)]
      simp only [codeSize_cons]
      omega
    · rw [List.takeWhile_cons_of_neg (by simpa using passed)]
      exact Nat.zero_le _

/-- In an ascending stream, what is behind an instruction that takes room lands behind it, and
nothing else does. -/
theorem Ascending.landing_lt_landing_iff {code : List Instruction} (ascending : Ascending code)
    {position : Nat} {instruction : Instruction} (here : code[position]? = some instruction)
    (room : 0 < instruction.size) (target : Nat) :
    landing code (settle 0 code) instruction.offset < landing code (settle 0 code) target ↔
      instruction.offset < target := by
  constructor
  · intro past
    exact Nat.lt_of_not_le fun front => Nat.not_lt.2 (landing_mono code front) past
  · intro behind
    rw [ascending.landing_offset here, landing_settle]
    have split := split_at_position here
    generalize code.take position = front at split
    generalize code.drop (position + 1) = rest at split
    subst split
    have before (other : Instruction) (member : other ∈ front) : other.offset < target :=
      Nat.lt_trans (ascending.lt_offset other member) behind
    rw [List.takeWhile_append_of_pos (by simpa using before),
      List.takeWhile_cons_of_pos (by simpa using behind), codeSize_append, codeSize_cons]
    omega

/-- Settling changes no size, so the front of a settled stream is as long as it was. -/
theorem codeSize_take_settle (start : Nat) (code : List Instruction) (position : Nat) :
    codeSize ((settle start code).take position) = codeSize (code.take position) := by
  induction code generalizing start position with
  | nil => rfl
  | cons first rest ih =>
    cases position with
    | zero => rfl
    | succ position =>
      rw [settle, List.take_succ_cons, List.take_succ_cons, codeSize_cons, codeSize_cons, ih]
      rfl

/-- A settled stream has no gaps. -/
theorem offset_of_settle {code settled : List Instruction} (shape : settled = settle 0 code)
    {position : Nat} {instruction : Instruction} (here : settled[position]? = some instruction) :
    instruction.offset = codeSize (settled.take position) := by
  rw [shape, getElem?_settle, Nat.zero_add] at here
  obtain ⟨original, -, rfl⟩ := Option.map_eq_some_iff.1 here
  rw [shape, codeSize_take_settle]
  rfl

end ConstantRecovery
