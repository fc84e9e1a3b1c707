import ConstantRecovery.Proofs.Patch.GetterCall
import ConstantRecovery.Proofs.Patch.Landing

/-!
# Jumps into a call site

A call site becomes a constant at the place of its literal, and what stood behind the
literal goes: the call, and the jump in front of it that only forwarded to it. Nothing is
asked about other jumps to these two. Such a jump follows the first instruction that is
left, which is the one behind the constant; whatever literal its path has brought along
stays on the stack. The main statement says that exactly the jumps into a call site fare
like this.
-/

namespace ConstantRecovery

/-- A call site that gave way to a constant. -/
structure Collapse where
  /-- What was in front of the call: a literal, or a constant in the place of one. -/
  literal : Instruction
  /-- The jump between them that only forwarded to the call, if there was one. -/
  forward? : Option Instruction
  /-- The getter call. -/
  call : Instruction
deriving DecidableEq

/-- What goes and has nothing put in its place. -/
def Collapse.swallowed (collapse : Collapse) : List Instruction :=
  collapse.forward?.toList ++ [collapse.call]

/-- A front is what remains without its forward, and the forward. -/
theorem exists_forward? (front : List Instruction) (call : Instruction) :
    ∃ forward? : Option Instruction, front = withoutForward front call ++ forward?.toList ∧
      front[(withoutForward front call).length]? = forward? ∧
        ∀ jump ∈ forward?, jump.forwardsTo call.offset = true := by
  unfold withoutForward
  by_cases forwards : front.getLast?.any (·.forwardsTo call.offset) = true
  · rw [if_pos forwards]
    rcases List.eq_nil_or_concat front with rfl | ⟨before, jump, rfl⟩
    · cases forwards
    · rw [List.concat_eq_append, List.getLast?_concat, Option.any_some] at forwards
      rw [List.concat_eq_append, List.dropLast_concat, List.getElem?_concat_length]
      refine ⟨some jump, rfl, rfl, ?_⟩
      intro other same
      cases same
      exact forwards
  · rw [if_neg forwards]
    exact ⟨none, (List.append_nil front).symm, List.getElem?_eq_none (Nat.le_refl _), nofun⟩

namespace Patcher

variable {patcher : Patcher} {body code left front rest : List Instruction} {collapse : Collapse}

/-- The call sites that a pass over what is behind `front` replaces, in order. -/
def collapses (patcher : Patcher) (front : List Instruction) : List Instruction → List Collapse
  | [] => []
  | instruction :: rest =>
    if instruction.isGetterCall patcher.getter patcher.resolver then
      let kept := withoutForward front instruction
      match patcher.collapse kept instruction, kept.getLast? with
      | .ok (_, load), some literal =>
        { literal, forward? := front[kept.length]?, call := instruction } ::
          collapses patcher (kept.dropLast ++ [load]) rest
      | _, _ => []
    else collapses patcher (front ++ [instruction]) rest

/-- A call site that collapses is listed, and the pass goes on with its constant. -/
theorem collapses_cons {call load literal : Instruction} {kind : ConstantKind}
    {before : List Instruction}
    (calls : call.isGetterCall patcher.getter patcher.resolver = true)
    (done : patcher.collapse (withoutForward front call) call = .ok (kind, load))
    (shape : withoutForward front call = before ++ [literal]) :
    patcher.collapses front (call :: rest) =
      { literal, forward? := front[(withoutForward front call).length]?, call } ::
        patcher.collapses (before ++ [load]) rest := by
  have last : (withoutForward front call).getLast? = some literal := by
    rw [shape, List.getLast?_concat]
  have front : (withoutForward front call).dropLast = before := by
    rw [shape, List.dropLast_concat]
  rw [collapses, if_pos calls]
  dsimp only
  rw [done, last, front]

/-- A pass counts a call site that collapses, and goes on with its constant. -/
theorem sweep_cons (method : Method) (report : PatchReport) {call load literal : Instruction}
    {kind : ConstantKind} {before : List Instruction}
    (calls : call.isGetterCall patcher.getter patcher.resolver = true)
    (done : patcher.collapse (withoutForward front call) call = .ok (kind, load))
    (shape : withoutForward front call = before ++ [literal]) :
    patcher.sweep method report front (call :: rest) =
      patcher.sweep method (report.record kind) (before ++ [load]) rest := by
  have front : (withoutForward front call).dropLast = before := by
    rw [shape, List.dropLast_concat]
  rw [sweep, if_pos calls]
  dsimp only
  rw [done, front]

/-- A pass lists as many call sites as its report counts. -/
theorem replaced_sweep (method : Method) (report : PatchReport) (front rest : List Instruction) :
    (patcher.sweep method report front rest).1.replaced =
      report.replaced + (patcher.collapses front rest).length := by
  induction rest generalizing report front with
  | nil => rfl
  | cons instruction rest ih =>
    cases calls : instruction.isGetterCall patcher.getter patcher.resolver with
    | false =>
      rw [sweep, collapses, calls]
      exact ih report _
    | true =>
      cases collapsed : patcher.collapse (withoutForward front instruction) instruction with
      | error error =>
        rw [sweep, collapses, if_pos calls, if_pos calls]
        dsimp only
        rw [collapsed]
        rfl
      | ok pair =>
        obtain ⟨kind, load⟩ := pair
        obtain ⟨before, literal, constant, shape, -, known, -⟩ :=
          patcher.exists_constant_of_collapse collapsed
        have counted := ih (report.record kind) (before ++ [load])
        have kept : kind ≠ .object := by
          rw [known]
          exact constant.kind_ne_object
        rw [report.replaced_record kept] at counted
        rw [collapses_cons calls collapsed shape, sweep_cons method report calls collapsed shape,
          List.length_cons]
        omega

/-- Each call site that is listed stands in what edits have left of the body by then, and edits
lead on from what it leaves. -/
theorem exists_edits_of_mem_collapses (method : Method) (report : PatchReport)
    (member : collapse ∈ patcher.collapses front rest) :
    ∃ before back, ∃ constant : Constant,
      collapse.call.isGetterCall patcher.getter patcher.resolver = true ∧
      (∀ jump ∈ collapse.forward?, jump.forwardsTo collapse.call.offset = true) ∧
      Relation.ReflTransGen patcher.Edit (front ++ rest)
        (before ++ collapse.literal :: (collapse.swallowed ++ back)) ∧
      Relation.ReflTransGen patcher.Edit
        (before ++ constant.load.placedAt collapse.literal.offset :: back)
        (patcher.sweep method report front rest).2 := by
  induction rest generalizing report front with
  | nil => cases member
  | cons instruction rest ih =>
    cases calls : instruction.isGetterCall patcher.getter patcher.resolver with
    | false =>
      rw [collapses, calls] at member
      obtain ⟨before, back, constant, site, forwards, reached, later⟩ := ih report member
      rw [List.append_assoc] at reached
      rw [sweep, calls]
      exact ⟨before, back, constant, site, forwards, reached, later⟩
    | true =>
      cases collapsed : patcher.collapse (withoutForward front instruction) instruction with
      | error error =>
        rw [collapses, if_pos calls] at member
        dsimp only at member
        rw [collapsed] at member
        cases member
      | ok pair =>
        obtain ⟨kind, load⟩ := pair
        obtain ⟨before, literal, constant, shape, -, -, place⟩ :=
          patcher.exists_constant_of_collapse collapsed
        obtain ⟨forward?, split, found, forwards⟩ := exists_forward? front instruction
        have edits := edits_withoutForward calls front rest
        have edit := edit_of_collapse calls collapsed rest
        rw [collapses_cons calls collapsed shape, found] at member
        rw [sweep_cons method report calls collapsed shape]
        rw [shape] at split edits edit
        rw [List.dropLast_concat] at edit
        rcases List.mem_cons.1 member with rfl | member
        · have here : front ++ instruction :: rest =
              before ++ literal :: ((forward?.toList ++ [instruction]) ++ rest) := by
            simp [split]
          have later := patcher.edits_sweep method (report.record kind) (before ++ [load]) rest
          rw [List.append_assoc, List.singleton_append, place] at later
          refine ⟨before, rest, constant, calls, forwards, ?_, ?_⟩
          · rw [here]
            exact .refl
          · rw [place]
            exact later
        · obtain ⟨front, back, other, site, jumps, reached, later⟩ :=
            ih (report.record kind) member
          rw [List.append_assoc, List.singleton_append] at reached
          exact ⟨front, back, other, site, jumps, (edits.tail edit).trans reached, later⟩

/-! ## What stays of a call site -/

/-- An edit drops no constant; it may put another one in its place. -/
theorem Edit.exists_load (edit : patcher.Edit code left) {offset : Nat}
    (there : ∃ constant : Constant, constant.load.placedAt offset ∈ code) :
    ∃ constant : Constant, constant.load.placedAt offset ∈ left := by
  obtain ⟨constant, member⟩ := there
  have stays {front back : List Instruction} {instruction : Instruction}
      (kept : constant.load.placedAt offset ∈ front ∨ constant.load.placedAt offset ∈ back) :
      ∃ constant : Constant, constant.load.placedAt offset ∈ front ++ instruction :: back := by
    refine ⟨constant, ?_⟩
    simp only [List.mem_append, List.mem_cons]
    rcases kept with before | behind
    · exact .inl before
    · exact .inr (.inr behind)
  cases edit with
  | @forward jump call front back calls forwards =>
    have other : constant.load.placedAt offset ≠ jump := by
      intro same
      rw [← same, constant.forwardsTo_load] at forwards
      cases forwards
    refine ⟨constant, ?_⟩
    simp only [List.mem_append, List.mem_cons] at member ⊢
    rcases member with before | same | behind
    · exact .inl before
    · exact absurd same other
    · exact .inr behind
  | @constant literal call site known front back calls read decoded =>
    simp only [List.mem_append, List.mem_cons] at member
    rcases member with before | same | same | behind
    · exact stays (.inl before)
    · refine ⟨known, ?_⟩
      rw [← same]
      exact List.mem_append_right _ List.mem_cons_self
    · rw [← same, constant.isGetterCall_load] at calls
      cases calls
    · exact stays (.inr behind)

/-- Where a constant stands, one stands behind all edits. -/
theorem exists_load_of_edits (edits : Relation.ReflTransGen patcher.Edit code left) {offset : Nat}
    (there : ∃ constant : Constant, constant.load.placedAt offset ∈ code) :
    ∃ constant : Constant, constant.load.placedAt offset ∈ left := by
  induction edits with
  | refl => exact there
  | tail _ edit stays => exact edit.exists_load stays

/-- What goes with a call site is a getter call or forwards to one. -/
theorem mem_of_mem_swallowed {instruction : Instruction}
    (calls : collapse.call.isGetterCall patcher.getter patcher.resolver = true)
    (forwards : ∀ jump ∈ collapse.forward?, jump.forwardsTo collapse.call.offset = true)
    (member : instruction ∈ collapse.swallowed) (stands : StandsIn body instruction) :
    instruction ∈ body := by
  rcases stands with inside | ⟨literal, -, -, constant, same⟩
  · exact inside
  · rcases List.mem_append.1 member with jump | call
    · have known := forwards instruction (Option.mem_toList.1 jump)
      rw [same, constant.forwardsTo_load] at known
      cases known
    · rw [← List.mem_singleton.1 call, same, constant.isGetterCall_load] at calls
      cases calls

end Patcher

/-! ## Where jumps into a call site land -/

/-- In an ascending stream what goes with a call site stands between its literal and what is
behind its call. -/
theorem Ascending.around_collapse {collapse : Collapse} {before back : List Instruction}
    (ascending : Ascending (before ++ collapse.literal :: (collapse.swallowed ++ back))) :
    (∀ other ∈ before, other.offset < collapse.literal.offset) ∧
      (∀ instruction ∈ collapse.swallowed, collapse.literal.offset < instruction.offset ∧
        instruction.offset ≤ collapse.call.offset) ∧
      ∀ other ∈ back, collapse.call.offset < other.offset := by
  refine ⟨ascending.lt_offset, ?_⟩
  obtain ⟨literal, forward?, call⟩ := collapse
  cases forward? <;>
    simp [Ascending, offsets, Collapse.swallowed, List.pairwise_append] at ascending ⊢ <;> grind

/-- A slot between an instruction and the next one lands behind the instruction. -/
theorem landing_between {front back : List Instruction} {instruction : Instruction} {target : Nat}
    (before : ∀ other ∈ front, other.offset < target) (here : instruction.offset < target)
    (behind : ∀ other ∈ back, target ≤ other.offset) :
    landing (front ++ instruction :: back) (settle 0 (front ++ instruction :: back)) target =
      codeSize front + instruction.size := by
  have none : back.takeWhile (·.offset < target) = [] := by
    cases back with
    | nil => rfl
    | cons next rest =>
      have stays := behind next List.mem_cons_self
      exact List.takeWhile_cons_of_neg (by simpa using stays)
  rw [landing_settle, List.takeWhile_append_of_pos (by simpa using before),
    List.takeWhile_cons_of_pos (by simpa using here), none, codeSize_append, codeSize_cons,
    codeSize_nil, Nat.add_zero]

/-- Where a stream has a gap behind an instruction, the slots into the gap land behind the
instruction, and the slots in front of the gap do not. -/
theorem landing_around_gap {code : List Instruction} (ascending : Ascending code) {position : Nat}
    {instruction : Instruction} (here : code[position]? = some instruction)
    (inhabited : 0 < instruction.size) {last : Nat}
    (gap : ∀ other ∈ code, other.offset ≤ instruction.offset ∨ last < other.offset) {target : Nat}
    (within : target ≤ last) :
    (codeSize (code.take position) < landing code (settle 0 code) target ↔
      instruction.offset < target) ∧
    (instruction.offset < target →
      landing code (settle 0 code) target = codeSize (code.take position) + instruction.size) := by
  have lands := ascending.landing_offset here
  have inside (behind : instruction.offset < target) :
      landing code (settle 0 code) target =
        codeSize (code.take position) + instruction.size := by
    have split := split_at_position here
    have sorted := ascending
    generalize code.take position = front at split lands ⊢
    generalize code.drop (position + 1) = back at split
    rw [split] at sorted gap ⊢
    apply landing_between
    · intro other member
      exact Nat.lt_trans (sorted.lt_offset other member) behind
    · exact behind
    · intro other member
      have later : instruction.offset < other.offset := sorted.offset_lt other member
      have free := gap other (List.mem_append_right _ (List.mem_cons_of_mem _ member))
      omega
  rw [← lands]
  exact ⟨ascending.landing_lt_landing_iff here inhabited target, lands.symm ▸ inside⟩

/-- Which jumps end up behind a constant. The call sites that are replaced are as many as the report
counts. Of each, the call and the forward in front of it go, and a constant is left where the
literal was. A slot that an instruction of the new body has from the old one lands behind that
constant, at its end, exactly if it went to something behind the literal that is not behind the
call; in particular a jump to the call, or to the forward, that is left lands there, and nothing
asks whether there is one. -/
theorem Patcher.patchMethod_strands_iff (patcher : Patcher) (unaided : patcher.cleaner? = none)
    (method : Method) (ascending : Ascending method.body) (sharing : Option Interner) :
    let patched := ((patcher.patchMethod method).run sharing).1
    patched.1.replaced = (patcher.collapses [] method.body).length ∧
      ∃ left : List Instruction, Remains method.body left ∧
        (∀ (position : Nat) (old : Instruction), left[position]? = some old →
          ∃ new : Instruction, patched.2.body[position]? = some new ∧
            new.jumpSlots = old.jumpSlots.map (firstFrom left patched.2.body)) ∧
        ∀ collapse ∈ patcher.collapses [] method.body,
          (∀ instruction ∈ collapse.swallowed, instruction ∈ method.body ∧
            collapse.literal.offset < instruction.offset ∧
              instruction.offset ≤ collapse.call.offset) ∧
          ∃ (position : Nat) (value : Constant) (constant : Instruction),
            left[position]? = some (value.load.placedAt collapse.literal.offset) ∧
            patched.2.body[position]? = some constant ∧
            ∀ target ≤ collapse.call.offset,
              (constant.offset < firstFrom left patched.2.body target ↔
                collapse.literal.offset < target) ∧
              (collapse.literal.offset < target →
                firstFrom left patched.2.body target = constant.offset + constant.size) := by
  intro patched
  have outcome : patched = _ := patcher.run_patchMethod sharing unaided method
  have counted := patcher.replaced_sweep method .ofMethod [] method.body
  have edits := patcher.edits_sweep method .ofMethod [] method.body
  have listed (collapse : Collapse) (member : collapse ∈ patcher.collapses [] method.body) :=
    patcher.exists_edits_of_mem_collapses method .ofMethod member
  generalize patcher.sweep method .ofMethod [] method.body = swept at outcome counted edits listed
  obtain ⟨report, left⟩ := swept
  rw [outcome]
  have none : PatchReport.ofMethod.replaced = 0 := rfl
  rw [none, Nat.zero_add] at counted
  have remains : Remains method.body left := remains_of_edits edits
  have sorted : Ascending left := List.Pairwise.sublist remains.offsets ascending
  refine ⟨counted, left, remains, ?_, ?_⟩
  · intro position old here
    exact ⟨_, getElem?_renumber here, Instruction.jumpSlots_mapSlots _ (old.placedAt _)⟩
  · intro collapse member
    obtain ⟨before, back, value, calls, forwards, reached, later⟩ := listed collapse member
    have start : Remains method.body _ := remains_of_edits reached
    obtain ⟨inFront, inside, behind⟩ :=
      Ascending.around_collapse (List.Pairwise.sublist start.offsets ascending)
    constructor
    · intro instruction swallowed
      refine ⟨?_, inside instruction swallowed⟩
      apply mem_of_mem_swallowed calls forwards swallowed
      apply start.stands
      simp [swallowed]
    · obtain ⟨constant, stays⟩ := exists_load_of_edits later
        ⟨value, List.mem_append_right before List.mem_cons_self⟩
      obtain ⟨position, here⟩ := List.mem_iff_getElem?.1 stays
      have gap : ∀ other ∈ left, other.offset ≤ collapse.literal.offset ∨
          collapse.call.offset < other.offset := by
        intro other kept
        have old := (remains_of_edits later).offsets.subset (List.mem_map_of_mem kept)
        simp only [offsets, List.mem_map, List.mem_append, List.mem_cons] at old
        obtain ⟨first, passed | load | rest, place⟩ := old
        · have before := inFront first passed
          omega
        · rw [← place, load]
          exact .inl (Nat.le_refl _)
        · have later := behind first rest
          omega
      refine ⟨position, constant, _, here, getElem?_renumber here, ?_⟩
      intro target within
      have lands := landing_around_gap sorted here constant.isBuilt_load.size_pos gap within
      rw [landing_eq_firstFrom] at lands
      rw [Instruction.offset_mapSlots, Instruction.size_mapSlots]
      exact lands

/-- A patcher with the numbers 10 and 20, of which a call site asks for the first by the literal 0
and for the second by 1. -/
def numberPatcher : Patcher :=
  { getter := ⟨0x06000001⟩
    mapping := ⟨#v[.number, .string, .object, .default], by decide⟩
    keys := ⟨1, 0⟩
    blob := ⟨[10, 0, 0, 0, 20, 0, 0, 0]⟩
    resolver := ⟨fun _ => none, fun _ => some ⟨⟨0x06000001⟩, [.int32]⟩⟩
    cleaner? := none }

/-- A jump to the forward brings the literal 1 along, and returns with it. -/
theorem Patcher.patchMethod_strands_jump_to_forward :
    let method : Method := ⟨⟨0x06000002⟩, "C::M", settle 0 [.ldcI4 1, .ldarg 0, .branch 0x2D 6,
      .plain 0x26 .bare, .ldcI4 0, .branch 0x2B 8, .call ⟨0x2B000001⟩, .ret]⟩
    let patched := ((numberPatcher.patchMethod method).run none).1
    numberPatcher.cleaner? = none ∧ Ascending method.body ∧ patched.1.replaced = 1 ∧
      (∃ left, Remains method.body left ∧ ∃ constant ∈ patched.2.body,
        firstFrom left patched.2.body 6 = constant.offset + constant.size) ∧
      patched.2.body = settle 0 [.ldcI4 1, .ldarg 0, .branch 0x2D 7, .plain 0x26 .bare, .ldcI4 10,
        .ret] := by
  intro method patched
  have ascending : Ascending method.body := ascending_settle 0 _ (by decide)
  obtain ⟨counted, left, remains, -, sites⟩ :=
    numberPatcher.patchMethod_strands_iff rfl method ascending none
  let collapse : Collapse :=
    { literal := (Instruction.ldcI4 0).placedAt 5
      forward? := some ((Instruction.branch 0x2B 8).placedAt 6)
      call := (Instruction.call ⟨0x2B000001⟩).placedAt 8 }
  have listed : numberPatcher.collapses [] method.body = [collapse] := by decide +kernel
  rw [listed] at counted sites
  obtain ⟨-, position, value, constant, -, here, lands⟩ := sites collapse List.mem_cons_self
  have behind := (lands 6 (by decide)).2 (by decide)
  refine ⟨rfl, ascending, counted, ⟨left, remains, constant, List.mem_of_getElem? here, behind⟩, ?_⟩
  decide +kernel

/-- Replacing call sites does strand jumps: where two paths share a call and each brings its own
literal along, the path that jumps to the call returns with its literal. -/
theorem Patcher.not_unstranded :
    ¬ ∀ (patcher : Patcher) (method : Method), patcher.cleaner? = none → Ascending method.body →
      ∀ collapse ∈ patcher.collapses [] method.body, ∀ old ∈ method.body,
        old ∈ (patcher.sweep method .ofMethod [] method.body).2 →
          ∀ target ∈ old.jumpSlots, ∀ instruction ∈ collapse.swallowed,
            target ≠ instruction.offset := by
  intro unstranded
  let method : Method := ⟨⟨0x06000002⟩, "C::M", settle 0 [.ldarg 0, .branch 0x2D 6, .ldcI4 0,
    .branch 0x2B 7, .ldcI4 1, .call ⟨0x2B000001⟩, .ret]⟩
  let jump := (Instruction.branch 0x2B 7).placedAt 4
  let call := (Instruction.call ⟨0x2B000001⟩).placedAt 7
  let collapse : Collapse :=
    { literal := (Instruction.ldcI4 1).placedAt 6, forward? := none, call }
  have ascending : Ascending method.body := ascending_settle 0 _ (by decide)
  have listed : collapse ∈ numberPatcher.collapses [] method.body := by decide +kernel
  have survives : jump ∈ (numberPatcher.sweep method .ofMethod [] method.body).2 := by
    decide +kernel
  exact unstranded numberPatcher method rfl ascending collapse listed jump (by decide) survives 7
    (by decide) call (by decide) rfl

end ConstantRecovery
