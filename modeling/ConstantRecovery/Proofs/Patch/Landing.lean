import ConstantRecovery.Proofs.Code.Renumbered
import ConstantRecovery.Proofs.Patch.Sweep
import Mathlib.Logic.Relation

/-!
# Where jumps land after patching

Patching is a series of two kinds of edits, and renumbering once at their end. No edit
touches a jump slot or an offset: it drops an instruction, or puts the load of a constant
in the place of a literal. So the offsets that are left are some of the old ones in
their order, however many edits there were and whether or not the last call site could
be read, and each slot finds the first instruction that stands at or behind what it holds.
-/

namespace ConstantRecovery

/-- One edit of a body. -/
inductive Patcher.Edit (patcher : Patcher) : List Instruction → List Instruction → Prop
  /-- A jump in front of a getter call that only forwards to it goes. -/
  | forward {jump call : Instruction} (front back : List Instruction)
      (calls : call.isGetterCall patcher.getter patcher.resolver = true)
      (forwards : jump.forwardsTo call.offset = true) :
      patcher.Edit (front ++ jump :: call :: back) (front ++ call :: back)
  /-- The literal and the call of a call site give way to the load of their constant. -/
  | constant {literal call : Instruction} {site : CallSite} {constant : Constant}
      (front back : List Instruction)
      (calls : call.isGetterCall patcher.getter patcher.resolver = true)
      (read : patcher.callSite (front ++ literal :: call :: back) (front.length + 1) = .ok site)
      (known : patcher.constantAt site = .ok constant) :
      patcher.Edit (front ++ literal :: call :: back)
        (front ++ constant.load.placedAt literal.offset :: back)

/-- An instruction of a body, or the load of a constant in the place of a literal of the body. -/
def StandsIn (body : List Instruction) (instruction : Instruction) : Prop :=
  instruction ∈ body ∨ ∃ literal ∈ body, literal.isInt32Load = true ∧
    ∃ constant : Constant, instruction = constant.load.placedAt literal.offset

/-- What edits can leave of a body: some of its offsets in their order, and at each of them an
instruction that stands in for the body's. -/
structure Remains (body left : List Instruction) : Prop where
  offsets : (offsets left).Sublist (ConstantRecovery.offsets body)
  stands : ∀ instruction ∈ left, StandsIn body instruction

namespace Patcher

variable {patcher : Patcher} {body code left front rest : List Instruction} {call : Instruction}

/-! ## Patching as edits -/

/-- Dropping a forward is no edit or one. -/
theorem edits_withoutForward (calls : call.isGetterCall patcher.getter patcher.resolver = true)
    (front rest : List Instruction) :
    Relation.ReflTransGen patcher.Edit (front ++ call :: rest)
      (withoutForward front call ++ call :: rest) := by
  unfold withoutForward
  by_cases forwards : front.getLast?.any (·.forwardsTo call.offset) = true
  · rw [if_pos forwards]
    rcases List.eq_nil_or_concat front with rfl | ⟨before, jump, rfl⟩
    · cases forwards
    · rw [List.concat_eq_append, List.getLast?_concat, Option.any_some] at forwards
      rw [List.concat_eq_append, List.dropLast_concat, List.append_assoc]
      exact .single (.forward before rest calls forwards)
  · rw [if_neg forwards]

/-- Replacing a call site is an edit. -/
theorem edit_of_collapse (calls : call.isGetterCall patcher.getter patcher.resolver = true)
    {kind : ConstantKind} {load : Instruction}
    (done : patcher.collapse front call = .ok (kind, load)) (rest : List Instruction) :
    patcher.Edit (front ++ call :: rest) (front.dropLast ++ load :: rest) := by
  unfold collapse at done
  cases read : patcher.callSite (front ++ [call]) front.length with
  | error error =>
    rw [read] at done
    cases done
  | ok site =>
    rw [read] at done
    change Except.map _ (patcher.constantAt site) = _ at done
    obtain ⟨before, literal, shape, -, place⟩ := patcher.exists_literal_of_callSite read
    cases known : patcher.constantAt site with
    | error error =>
      rw [known] at done
      cases done
    | ok constant =>
      rw [known] at done
      cases done
      rw [← patcher.callSite_append front rest call] at read
      subst shape
      rw [List.length_append, List.length_singleton, List.append_assoc] at read
      rw [List.dropLast_concat, List.append_assoc, place]
      exact .constant before rest calls read known

/-- A pass is a series of edits. -/
theorem edits_sweep (method : Method) (report : PatchReport) (front rest : List Instruction) :
    Relation.ReflTransGen patcher.Edit (front ++ rest)
      (patcher.sweep method report front rest).2 := by
  induction rest generalizing report front with
  | nil =>
    rw [List.append_nil]
    exact .refl
  | cons instruction rest ih =>
    cases calls : instruction.isGetterCall patcher.getter patcher.resolver with
    | false =>
      have later := ih report (front ++ [instruction])
      rw [List.append_assoc] at later
      rw [sweep, calls]
      exact later
    | true =>
      rw [sweep, if_pos calls]
      apply (edits_withoutForward calls front rest).trans
      generalize withoutForward front instruction = front
      dsimp only
      cases collapsed : patcher.collapse front instruction with
      | error error => exact .refl
      | ok pair =>
        have later := ih (report.record pair.1) (front.dropLast ++ [pair.2])
        rw [List.append_assoc] at later
        exact .head (edit_of_collapse calls collapsed rest) later

/-! ## What edits leave -/

/-- What stands in for what stands in for a literal stands in for the literal itself. -/
theorem standsIn_load {literal : Instruction} (stands : StandsIn body literal)
    (loads : literal.isInt32Load = true) (constant : Constant) :
    StandsIn body (constant.load.placedAt literal.offset) := by
  rcases stands with member | ⟨first, member, number, other, rfl⟩
  · exact .inr ⟨literal, member, loads, constant, rfl⟩
  · exact .inr ⟨first, member, number, constant, rfl⟩

/-- An edit keeps what can be left of a body. -/
theorem Edit.remains (edit : patcher.Edit code left) (remains : Remains body code) :
    Remains body left := by
  cases edit with
  | forward front back calls forwards =>
    have part (jump : Instruction) (rest : List Instruction) :
        (front ++ rest).Sublist (front ++ jump :: rest) :=
      (List.Sublist.refl front).append (List.sublist_cons_self jump rest)
    constructor
    · exact ((part _ _).map _).trans remains.offsets
    · intro instruction member
      exact remains.stands instruction ((part _ _).subset member)
  | @constant literal call site constant front back calls read known =>
    have loads : literal.isInt32Load = true := by
      have split : front ++ literal :: call :: back = (front ++ [literal]) ++ call :: back := by
        rw [List.append_assoc, List.singleton_append]
      have size : front.length + 1 = (front ++ [literal]).length := by
        rw [List.length_append, List.length_singleton]
      rw [split, size, callSite_append] at read
      obtain ⟨before, found, shape, number, -⟩ := patcher.exists_literal_of_callSite read
      have same := List.append_inj_right' shape rfl
      rw [List.singleton_inj] at same
      rw [same]
      exact Instruction.isInt32Load_of_int32Literal? number
    have inside : literal ∈ front ++ literal :: call :: back :=
      List.mem_append_right _ List.mem_cons_self
    constructor
    · have part : (offsets (front ++ constant.load.placedAt literal.offset :: back)).Sublist
          (offsets (front ++ literal :: call :: back)) := by
        simp only [offsets, List.map_append, List.map_cons]
        exact (List.Sublist.refl _).append (.cons_cons _ (.cons _ (.refl _)))
      exact part.trans remains.offsets
    · intro instruction member
      rcases List.mem_append.1 member with before | member
      · exact remains.stands instruction (List.mem_append_left _ before)
      · rcases List.mem_cons.1 member with rfl | behind
        · exact standsIn_load (remains.stands literal inside) loads constant
        · apply remains.stands instruction
          exact List.mem_append_right _ (List.mem_cons_of_mem _ (List.mem_cons_of_mem _ behind))

/-- However many edits there are, they leave what can be left of the body. -/
theorem remains_of_edits (edits : Relation.ReflTransGen patcher.Edit body left) :
    Remains body left := by
  induction edits with
  | refl => exact ⟨List.Sublist.refl _, fun instruction member => .inl member⟩
  | tail _ edit remains => exact edit.remains remains

end Patcher

/-! ## Where slots follow -/

/-- Jumps survive patching. What is left of the body is what a series of edits leaves: its
instructions stand in for some of the body's, in order. The new body has no gaps, and each slot
of an instruction that is left holds the new offset of the first instruction that is left at or
behind the old target; so a jump to an instruction that is left, or to a literal that gave way to
a constant, lands where that stands now. -/
theorem Patcher.patchMethod_lands (patcher : Patcher) (unaided : patcher.cleaner? = none)
    (method : Method) (ascending : Ascending method.body) (sharing : Option Interner) :
    let patched := ((patcher.patchMethod method).run sharing).1.2.body
    ∃ left : List Instruction, Relation.ReflTransGen patcher.Edit method.body left ∧
      Remains method.body left ∧ Ascending left ∧
      patched = settle 0 (left.map (·.mapSlots (firstFrom left patched))) ∧
      (∀ (position : Nat) (new : Instruction), patched[position]? = some new →
        new.offset = codeSize (patched.take position)) ∧
      ∀ (position : Nat) (old : Instruction), left[position]? = some old →
        ∃ new : Instruction, patched[position]? = some new ∧
          new.jumpSlots = old.jumpSlots.map (firstFrom left patched) ∧
          firstFrom left patched old.offset = new.offset := by
  intro patched
  have edits := patcher.edits_sweep method .ofMethod [] method.body
  have shape : patched = renumber (patcher.sweep method .ofMethod [] method.body).2 := by
    show ((patcher.patchMethod method).run sharing).1.2.body = _
    rw [patcher.run_patchMethod sharing unaided method]
  generalize (patcher.sweep method .ofMethod [] method.body).2 = left at edits shape
  have remains : Remains method.body left := remains_of_edits edits
  have sorted : Ascending left := List.Pairwise.sublist remains.offsets ascending
  have follows : landing left (settle 0 left) = firstFrom left patched := by
    rw [shape]
    exact landing_eq_firstFrom left
  have moved : patched = settle 0 (left.map (·.mapSlots (firstFrom left patched))) := by
    rw [← follows, settle_map_mapSlots, shape, renumber]
  refine ⟨left, edits, remains, sorted, moved, fun _ _ => offset_of_settle moved, ?_⟩
  intro position old here
  have there : patched[position]? = (renumber left)[position]? := by rw [shape]
  rw [renumber, follows, List.getElem?_map, getElem?_settle, Nat.zero_add, here] at there
  let placed := old.placedAt (codeSize (left.take position))
  change _ = some (placed.mapSlots (firstFrom left patched)) at there
  refine ⟨_, there, ?_, ?_⟩
  · exact Instruction.jumpSlots_mapSlots _ placed
  · rw [Instruction.offset_mapSlots, ← follows]
    exact sorted.landing_offset here

/-- A jump to a literal and a `leave` over the call site behind it follow the replacement, which a
forward stood in the middle of. -/
theorem Patcher.patchMethod_lands_on_replacement :
    let spec : Token := ⟨0x2B000001⟩
    let patcher : Patcher :=
      { getter := ⟨0x06000001⟩
        mapping := ⟨#v[.default, .number, .object, .string], by decide⟩
        keys := ⟨1, 0⟩
        blob := ⟨[]⟩
        resolver := ⟨fun _ => none, fun _ => some ⟨⟨0x06000001⟩, [.int32]⟩⟩
        cleaner? := none }
    let method : Method := ⟨⟨0x06000002⟩, "C::M", settle 0 [.branch 0x2B 3, .nop, .ldcI4 0,
      .branch 0x2B 6, .call spec, .branch 0xDE 13, .ret]⟩
    let patched := ((patcher.patchMethod method).run none).1.2.body
    patcher.cleaner? = none ∧ Ascending method.body ∧
      (∃ left, Relation.ReflTransGen patcher.Edit method.body left ∧
        patched = settle 0 (left.map (·.mapSlots (firstFrom left patched)))) ∧
      patched = settle 0 [.branch 0x2B 3, .nop, .initobj .int32, .branch 0xDE 11, .ret] := by
  intro spec patcher method patched
  have ascending : Ascending method.body := ascending_settle 0 _ (by decide)
  obtain ⟨left, edits, -, -, moved, -⟩ := patcher.patchMethod_lands rfl method ascending none
  refine ⟨rfl, ascending, ⟨left, edits, moved⟩, ?_⟩
  decide +kernel

end ConstantRecovery
