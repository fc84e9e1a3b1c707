import ConstantRecovery.Proofs.Code.Positions
import ConstantRecovery.Proofs.Patch.Sweep

/-!
# Every index of the loop is in range

The loop of the patcher reads instructions by number, takes one out, and puts one in the place of
two. The list operations it is written with give something for any number. Here the loop is
written again with operations that refuse a number that is out of range, and without a round to
spare it refuses too. The main statement of the module is that it never refuses: the checked loop
is the loop itself.
-/

namespace ConstantRecovery

namespace Checked

variable {α : Type}

/-- The list without the entry at a number, which has to be in range. -/
def erase? (items : List α) (index : Nat) : Option (List α) :=
  if index < items.length then some (items.eraseIdx index) else none

/-- The list with one entry in the place of those numbered `first` to `last`, which have to be in
range. -/
def splice? (items : List α) (first last : Nat) (item : α) : Option (List α) :=
  if first ≤ last ∧ last < items.length then
    some (items.take first ++ item :: items.drop (last + 1))
  else none

/-- The first of some numbers whose entry is as asked. Each entry that is looked at has to be
there. -/
def find? (holds : α → Bool) (items : List α) : List Nat → Option (Option Nat)
  | [] => some none
  | index :: rest => do
    let item ← items[index]?
    if holds item then return some index else find? holds items rest

/-- A search from a number to the end of a list looks at no entry that is not there. -/
theorem find?_range' (holds : α → Bool) (items : List α) (start : Nat) :
    find? holds items (List.range' start (items.length - start)) =
      some (((items.drop start).findIdx? holds).map (start + ·)) := by
  generalize size : items.length - start = count
  induction count generalizing start with
  | zero =>
    rw [List.drop_eq_nil_of_le (by omega)]
    rfl
  | succ count ih =>
    have inside : start < items.length := by omega
    have later := ih (start + 1) (by omega)
    rw [List.range'_succ, find?, later, List.drop_eq_getElem_cons inside,
      List.getElem?_eq_getElem inside, List.findIdx?_cons]
    by_cases found : holds items[start] = true
    · simp [found]
    · simp only [Option.bind_eq_bind, Option.bind_some, if_neg found, Option.map_map]
      congr 2
      funext index
      simp only [Function.comp_apply]
      omega

end Checked

namespace Patcher

variable (patcher : Patcher)

/-- Finds the next call site as the patcher does, with every number checked. -/
def nextChecked (code : List Instruction) (start : Nat) :
    Option (Option (Nat × List Instruction)) := do
  let numbers := List.range' start (code.length - start)
  match ← Checked.find? (·.isGetterCall patcher.getter patcher.resolver) code numbers with
  | none => return none
  | some 0 => return some (0, code)
  | some (before + 1) =>
    let previous ← code[before]?
    let call ← code[before + 1]?
    if previous.forwardsTo call.offset then
      let shorter ← Checked.erase? code before
      return some (before, shorter)
    else return some (before + 1, code)

/-- Replaces a call site as the patcher does, with every number checked. -/
def replaceChecked (code : List Instruction) (index : Nat) :
    Sharing (Option (Except Error (ConstantKind × List Instruction))) :=
  match patcher.callSite code index with
  | .error error => return some (.error error)
  | .ok site => do
    match ← patcher.decode site with
    | .error error => return some (.error error)
    | .ok (kind, replacement) =>
      match index with
      | 0 => return none
      | before + 1 =>
        return (Checked.splice? code before (before + 1) replacement).map fun code =>
          .ok (kind, code)

/-- The loop of the patcher with every number checked. There is nothing if one is out of range, and
nothing if the rounds do not suffice. -/
def patchChecked (method : Method) (report : PatchReport) :
    Nat → List Instruction → Nat → Sharing (Option (PatchReport × List Instruction))
  | 0, _, _ => return none
  | rounds + 1, code, start =>
    match patcher.nextChecked code start with
    | none => return none
    | some none => return some (report, code)
    | some (some (index, code)) => do
      match ← patcher.replaceChecked code index with
      | none => return none
      | some (.ok (kind, code)) => patchChecked method (report.record kind) rounds code index
      | some (.error error) =>
        return code[index]?.map fun call => (report.fail method call.offset error, code)

variable {patcher} {code shorter : List Instruction} {start index : Nat}

/-- A getter call that is found is there. -/
theorem lt_of_getterCallFrom? (found : getterCallFrom? patcher.getter patcher.resolver code start =
    some index) : start ≤ index ∧ index < code.length := by
  obtain ⟨steps, place, rfl⟩ := Option.map_eq_some_iff.1 found
  have inside := (List.findIdx?_eq_some_iff_findIdx_eq.1 place).1
  rw [List.length_drop] at inside
  omega

/-- The search for the next call site refuses nothing. -/
theorem nextChecked_eq (code : List Instruction) (start : Nat) :
    patcher.nextChecked code start = some (patcher.nextCallSite code start) := by
  have search := Checked.find?_range' (·.isGetterCall patcher.getter patcher.resolver) code start
  rw [← getterCallFrom?] at search
  rw [nextChecked, nextCallSite, ConstantRecovery.nextCallSite, search]
  cases found : getterCallFrom? patcher.getter patcher.resolver code start with
  | none => rfl
  | some index =>
    obtain ⟨-, inside⟩ := lt_of_getterCallFrom? found
    cases index with
    | zero => rfl
    | succ before =>
      have front : before < code.length := by omega
      have forwards : forwardedInto code (before + 1) =
          code[before].forwardsTo code[before + 1].offset := by
        simp only [forwardedInto, List.getElem?_eq_getElem inside, List.getElem?_eq_getElem front]
      simp only [Option.bind_eq_bind, Option.bind_some, Option.map_some, forwards, Checked.erase?,
        List.getElem?_eq_getElem inside, List.getElem?_eq_getElem front, if_pos front,
        Nat.add_sub_cancel]
      split <;> rfl

/-- The call site that comes next is there, and no more is behind it than was behind the number
that the search started from. -/
theorem lt_of_nextCallSite (found : patcher.nextCallSite code start = some (index, shorter)) :
    index < shorter.length ∧ shorter.length - index ≤ code.length - start := by
  obtain ⟨place, calls, same⟩ := Option.map_eq_some_iff.1 found
  obtain ⟨behind, inside⟩ := lt_of_getterCallFrom? calls
  split at same
  · rename_i forwards
    obtain ⟨rfl, rfl⟩ := Prod.mk.inj same
    cases place with
    | zero => cases forwards
    | succ before =>
      rw [Nat.add_sub_cancel, List.length_eraseIdx_of_lt (by omega)]
      omega
  · obtain ⟨rfl, rfl⟩ := Prod.mk.inj same
    omega

/-- A call site that is there is replaced with every number in range. -/
theorem run_replaceChecked (patcher : Patcher) (sharing : Option Interner)
    (inside : index < code.length) :
    (patcher.replaceChecked code index).run sharing =
      (some ((patcher.replace code index).run sharing).1,
        ((patcher.replace code index).run sharing).2) := by
  unfold replaceChecked replace
  cases read : patcher.callSite code index with
  | error error => rfl
  | ok site =>
    simp only [StateT.run_bind]
    cases (patcher.decode site).run sharing with
    | mk result after =>
      cases result with
      | error error => rfl
      | ok pair =>
        cases index with
        | zero =>
          -- A call in front of everything has no literal, so it is not read.
          rw [callSite, readCallSite, List.getElem?_eq_getElem inside] at read
          cases read
        | succ before =>
          have range : before ≤ before + 1 ∧ before + 1 < code.length := ⟨by omega, inside⟩
          show (Option.map _ (Checked.splice? code before (before + 1) pair.2), after) = _
          rw [Checked.splice?, if_pos range]
          rfl

/-- A replacement leaves one instruction less. -/
theorem length_of_run_replace {sharing : Option Interner} {kind : ConstantKind}
    (inside : index < code.length)
    (done : ((patcher.replace code index).run sharing).1 = .ok (kind, shorter)) :
    shorter.length + 1 = code.length := by
  have here := List.getElem?_eq_getElem inside
  have split := split_at_position here
  have size : (code.take index).length = index := by
    rw [List.length_take]
    omega
  generalize code.take index = front at split size
  generalize code.drop (index + 1) = rest at split
  generalize code[index] = call at split
  subst split
  rw [← size, patcher.run_replace] at done
  cases collapsed : patcher.collapse front call with
  | error error =>
    rw [collapsed] at done
    cases done
  | ok pair =>
    obtain ⟨before, literal, -, shape, -⟩ := patcher.exists_constant_of_collapse collapsed
    rw [collapsed, shape, List.dropLast_concat] at done
    cases done
    simp only [shape, List.length_append, List.length_cons, List.length_nil]
    omega

/-- The loop never reaches for a number that is out of range, and a round for each instruction
behind the start, and one more, are enough. The induction is on the rounds. -/
theorem run_patchChecked (patcher : Patcher) (sharing : Option Interner) (method : Method)
    (report : PatchReport) {rounds : Nat} (enough : code.length - start < rounds) :
    (patcher.patchChecked method report rounds code start).run sharing =
      (some ((patcher.patchFrom method report rounds code start).run sharing).1,
        ((patcher.patchFrom method report rounds code start).run sharing).2) := by
  induction rounds generalizing sharing report code start with
  | zero => omega
  | succ rounds ih =>
    rw [patchChecked, patchFrom, nextChecked_eq]
    cases found : patcher.nextCallSite code start with
    | none => rfl
    | some next =>
      obtain ⟨index, shorter⟩ := next
      obtain ⟨inside, fewer⟩ := lt_of_nextCallSite found
      have checked := patcher.run_replaceChecked sharing inside
      simp only [StateT.run_bind]
      rw [checked]
      cases outcome : (patcher.replace shorter index).run sharing with
      | mk result after =>
        cases result with
        | error error =>
          simp only [List.getElem?_eq_getElem inside]
          rfl
        | ok pair =>
          obtain ⟨kind, left⟩ := pair
          have removed := length_of_run_replace inside (congrArg Prod.fst outcome)
          exact ih after (report.record kind) (by omega)

end Patcher

end ConstantRecovery
