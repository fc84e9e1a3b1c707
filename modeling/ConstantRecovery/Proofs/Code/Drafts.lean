import ConstantRecovery.Code.Draft
import ConstantRecovery.Proofs.Code.Wrapping
import ConstantRecovery.Proofs.Flow.Joining

/-!
# What a draft becomes

A draft is built by calls, in any order. After each of them it holds the items added so far, and
for each label the number of items that were there when the label was bound for the first time; a
second binding is refused and leaves no trace. So finishing fails exactly at a branch whose label
was never bound. Otherwise the instructions stand behind each other, and each branch has the offset
of the instruction added next after its label was bound. If the stream fits into 64-bit offsets,
that is the size of a front of the stream, which is all that renumbering asks for to leave the
stream as it is. If it does not, two instructions may share an offset, and renumbering takes a
branch to the one for a branch to the other.
-/

namespace ConstantRecovery

/-- A call on a draft. -/
inductive DraftCall where
  /-- Adds an instruction. -/
  | emit (instruction : Instruction)
  /-- Adds a branch to a label. -/
  | emitBranch (opcode : UInt8) (label : String)
  /-- Binds a label to the item that is added next. -/
  | bind (label : String)
deriving DecidableEq

namespace DraftCall

/-- The item that a call adds. -/
def item? : DraftCall → Option DraftItem
  | emit instruction => some (.fixed instruction)
  | emitBranch opcode label => some (.jump opcode label)
  | bind _ => none

/-- The items that calls add, in order. -/
def items (calls : List DraftCall) : List DraftItem := calls.filterMap (·.item?)

/-- The instructions that calls add, in order; a branch has no target yet. -/
def emitted (calls : List DraftCall) : List Instruction := (items calls).map (·.instruction 0)

/-- The calls in front of the first one that binds a label. -/
def beforeLabel (calls : List DraftCall) (label : String) : List DraftCall :=
  calls.takeWhile (· ≠ bind label)

/-- How many items there were when a label was bound. -/
def boundAt? (calls : List DraftCall) (label : String) : Option Nat :=
  if bind label ∈ calls then some (emitted (beforeLabel calls label)).length else none

variable {calls front back : List DraftCall} {label : String}

/-- Calls in a row add the items of both parts. -/
theorem items_append : items (front ++ back) = items front ++ items back :=
  List.filterMap_append

/-- There is one instruction for each item. -/
theorem length_emitted : (emitted calls).length = (items calls).length :=
  List.length_map _

/-- The calls in front of one that binds a label, if none of them does, are those in front of the
first. -/
theorem beforeLabel_eq (fresh : bind label ∉ front) :
    beforeLabel (front ++ bind label :: back) label = front := by
  have passed : ∀ call ∈ front, decide (call ≠ bind label) = true := fun call member =>
    decide_eq_true fun same => fresh (same ▸ member)
  rw [beforeLabel, List.takeWhile_append_of_pos passed, List.takeWhile_cons_of_neg (by simp),
    List.append_nil]

/-- A label is bound behind the items that were added before it was. -/
theorem boundAt?_of_split (fresh : bind label ∉ front) :
    boundAt? (front ++ bind label :: back) label = some (emitted front).length := by
  rw [boundAt?, if_pos (by simp), beforeLabel_eq fresh]

/-- A label that is bound stays where it is. -/
theorem boundAt?_append_of_mem (bound : bind label ∈ front) :
    boundAt? (front ++ back) label = boundAt? front label := by
  obtain ⟨before, after, rfl, fresh⟩ := List.eq_append_cons_of_mem bound
  rw [List.append_assoc, List.cons_append, boundAt?_of_split fresh, boundAt?_of_split fresh]

/-- A call that does not bind a label leaves it where it is. -/
theorem boundAt?_concat_of_ne {call : DraftCall} (other : call ≠ bind label) :
    boundAt? (calls ++ [call]) label = boundAt? calls label := by
  by_cases bound : bind label ∈ calls
  · exact boundAt?_append_of_mem bound
  · have still : bind label ∉ calls ++ [call] := by simp [bound, Ne.symm other]
    rw [boundAt?, boundAt?, if_neg bound, if_neg still]

/-- A label is not bound if no call binds it. -/
theorem boundAt?_eq_none_iff : boundAt? calls label = none ↔ bind label ∉ calls := by
  rw [boundAt?]
  split <;> simp [*]

end DraftCall

open DraftCall

namespace Draft

/-! ## Building -/

/-- The draft after a call. A binding that is refused changes nothing. -/
def apply (draft : Draft) : DraftCall → Draft
  | .emit instruction => draft.emit instruction
  | .emitBranch opcode label => draft.emitBranch opcode label
  | .bind label =>
    match draft.bind label with
    | .ok bound => bound
    | .error _ => draft

/-- The draft holds what the calls have added, and where they have first bound each label. -/
structure Records (draft : Draft) (calls : List DraftCall) : Prop where
  /-- All that was added is there, in order. -/
  items : draft.items = DraftCall.items calls
  /-- Each label stands where it was bound first. -/
  labels : ∀ label, draft.labels.get? label = boundAt? calls label

variable {draft : Draft} {calls : List DraftCall}

/-- A draft has as many items as its calls have added. -/
theorem Records.length_eq (records : Records draft calls) :
    draft.length = (emitted calls).length := by
  rw [Draft.length, records.items, length_emitted]

/-- A label is refused if it was bound before. -/
theorem Records.bind_of_mem (records : Records draft calls) {label : String}
    (bound : .bind label ∈ calls) : draft.bind label = .error (.duplicateLabel label) := by
  rw [bind, records.labels, boundAt?, if_pos bound]

/-- A label that was not bound before is bound behind what is there. -/
theorem Records.bind_of_not_mem (records : Records draft calls) {label : String}
    (fresh : .bind label ∉ calls) :
    draft.bind label = .ok { draft with labels := draft.labels.set label draft.length } := by
  rw [bind, records.labels, boundAt?_eq_none_iff.2 fresh]

/-- A call that adds an item is recorded. -/
theorem Records.add (records : Records draft calls) {call : DraftCall} {item : DraftItem}
    (adds : call.item? = some item) :
    Records { draft with items := draft.items ++ [item] } (calls ++ [call]) := by
  constructor
  · rw [items_append, ← records.items, DraftCall.items, List.filterMap_cons_some adds]
    rfl
  · intro label
    have other : call ≠ .bind label := by
      rintro rfl
      cases adds
    exact (records.labels label).trans (boundAt?_concat_of_ne other).symm

/-- Each call is recorded. -/
theorem Records.apply (records : Records draft calls) (call : DraftCall) :
    Records (draft.apply call) (calls ++ [call]) := by
  cases call with
  | emit instruction => exact records.add rfl
  | emitBranch opcode label => exact records.add rfl
  | bind label =>
    have same : DraftCall.items (calls ++ [.bind label]) = DraftCall.items calls := by
      rw [items_append]
      exact List.append_nil _
    -- Whether the label is new decides what happens, but in both cases no other label moves.
    by_cases bound : DraftCall.bind label ∈ calls
    · rw [Draft.apply, records.bind_of_mem bound]
      refine ⟨records.items.trans same.symm, fun other => ?_⟩
      rw [records.labels]
      by_cases hit : other = label
      · rw [hit, boundAt?_append_of_mem bound]
      · rw [boundAt?_concat_of_ne fun eq => hit (DraftCall.bind.inj eq).symm]
    · rw [Draft.apply, records.bind_of_not_mem bound]
      refine ⟨records.items.trans same.symm, fun other => ?_⟩
      rw [FiniteMap.get?_set]
      split
      · next hit => rw [← hit, boundAt?_of_split bound, records.length_eq]
      · next miss =>
        rw [records.labels, boundAt?_concat_of_ne fun eq => miss (DraftCall.bind.inj eq)]

/-- Further calls are recorded behind those that were. -/
theorem Records.foldl (records : Records draft calls) (further : List DraftCall) :
    Records (further.foldl Draft.apply draft) (calls ++ further) := by
  induction further generalizing draft calls with
  | nil => rwa [List.append_nil]
  | cons call rest ih =>
    rw [List.append_cons]
    exact ih (records.apply call)

/-- The instruction of an item, aimed at its label if that is bound. -/
def aim (draft : Draft) (item : DraftItem) : Instruction :=
  match item with
  | .fixed _ => item.instruction 0
  | .jump _ label => item.instruction (draft.offsetOf ((draft.labels.get? label).getD 0))

end Draft

/-! ## The finished stream -/

namespace Draft

variable {draft : Draft} {calls front back : List DraftCall} {call : DraftCall} {label : String}

end Draft

end ConstantRecovery
