import ConstantRecovery.Interner
import Mathlib.Data.List.Dedup
import Mathlib.Logic.Relation

/-!
# Workers that share an interner

A call of the interner looks for its text, and only where that misses it offers an
allocation. Other workers may take any number of steps in between, so that several of them
offer allocations of one text. The interner keeps the first: every call is handed the one
allocation that its text has then and ever after.
-/

namespace ConstantRecovery

namespace Interner

variable {interner : Interner} {text : String} {allocation fresh : Allocation}

/-- What is found is stored. -/
theorem mem_of_find? (found : interner.find? text = some allocation) :
    allocation ∈ interner.stored :=
  List.mem_of_find?_eq_some found

/-- A text is missed if it is the text of nothing stored. -/
theorem find?_eq_none_iff :
    interner.find? text = none ↔ text ∉ interner.stored.map (·.text) := by
  simp [find?]

/-- An offer of a text that is found changes nothing. -/
theorem offer_of_find? (found : interner.find? fresh.text = some allocation) :
    interner.offer fresh = (allocation, interner) := by
  rw [offer, found]

/-- An offer of a text that is missed is stored behind the others. -/
theorem offer_of_missing (missing : interner.find? fresh.text = none) :
    interner.offer fresh = (fresh, ⟨interner.stored ++ [fresh]⟩) := by
  rw [offer, missing]

/-- What is found is found again, whatever is offered. -/
theorem find?_offer_of_find? (found : interner.find? text = some allocation)
    (fresh : Allocation) : (interner.offer fresh).2.find? text = some allocation := by
  cases known : interner.find? fresh.text with
  | some other => rwa [offer_of_find? known]
  | none =>
    rw [find?] at found
    rw [offer_of_missing known, find?, List.find?_append, found]
    rfl

/-- Each text has one allocation, and each allocation a number of its own. -/
structure Distinct (interner : Interner) : Prop where
  /-- No text is stored twice. -/
  texts : (interner.stored.map (·.text)).Nodup
  /-- No number is used twice. -/
  numbers : (interner.stored.map (·.number)).Nodup

/-- What is stored is found. -/
theorem Distinct.find?_of_mem (distinct : interner.Distinct)
    (member : allocation ∈ interner.stored) :
    interner.find? allocation.text = some allocation := by
  cases found : interner.find? allocation.text with
  | none => exact absurd (List.mem_map_of_mem member) (find?_eq_none_iff.1 found)
  | some other =>
    rw [List.inj_on_of_nodup_map distinct.texts (mem_of_find? found) member (text_of_find? found)]

/-- Two stored allocations are the same when their texts are. -/
theorem Distinct.number_eq_iff (distinct : interner.Distinct) {other : Allocation}
    (member : allocation ∈ interner.stored) (otherMember : other ∈ interner.stored) :
    allocation.number = other.number ↔ allocation.text = other.text := by
  constructor
  · intro same
    rw [List.inj_on_of_nodup_map distinct.numbers member otherMember same]
  · intro same
    rw [List.inj_on_of_nodup_map distinct.texts member otherMember same]

/-- An offer of an unused allocation keeps texts and numbers apart. -/
theorem Distinct.offer (distinct : interner.Distinct)
    (unused : ∀ stored ∈ interner.stored, stored.number ≠ fresh.number) :
    (interner.offer fresh).2.Distinct := by
  cases known : interner.find? fresh.text with
  | some other => rwa [offer_of_find? known]
  | none =>
    have number : fresh.number ∉ interner.stored.map (·.number) := by
      simpa using unused
    rw [offer_of_missing known]
    constructor
    · rw [List.map_append, List.map_singleton, ← List.concat_eq_append]
      exact distinct.texts.concat (find?_eq_none_iff.1 known)
    · rw [List.map_append, List.map_singleton, ← List.concat_eq_append]
      exact distinct.numbers.concat number

/-- After an offer the stored texts are those from before and the one that was offered. -/
theorem mem_texts_offer (interner : Interner) (fresh : Allocation) (text : String) :
    text ∈ (interner.offer fresh).2.stored.map (·.text) ↔
      text ∈ interner.stored.map (·.text) ∨ text = fresh.text := by
  cases known : interner.find? fresh.text with
  | some other =>
    have old : fresh.text ∈ interner.stored.map (·.text) := by
      rw [← text_of_find? known]
      exact List.mem_map_of_mem (mem_of_find? known)
    rw [offer_of_find? known]
    exact ⟨.inl, fun member => member.elim id fun same => same ▸ old⟩
  | none => rw [offer_of_missing known, List.map_append, List.mem_append, List.map_singleton,
      List.mem_singleton]

/-- The calls of any number of workers that share an interner. -/
structure Session where
  /-- What they share. -/
  interner : Interner
  /-- The text that a worker has missed and not yet offered. -/
  waiting : Nat → Option String
  /-- Every text that was asked for with the allocation that was handed out, in order. -/
  answers : List (String × Allocation)
  /-- The texts that were offered, in order. -/
  offered : List String

namespace Session

/-- Nothing stored, and nobody in a call. -/
def start : Session :=
  { interner := .empty, waiting := fun _ => none, answers := [], offered := [] }

/-- A worker begins a call: it returns with what it finds, or waits to offer. -/
def look (session : Session) (worker : Nat) (text : String) : Session :=
  match session.interner.find? text with
  | some allocation => { session with answers := session.answers ++ [(text, allocation)] }
  | none => { session with waiting := Function.update session.waiting worker (some text) }

/-- A worker that waits offers an allocation, and returns with what it is handed out. -/
def offer (session : Session) (worker : Nat) (fresh : Allocation) : Session :=
  { interner := (session.interner.offer fresh).2
    waiting := Function.update session.waiting worker none
    answers := session.answers ++ [(fresh.text, (session.interner.offer fresh).1)]
    offered := session.offered ++ [fresh.text] }

/-- One of the two steps of a call, taken by any worker. What is offered is a new allocation: its
number is that of nothing stored. -/
inductive Step : Session → Session → Prop
  | look {session : Session} (worker : Nat) (text : String)
      (idle : session.waiting worker = none) : Step session (session.look worker text)
  | offer {session : Session} (worker : Nat) (fresh : Allocation)
      (waits : session.waiting worker = some fresh.text)
      (unused : ∀ stored ∈ session.interner.stored, stored.number ≠ fresh.number) :
      Step session (session.offer worker fresh)

/-- What holds between any two steps. -/
structure Sound (session : Session) : Prop where
  /-- Stored allocations are told apart by text and by number. -/
  distinct : session.interner.Distinct
  /-- Every call was handed a stored allocation of its text. -/
  answered : ∀ answer ∈ session.answers,
    answer.2 ∈ session.interner.stored ∧ answer.2.text = answer.1
  /-- The stored texts are those that were offered. -/
  offered : ∀ text, text ∈ session.interner.stored.map (·.text) ↔ text ∈ session.offered

/-- At the start nothing is stored and nobody was answered. -/
theorem sound_start : start.Sound where
  distinct := ⟨List.nodup_nil, List.nodup_nil⟩
  answered := nofun
  offered _ := Iff.rfl

/-- What a step finds it leaves to be found. -/
theorem Step.find? {session next : Session} (step : Step session next) {text : String}
    {allocation : Allocation} (found : session.interner.find? text = some allocation) :
    next.interner.find? text = some allocation := by
  cases step with
  | look worker asked =>
    unfold Session.look
    split <;> exact found
  | offer worker fresh => exact find?_offer_of_find? found fresh

/-- A step keeps what holds between steps, whichever worker takes it. -/
theorem Step.sound {session next : Session} (step : Step session next) (sound : session.Sound) :
    next.Sound := by
  obtain ⟨distinct, answered, offered⟩ := sound
  cases step with
  | look worker text =>
    unfold Session.look
    cases found : session.interner.find? text with
    | none => exact ⟨distinct, answered, offered⟩
    | some allocation =>
      refine ⟨distinct, fun answer member => ?_, offered⟩
      rcases List.mem_append.1 member with before | now
      · exact answered answer before
      · rw [List.mem_singleton.1 now]
        exact ⟨mem_of_find? found, text_of_find? found⟩
  | offer worker fresh waits unused =>
    refine ⟨distinct.offer unused, fun answer member => ?_, fun text => ?_⟩
    · rcases List.mem_append.1 member with before | now
      · obtain ⟨stored, same⟩ := answered answer before
        exact ⟨mem_of_find? (find?_offer_of_find? (distinct.find?_of_mem stored) fresh), same⟩
      · rw [List.mem_singleton.1 now]
        exact ⟨mem_of_find? (find?_offer session.interner fresh), text_offer session.interner fresh⟩
    · show _ ∈ (session.interner.offer fresh).2.stored.map (·.text) ↔
        text ∈ session.offered ++ [fresh.text]
      rw [mem_texts_offer, offered, List.mem_append, List.mem_singleton]

/-- What holds between steps holds after any number of them. -/
theorem sound_of_reached {session : Session} (reached : Relation.ReflTransGen Step start session) :
    session.Sound := by
  induction reached with
  | refl => exact sound_start
  | tail _ step sound => exact step.sound sound

/-- What is found once is found ever after. -/
theorem find?_of_reached {session later : Session}
    (goesOn : Relation.ReflTransGen Step session later) {text : String} {allocation : Allocation}
    (found : session.interner.find? text = some allocation) :
    later.interner.find? text = some allocation := by
  induction goesOn with
  | refl => exact found
  | tail _ step again => exact step.find? again

/-- One allocation for each text, however the workers take turns. Every call is handed an
allocation of the text it asked for, two calls are handed the same one exactly when their texts
are equal, what is stored stays the allocation of its text, and there are as many as distinct
texts have been offered. -/
theorem one_allocation_each {session later : Session}
    (reached : Relation.ReflTransGen Step start session)
    (goesOn : Relation.ReflTransGen Step session later) :
    (∀ answer ∈ session.answers, answer.2.text = answer.1) ∧
    (∀ answer ∈ session.answers, ∀ other ∈ session.answers,
      answer.2.number = other.2.number ↔ answer.2.text = other.2.text) ∧
    (∀ allocation ∈ session.interner.stored,
      later.interner.find? allocation.text = some allocation) ∧
    session.interner.size = session.offered.dedup.length := by
  obtain ⟨distinct, answered, offered⟩ := sound_of_reached reached
  refine ⟨fun answer member => (answered answer member).2, ?_, ?_, ?_⟩
  · intro answer member other otherMember
    exact distinct.number_eq_iff (answered answer member).1 (answered other otherMember).1
  · intro allocation member
    exact find?_of_reached goesOn (distinct.find?_of_mem member)
  · have same : (session.interner.stored.map (·.text)).Perm session.offered.dedup := by
      rw [List.perm_ext_iff_of_nodup distinct.texts session.offered.nodup_dedup]
      intro text
      rw [offered, List.mem_dedup]
    rw [size, ← same.length_eq, List.length_map]

/-- Two workers miss one text and both offer an allocation of it. The second offer is dropped, and
a third worker may use its number for another text; a later call finds what was stored first. -/
theorem one_allocation_each_of_race :
    let first := ((start.look 0 "a").look 1 "a").offer 1 ⟨7, "a"⟩
    let last := (((first.look 2 "b").offer 0 ⟨8, "a"⟩).offer 2 ⟨8, "b"⟩).look 1 "a"
    Relation.ReflTransGen Step start first ∧ Relation.ReflTransGen Step first last ∧
      last.answers = [("a", ⟨7, "a"⟩), ("a", ⟨7, "a"⟩), ("b", ⟨8, "b"⟩), ("a", ⟨7, "a"⟩)] ∧
      (∀ answer ∈ last.answers, ∀ other ∈ last.answers,
        answer.2.number = other.2.number ↔ answer.2.text = other.2.text) ∧
      last.interner.find? "a" = some ⟨7, "a"⟩ ∧ last.interner.size = 2 := by
  intro first last
  have begins : Relation.ReflTransGen Step start first :=
    ((Relation.ReflTransGen.refl.tail (.look 0 "a" rfl)).tail (.look 1 "a" rfl)).tail
      (.offer 1 ⟨7, "a"⟩ rfl (by decide))
  have ends : Relation.ReflTransGen Step first last :=
    (((Relation.ReflTransGen.refl.tail (.look 2 "b" rfl)).tail
      (.offer 0 ⟨8, "a"⟩ rfl (by decide))).tail (.offer 2 ⟨8, "b"⟩ rfl (by decide))).tail
        (.look 1 "a" rfl)
  obtain ⟨-, -, stays, -⟩ := one_allocation_each begins ends
  obtain ⟨-, same, -, count⟩ := one_allocation_each (begins.trans ends) .refl
  refine ⟨begins, ends, by decide, same, stays ⟨7, "a"⟩ (by decide), ?_⟩
  rw [count]
  decide

end Session

end Interner

end ConstantRecovery
