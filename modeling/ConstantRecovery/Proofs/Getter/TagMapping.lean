import ConstantRecovery.Getter.TagMapping

/-!
# Tags and kinds

In a valid mapping each claimed kind has one tag, so looking a kind up and selecting by
a tag undo each other there, and exactly one tag is left for the default.
-/

namespace ConstantRecovery

namespace TagMapping

variable {mapping : TagMapping} {kind : ConstantKind}

/-- A tag looked up for a kind selects that kind. -/
theorem kind_of_tagOf? {tag : UInt32} (found : mapping.tagOf? kind = some tag) :
    mapping.kind tag = kind := by
  obtain ⟨position, first, rfl⟩ := Option.map_eq_some_iff.1 found
  obtain ⟨inside, hit, -⟩ := List.idxOf?_eq_some_iff.1 first
  have four : position < 4 := by
    rwa [Vector.length_toList] at inside
  have same : (UInt32.ofNat position).toNat % 4 = position := by
    rw [UInt32.toNat_ofNat_of_lt' (Nat.lt_trans four (by decide))]
    exact Nat.mod_eq_of_lt four
  simp only [TagMapping.kind, same]
  rw [← hit]
  rfl

/-- The kind of a tag stands at its place. -/
theorem getElem?_kinds {tag : Nat} (four : tag < 4) :
    mapping.kinds.toList[tag]? = some (mapping.kind (UInt32.ofNat tag)) := by
  have same : (UInt32.ofNat tag).toNat % 4 = tag := by
    rw [UInt32.toNat_ofNat_of_lt' (Nat.lt_trans four (by decide))]
    exact Nat.mod_eq_of_lt four
  have inside : tag < mapping.kinds.toList.length := by
    rwa [Vector.length_toList]
  rw [List.getElem?_eq_getElem inside, kind]
  simp only [same]
  rfl

/-- Each claimed kind is selected by a tag. -/
theorem exists_kind (mapping : TagMapping) (claimed : kind ∈ ConstantKind.claimed) :
    ∃ tag < 4, mapping.kind tag = kind := by
  have once := mapping.claimed_once kind claimed
  have member : kind ∈ mapping.kinds.toList := List.count_pos_iff.1 (by omega)
  obtain ⟨position, here⟩ := List.mem_iff_getElem?.1 member
  have four : position < 4 := by
    have inside := (List.getElem?_eq_some_iff.1 here).1
    rwa [Vector.length_toList] at inside
  rw [getElem?_kinds four] at here
  refine ⟨UInt32.ofNat position, ?_, Option.some.inj here⟩
  rw [UInt32.lt_iff_toNat_lt, UInt32.toNat_ofNat_of_lt' (Nat.lt_trans four (by decide))]
  exact four

/-- Selecting a claimed kind, a tag is the one looked up for it. -/
theorem tagOf?_of_kind {tag : Nat} (four : tag < 4)
    (claimed : mapping.kind (UInt32.ofNat tag) ∈ ConstantKind.claimed) :
    mapping.tagOf? (mapping.kind (UInt32.ofNat tag)) = some (UInt32.ofNat tag) := by
  have here := @getElem?_kinds mapping tag four
  have once := mapping.claimed_once _ claimed
  generalize mapping.kind (UInt32.ofNat tag) = kind at here once ⊢
  obtain ⟨inside, hit⟩ := List.getElem?_eq_some_iff.1 here
  have absent : kind ∉ mapping.kinds.toList.take tag := by
    intro member
    have front := List.count_pos_iff.2 member
    have split := congrArg (List.count kind) (List.take_append_drop tag mapping.kinds.toList)
    rw [List.count_append, List.drop_eq_getElem_cons inside, hit, List.count_cons_self] at split
    omega
  have first : mapping.kinds.toList.idxOf? kind = some tag := by
    refine List.idxOf?_eq_some_iff.2 ⟨inside, hit, fun other before => ?_⟩
    intro equal
    exact absent (List.mem_take_iff_getElem.2 ⟨other, by omega, equal⟩)
  rw [tagOf?, first]
  rfl

/-- A list of kinds is counted kind by kind. -/
theorem length_eq_counts (kinds : List ConstantKind) :
    kinds.length =
      kinds.count .number + kinds.count .object + kinds.count .string + kinds.count .default := by
  induction kinds with
  | nil => rfl
  | cons kind rest ih =>
    rw [List.length_cons, ih]
    cases kind <;> simp <;> omega

/-- One tag is left for the default. -/
theorem exists_default (mapping : TagMapping) :
    ∃ tag < 4, mapping.kind (UInt32.ofNat tag) = .default := by
  have length := length_eq_counts mapping.kinds.toList
  have number := mapping.claimed_once .number (by decide)
  have object := mapping.claimed_once .object (by decide)
  have string := mapping.claimed_once .string (by decide)
  rw [number, object, string, Vector.length_toList] at length
  have member : ConstantKind.default ∈ mapping.kinds.toList := List.count_pos_iff.1 (by omega)
  obtain ⟨tag, here⟩ := List.mem_iff_getElem?.1 member
  have four : tag < 4 := by
    have inside := (List.getElem?_eq_some_iff.1 here).1
    rwa [Vector.length_toList] at inside
  rw [getElem?_kinds four] at here
  exact ⟨tag, four, Option.some.inj here⟩

/-- The kinds of a valid mapping make that mapping. -/
theorem ofKinds_kinds (mapping : TagMapping) : ofKinds mapping.kinds = .ok mapping := by
  have none : ConstantKind.claimed.find? (mapping.kinds.toList.count · ≠ 1) = none := by
    rw [List.find?_eq_none]
    intro kind claimed
    simpa using mapping.claimed_once kind claimed
  unfold ofKinds
  split
  · rename_i found
    rw [none] at found
    cases found
  · rfl

/-- A mapping that is made of kinds has these. -/
theorem kinds_of_ofKinds {kinds : Vector ConstantKind 4} (valid : ofKinds kinds = .ok mapping) :
    mapping.kinds = kinds := by
  unfold ofKinds at valid
  split at valid
  · cases valid
  · cases valid
    rfl

/-- The four tags list the kinds of a mapping. -/
theorem kinds_eq (mapping : TagMapping) :
    #v[mapping.kind 0, mapping.kind 1, mapping.kind 2, mapping.kind 3] = mapping.kinds := by
  refine Vector.ext fun tag inside => ?_
  match tag, inside with
  | 0, _ | 1, _ | 2, _ | 3, _ => rfl

end TagMapping

end ConstantRecovery
