import ConstantRecovery.Error

/-!
# Tags

The top two bits of a decoded id choose the decode path. A mapping says which path
each of the four tags selects. A valid one selects the number, object and string
paths exactly once each; what is left selects the default path.
-/

namespace ConstantRecovery

/-- The kinds that exactly one tag has to select, in the order in which they are checked. -/
def ConstantKind.claimed : List ConstantKind := [.number, .object, .string]

/-- Which decode path each tag selects. -/
structure TagMapping where
  /-- The kinds of tags 0 to 3. -/
  kinds : Vector ConstantKind 4
  /-- Every kind but the default is selected once. -/
  claimed_once : ∀ kind ∈ ConstantKind.claimed, kinds.toList.count kind = 1
deriving DecidableEq

namespace TagMapping

/-- The mapping with the given kinds, or the first kind that is not selected exactly once. -/
def ofKinds (kinds : Vector ConstantKind 4) : Except GetterDefect TagMapping :=
  match checked : ConstantKind.claimed.find? (kinds.toList.count · ≠ 1) with
  | some kind => .error (.claims kind (kinds.toList.count kind))
  | none => .ok ⟨kinds, by simpa using checked⟩

/-- The kind a tag selects; only its two low bits count. -/
def kind (mapping : TagMapping) (tag : UInt32) : ConstantKind :=
  mapping.kinds.get ⟨tag.toNat % 4, Nat.mod_lt _ (by decide)⟩

/-- The first tag that selects a kind. -/
def tagOf? (mapping : TagMapping) (kind : ConstantKind) : Option UInt32 :=
  (mapping.kinds.toList.idxOf? kind).map UInt32.ofNat

/-- The tags with their kinds, in order. -/
def pairs (mapping : TagMapping) : List (Nat × ConstantKind) :=
  mapping.kinds.toList.zipIdx.map fun (kind, tag) => (tag, kind)

/-- A mapping as it is listed. -/
def text (mapping : TagMapping) : String :=
  ", ".intercalate (mapping.pairs.map fun (tag, kind) => toString tag ++ "=" ++ kind.name)

end TagMapping

end ConstantRecovery
