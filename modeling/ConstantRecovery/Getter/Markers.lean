import ConstantRecovery.Getter.Kind
import ConstantRecovery.Code.Instruction
import ConstantRecovery.Metadata.Members

/-!
# Markers

A decode path gives itself away by one instruction: the number path allocates an
array, the object path loads a token, the string path asks for the UTF-8 encoding.
A block belongs to the path of its first marker.
-/

namespace ConstantRecovery

/-- The first list occurs in the second without gaps. -/
def occursIn (needle : List Char) : List Char → Bool
  | [] => needle.isEmpty
  | first :: rest => needle.isPrefixOf (first :: rest) || occursIn needle rest

/-- Occurring is splitting into a front, the list itself and a back. -/
theorem occursIn_iff (needle text : List Char) :
    occursIn needle text = true ↔ ∃ front back, text = front ++ needle ++ back := by
  induction text with
  | nil =>
    simp only [occursIn, List.isEmpty_iff]
    constructor
    · rintro rfl
      exact ⟨[], [], rfl⟩
    · rintro ⟨front, back, split⟩
      simp at split
      exact split.2.1
  | cons first rest ih =>
    simp only [occursIn, Bool.or_eq_true, ih, List.isPrefixOf_iff_prefix]
    constructor
    · rintro (⟨back, here⟩ | ⟨front, back, later⟩)
      · exact ⟨[], back, by simpa using here.symm⟩
      · exact ⟨first :: front, back, by simp [later]⟩
    · rintro ⟨front, back, split⟩
      cases front with
      | nil => exact .inl ⟨back, by simpa using split.symm⟩
      | cons head front =>
        simp only [List.cons_append, List.cons.injEq] at split
        exact .inr ⟨front, back, split.2⟩

namespace Instruction

/-- It calls a member whose full name contains the given text. -/
def calls (instruction : Instruction) (resolver : Resolver) (member : String) : Bool :=
  instruction.isPlain Opcode.Code.call &&
    ((instruction.token?.bind resolver.memberName).any fun name =>
      occursIn member.toList name.toList)

/-- It allocates an array: the marker of the number path. -/
def isArrayAllocation (instruction : Instruction) : Bool :=
  instruction.isPlain Opcode.Code.newarr

/-- It loads a token: the marker of the object path. -/
def isTokenLoad (instruction : Instruction) : Bool :=
  instruction.isPlain Opcode.Code.ldtoken

/-- It asks for the UTF-8 encoding: the marker of the string path. -/
def isUtf8Access (instruction : Instruction) (resolver : Resolver) : Bool :=
  instruction.calls resolver "get_UTF8"

/-- It asks for the assembly in execution, as a getter that checks its caller does first. -/
def isModuleLookup (instruction : Instruction) (resolver : Resolver) : Bool :=
  instruction.calls resolver "GetExecutingAssembly"

/-- The path that an instruction marks. -/
def marks? (resolver : Resolver) (instruction : Instruction) : Option ConstantKind :=
  if instruction.isArrayAllocation then some .number
  else if instruction.isTokenLoad then some .object
  else if instruction.isUtf8Access resolver then some .string
  else none

end Instruction

/-- The path that a run of instructions belongs to. -/
def classify? (resolver : Resolver) (code : List Instruction) : Option ConstantKind :=
  code.findSome? (·.marks? resolver)

end ConstantRecovery
