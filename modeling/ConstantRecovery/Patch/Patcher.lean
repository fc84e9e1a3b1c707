import ConstantRecovery.Blob
import ConstantRecovery.Getter.Keys
import ConstantRecovery.Getter.TagMapping
import ConstantRecovery.Interner
import ConstantRecovery.Patch.CallSite
import ConstantRecovery.Patch.Report

/-!
# Patching

The keys turn the literal of a call site into a tag and a place in the blob, the
mapping turns the tag into a kind, and kind and type argument say how to read the
constant. Literal and call then become one instruction that loads the constant, at
the offset of the literal. The first call site of a method that cannot be read ends
the work on that method; what was replaced before stays replaced. Decoded texts
may be shared through an interner, which every method of a run feeds.
-/

namespace ConstantRecovery

/-- A way to undo a control-flow protection, brought along by the host. A removal gives the
method as it leaves it, with an error if it could not finish. -/
structure Cleaner where
  /-- The method carries the protection. -/
  isPresent : Method → Bool
  /-- Removes the protection. -/
  remove : Method → Method × Option Error

/-- A decoded constant. -/
inductive Constant where
  | text (value : String)
  | int32 (value : Int32)
  /-- A single-precision bit pattern. -/
  | float32 (bits : UInt32)
  /-- A double-precision bit pattern. -/
  | float64 (bits : UInt64)
  /-- The default value of a type. -/
  | defaultOf (type : TypeSignature)
deriving DecidableEq

/-- A computation that may share texts through an interner, if there is one. -/
abbrev Sharing := StateM (Option Interner)

/-- The shared copy of a text. -/
def shareText (text : String) : Sharing String := do
  match ← get with
  | none => return text
  | some interner =>
    let (allocation, interner) := interner.intern text
    set (some interner)
    return allocation.text

namespace Constant

/-- The decode path a constant comes from. -/
def kind : Constant → ConstantKind
  | text _ => .string
  | int32 _ | float32 _ | float64 _ => .number
  | defaultOf _ => .default

/-- The instruction that loads a constant. -/
def load : Constant → Instruction
  | text value => .ldstr value
  | int32 value => .ldcI4 value
  | float32 bits => .ldcR4 bits
  | float64 bits => .ldcR8 bits
  | defaultOf type => .initobj type

/-- The constant with its text shared. -/
def share : Constant → Sharing Constant
  | text value => return text (← shareText value)
  | constant => return constant

end Constant

/-- All that is needed to replace the call sites of one getter. -/
structure Patcher where
  /-- The getter. -/
  getter : Token
  /-- What its tags select. -/
  mapping : TagMapping
  /-- Its keys. -/
  keys : Keys
  /-- The constants. -/
  blob : Blob
  /-- What is known about tokens. -/
  resolver : Resolver
  /-- What undoes the control-flow protection of a method, if anything does. -/
  cleaner? : Option Cleaner

namespace Patcher

/-- The constant a call site stands for. -/
def constantAt (patcher : Patcher) (site : CallSite) : Except Error Constant :=
  let decoded := patcher.keys.decode site.raw
  match patcher.mapping.kind decoded.tag with
  | .string => (patcher.blob.readText decoded.offset).map .text
  | .number =>
    match site.type with
    | .int32 => (patcher.blob.readInt32 decoded.offset).map .int32
    | .float64 => (patcher.blob.readFloat64 decoded.offset).map .float64
    | .float32 => (patcher.blob.readFloat32 decoded.offset).map .float32
    | type => .error (.unsupportedConstant (.number type))
  | .object => .error (.unsupportedConstant (.object site.type decoded.offset))
  | .default => .ok (.defaultOf site.type)

/-- The kind of a call site and the instruction that takes its place. -/
def decode (patcher : Patcher) (site : CallSite) :
    Sharing (Except Error (ConstantKind × Instruction)) :=
  match patcher.constantAt site with
  | .error error => return .error error
  | .ok constant => do
    let shared ← constant.share
    return .ok (constant.kind, shared.load.placedAt site.offset)

/-- Finds the next call site of the getter. -/
def nextCallSite (patcher : Patcher) (code : List Instruction) (start : Nat) :
    Option (Nat × List Instruction) :=
  ConstantRecovery.nextCallSite patcher.getter patcher.resolver code start

/-- Reads the call site of a getter call. -/
def callSite (patcher : Patcher) (code : List Instruction) (index : Nat) :
    Except Error CallSite :=
  (readCallSite patcher.resolver code index).mapError .invalidCallSite

/-- Puts the constant of a getter call in the place of the literal and the call. -/
def replace (patcher : Patcher) (code : List Instruction) (index : Nat) :
    Sharing (Except Error (ConstantKind × List Instruction)) :=
  match patcher.callSite code index with
  | .error error => return .error error
  | .ok site => do
    match ← patcher.decode site with
    | .error error => return .error error
    | .ok (kind, replacement) =>
      return .ok (kind, code.take (index - 1) ++ replacement :: code.drop (index + 1))

/-- Replaces call sites from an instruction number on, until none is left or one fails. Each
replacement makes the stream shorter, so `rounds` need not exceed its length. -/
def patchFrom (patcher : Patcher) (method : Method) (report : PatchReport) :
    Nat → List Instruction → Nat → Sharing (PatchReport × List Instruction)
  | 0, code, _ => return (report, code)
  | rounds + 1, code, start =>
    match patcher.nextCallSite code start with
    | none => return (report, code)
    | some (index, code) => do
      match ← patcher.replace code index with
      | .ok (kind, code) =>
        patchFrom patcher method (report.record kind) rounds code index
      | .error error =>
        let offset := (code[index]?.map (·.offset)).getD 0
        return (report.fail method offset error, code)

/-- Replaces the call sites of a method whose control flow is clean. -/
def patchCode (patcher : Patcher) (method : Method) : Sharing (PatchReport × Method) := do
  let (report, code) ← patcher.patchFrom method .ofMethod (method.body.length + 1) method.body 0
  return (report, { method with body := renumber code })

/-- Undoes the control-flow protection of a method, if it has one. -/
def clean (patcher : Patcher) (method : Method) : Method × Option Error :=
  match patcher.cleaner? with
  | none => (method, none)
  | some cleaner => if cleaner.isPresent method then cleaner.remove method else (method, none)

/-- Replaces the call sites of a method. A method that cannot be cleaned is reported at its
start and left as the cleaner left it. -/
def patchMethod (patcher : Patcher) (method : Method) : Sharing (PatchReport × Method) :=
  match patcher.clean method with
  | (method, some error) => return (PatchReport.ofMethod.fail method 0 error, method)
  | (method, none) => patcher.patchCode method

/-- Replaces the call sites of several methods, and merges their reports in order. -/
def patchAll (patcher : Patcher) (methods : List Method) :
    Sharing (PatchReport × List Method) := do
  let results ← methods.mapM patcher.patchMethod
  return ((results.map (·.1)).foldl .merge .empty, results.map (·.2))

end Patcher

end ConstantRecovery
