import ConstantRecovery.Getter.Keys
import ConstantRecovery.Getter.Skeleton
import ConstantRecovery.Getter.TagMapping
import ConstantRecovery.Machine.Run

/-!
# Reading a getter

The keys stand in the untouched body at fixed positions. The mapping is learned by
running the dispatch skeleton once for each tag: the tag is in local variable 0,
the default sentinel stands for the id in local variable 1, and the number left on
top of the stack names the path.
-/

namespace ConstantRecovery

/-- A way to read getters: where names come from and how long a probe may run. -/
structure GetterReader where
  /-- What is known about tokens. -/
  resolver : Resolver
  /-- The limits of each probe. -/
  limits : Limits

namespace GetterReader

/-- The positions of the two keys. A getter that checks its caller does so in four instructions
in front of them. -/
def keyPositions (reader : GetterReader) (getter : Method) : Nat × Nat :=
  match getter.body with
  | first :: _ => if first.isModuleLookup reader.resolver then (5, 7) else (1, 3)
  | [] => (1, 3)

/-- The literal at a position of a getter. -/
def keyAt (getter : Method) (position : Nat) : Except GetterDefect Int32 :=
  match getter.body[position]?.bind (·.int32Literal?) with
  | some value => .ok value
  | none => .error (.missingKey getter position)

/-- The keys of a getter. -/
def readKeys (reader : GetterReader) (getter : Method) : Except GetterDefect Keys := do
  let (first, second) := reader.keyPositions getter
  let multiplier ← keyAt getter first
  let mask ← keyAt getter second
  return { multiplier, mask }

/-- The skeleton as a routine that looks up a tag. -/
def probeRoutine (reader : GetterReader) (skeleton : List Instruction) (tag : Int32) : Routine :=
  let routine := (Routine.ofCode skeleton).setLocal 0 (.int32 tag)
  { routine.setLocal 1 (.int32 ConstantKind.default.sentinel) with limits := reader.limits }

/-- The path a finished probe names. -/
def kindOfProbe? (context : Context) : Option ConstantKind :=
  (context.top?.bind Value.int32?).bind ConstantKind.ofSentinel?

/-- The path a tag selects. -/
def probeTag (reader : GetterReader) (skeleton : List Instruction) (tag : Int32) :
    Except Error ConstantKind :=
  match (reader.probeRoutine skeleton tag).emulate with
  | .error fault => .error (.emulation fault)
  | .ok context =>
    match kindOfProbe? context with
    | some kind => .ok kind
    | none => .error (.malformedGetter (.strayProbe tag context.top?))

/-- The paths all four tags select. -/
def probe (reader : GetterReader) (skeleton : List Instruction) : Except Error TagMapping := do
  let zero ← reader.probeTag skeleton 0
  let one ← reader.probeTag skeleton 1
  let two ← reader.probeTag skeleton 2
  let three ← reader.probeTag skeleton 3
  (TagMapping.ofKinds #v[zero, one, two, three]).mapError .malformedGetter

/-- The mapping and the keys of a getter. Where several things are wrong, the keys are
complained about first, then the skeleton, then the probes. -/
def resolve (reader : GetterReader) (getter : Method) : Except Error (TagMapping × Keys) := do
  let keys ← (reader.readKeys getter).mapError .malformedGetter
  let skeleton ← dispatchSkeleton reader.resolver getter.body
  let mapping ← reader.probe skeleton
  return (mapping, keys)

end GetterReader

end ConstantRecovery
