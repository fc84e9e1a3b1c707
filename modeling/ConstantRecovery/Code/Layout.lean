import ConstantRecovery.Code.Instruction

/-!
# Layout

A stream is settled when each instruction starts where the one in front of it ends
and the first starts at zero. `settle` moves instructions there; `renumber` also
lets every jump follow: it lands on the first instruction that used to start at or
behind the old target, or behind the last instruction if there is none.

This is the exact layout: offsets are natural numbers and never run out. What a cursor of
64 bits makes of it stands in `Code.Wrapping`; for streams that fit they are the same.
-/

namespace ConstantRecovery

/-- The encoded bytes of a stream. -/
def codeSize : List Instruction → Nat
  | [] => 0
  | instruction :: rest => instruction.size + codeSize rest

/-- Where the instructions of a stream start. -/
def offsets (code : List Instruction) : List Nat :=
  code.map (·.offset)

/-- Moves a stream so that it starts at `start` and has no gaps. -/
def settle (start : Nat) : List Instruction → List Instruction
  | [] => []
  | instruction :: rest =>
    instruction.placedAt start :: settle (start + instruction.size) rest

/-- Settling keeps the number of instructions. -/
@[simp] theorem length_settle (start : Nat) (code : List Instruction) :
    (settle start code).length = code.length := by
  induction code generalizing start with
  | nil => rfl
  | cons instruction rest ih => simp [settle, ih]

/-- Moving a stream leaves its size. -/
@[simp] theorem codeSize_settle (start : Nat) (code : List Instruction) :
    codeSize (settle start code) = codeSize code := by
  induction code generalizing start with
  | nil => rfl
  | cons instruction rest ih =>
    rw [settle, codeSize, codeSize, ih]
    rfl

/-- Two streams settle one behind the other. -/
theorem settle_append (start : Nat) (front back : List Instruction) :
    settle start (front ++ back) = settle start front ++ settle (start + codeSize front) back := by
  induction front generalizing start with
  | nil => simp [settle, codeSize]
  | cons instruction rest ih =>
    simp [settle, ih, codeSize, Nat.add_assoc]

/-- The offset in `after` that belongs to an offset in `before`: that of the first instruction
starting at or behind it, or the end of the stream. -/
def landing (before after : List Instruction) (offset : Nat) : Nat :=
  let index := (before.takeWhile (·.offset < offset)).length
  match after[index]? with
  | some instruction => instruction.offset
  | none => codeSize after

/-- Settles a stream whose offsets do not decrease, and lets its jumps follow. -/
def renumber (code : List Instruction) : List Instruction :=
  let settled := settle 0 code
  settled.map (·.mapSlots (landing code settled))

/-- Renumbering keeps the number of instructions. -/
@[simp] theorem length_renumber (code : List Instruction) :
    (renumber code).length = code.length := by
  simp [renumber]

end ConstantRecovery
