import ConstantRecovery.Code.Layout

/-!
# Layout with a 64-bit cursor

Offsets are held in 64 bits. A cursor that runs along a stream adds sizes modulo `2 ^ 64`, so
behind the greatest offset it goes on at the front, and instructions may come to share an
offset. `settle` and `renumber` are the layout of a stream that fits; here are the ones that a
machine computes for any stream.
-/

namespace ConstantRecovery

/-- What 64 bits hold of an offset. -/
def wrap (offset : Nat) : Nat := (UInt64.ofNat offset).toNat

/-- Moves a stream so that a cursor that starts at `start` finds no gaps. -/
def settleWrapping (start : UInt64) : List Instruction → List Instruction
  | [] => []
  | instruction :: rest =>
    instruction.placedAt start.toNat ::
      settleWrapping (start + UInt64.ofNat instruction.size) rest

/-- Settles a stream with a cursor, and lets its jumps follow. They are found by the old offsets,
which should not decrease. -/
def renumberWrapping (code : List Instruction) : List Instruction :=
  let settled := settleWrapping 0 code
  settled.map (·.mapSlots fun target => wrap (landing code settled target))

end ConstantRecovery
