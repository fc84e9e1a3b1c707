import ConstantRecovery.Error
import ConstantRecovery.Text.Utf8

/-!
# The constant blob

All constants of a protected assembly lie in one buffer. A number is stored as its
little-endian bytes. A text is stored as a 32-bit byte length and its UTF-8 bytes;
a length greater than the whole buffer is stored turned by four bits and is turned
back. No read touches a byte outside the buffer.
-/

namespace ConstantRecovery

/-- A buffer of constants. -/
structure Blob where
  /-- The bytes. -/
  bytes : List UInt8
deriving DecidableEq

/-- The number that bytes stand for, least significant byte first. -/
def littleEndian : List UInt8 → Nat
  | [] => 0
  | byte :: rest => byte.toNat + 256 * littleEndian rest

/-- A word turned to the left by four bits. -/
def rotateLeft4 (word : UInt32) : UInt32 :=
  (word <<< 4) ||| (word >>> 28)

namespace Blob

/-- The number of bytes. -/
def size (blob : Blob) : Nat := blob.bytes.length

/-- Where so many bytes from an offset on end, unless that is more than a 64-bit word holds. -/
def rangeEnd? (offset length : Nat) : Option Nat :=
  if offset + length < UInt64.size then some (offset + length) else none

/-- So many bytes from an offset on. -/
def read (blob : Blob) (offset length : Nat) : Except Error (List UInt8) :=
  match rangeEnd? offset length with
  | some stop =>
    if stop ≤ blob.size then .ok ((blob.bytes.drop offset).take length) else .error .outOfBounds
  | none => .error .outOfBounds

/-- In a buffer that has 64-bit offsets, sums that are too large for a word are out of bounds like
any other. -/
theorem read_eq {blob : Blob} (addressable : blob.size < UInt64.size) (offset length : Nat) :
    blob.read offset length =
      if offset + length ≤ blob.size then .ok ((blob.bytes.drop offset).take length)
      else .error .outOfBounds := by
  unfold read rangeEnd?
  split
  · rename_i stop found
    split at found <;> cases found
    rfl
  · rename_i found
    split at found
    · cases found
    · rw [if_neg (by omega)]

/-- An unsigned 32-bit number. -/
def readUInt32 (blob : Blob) (offset : Nat) : Except Error UInt32 :=
  (blob.read offset 4).map fun bytes => UInt32.ofNat (littleEndian bytes)

/-- A signed 32-bit number. -/
def readInt32 (blob : Blob) (offset : Nat) : Except Error Int32 :=
  (blob.readUInt32 offset).map UInt32.toInt32

/-- A single-precision bit pattern. -/
def readFloat32 (blob : Blob) (offset : Nat) : Except Error UInt32 :=
  blob.readUInt32 offset

/-- A double-precision bit pattern. -/
def readFloat64 (blob : Blob) (offset : Nat) : Except Error UInt64 :=
  (blob.read offset 8).map fun bytes => UInt64.ofNat (littleEndian bytes)

/-- The byte length of the text at an offset. -/
def textLength (blob : Blob) (offset : Nat) : Except Error Nat :=
  (blob.readUInt32 offset).map fun stored =>
    if blob.size < stored.toNat then (rotateLeft4 stored).toNat else stored.toNat

/-- The text at an offset; bytes that are not well formed are replaced. -/
def readText (blob : Blob) (offset : Nat) : Except Error String :=
  match blob.textLength offset with
  | .ok length =>
    match rangeEnd? offset 4 with
    | some start => (blob.read start length).map Text.Utf8.decode
    | none => .error .outOfBounds
  | .error error => .error error

end Blob

end ConstantRecovery
