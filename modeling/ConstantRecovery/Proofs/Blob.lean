import ConstantRecovery.Blob
import ConstantRecovery.Proofs.Text.Utf8
import Mathlib.Algebra.Group.Nat.Defs

/-!
# Reading what is stored

Bytes that lie at an offset of a buffer are what a read from there gives, as long as offsets
into the buffer fit in 64 bits. Numbers are stored least significant byte first; a text is
stored as a word that announces the number of its bytes, and the bytes. A plain length is never
turned: a text inside the buffer is not longer than it.
-/

namespace ConstantRecovery

/-- So many bytes of a number, least significant byte first. -/
def littleEndianBytes : Nat → Nat → List UInt8
  | 0, _ => []
  | count + 1, value => UInt8.ofNat (value % 256) :: littleEndianBytes count (value / 256)

/-- A number is written in as many bytes as asked for. -/
@[simp] theorem length_littleEndianBytes (count value : Nat) :
    (littleEndianBytes count value).length = count := by
  induction count generalizing value with
  | zero => rfl
  | succ count ih => rw [littleEndianBytes, List.length_cons, ih]

/-- A number that fits is read back from its bytes. -/
theorem littleEndian_littleEndianBytes {count value : Nat} (fits : value < 256 ^ count) :
    littleEndian (littleEndianBytes count value) = value := by
  induction count generalizing value with
  | zero =>
    have zero : value = 0 := by omega
    rw [zero]
    rfl
  | succ count ih =>
    have small : value / 256 < 256 ^ count := by
      rw [Nat.pow_succ] at fits
      exact (Nat.div_lt_iff_lt_mul (by decide)).2 fits
    have byte : (UInt8.ofNat (value % 256)).toNat = value % 256 :=
      UInt8.toNat_ofNat_of_lt' (Nat.mod_lt _ (by decide))
    rw [littleEndianBytes, littleEndian, ih small, byte]
    exact Nat.mod_add_div value 256

namespace Blob

/-- Bytes lie at an offset of a buffer. -/
def Holds (blob : Blob) (offset : Nat) (bytes : List UInt8) : Prop :=
  ∃ front back, blob.bytes = front ++ bytes ++ back ∧ front.length = offset

variable {blob : Blob} {offset : Nat}

/-- What lies in a buffer ends in it. -/
theorem Holds.le_size {bytes : List UInt8} (holds : blob.Holds offset bytes) :
    offset + bytes.length ≤ blob.size := by
  obtain ⟨front, back, shape, rfl⟩ := holds
  rw [size, shape, List.length_append, List.length_append]
  omega

/-- What lies at an offset is read from there. -/
theorem Holds.read (addressable : blob.size < UInt64.size) {bytes : List UInt8}
    (holds : blob.Holds offset bytes) : blob.read offset bytes.length = .ok bytes := by
  have inside := holds.le_size
  obtain ⟨front, back, shape, rfl⟩ := holds
  rw [read_eq addressable, if_pos inside, shape, List.append_assoc, List.drop_left, List.take_left]

/-- Of two runs of bytes at an offset, the first lies there and the second behind it. -/
theorem Holds.of_append {first second : List UInt8} (holds : blob.Holds offset (first ++ second)) :
    blob.Holds offset first ∧ blob.Holds (offset + first.length) second := by
  obtain ⟨front, back, shape, rfl⟩ := holds
  constructor
  · refine ⟨front, second ++ back, ?_, rfl⟩
    rw [shape, List.append_assoc, List.append_assoc, List.append_assoc]
  · refine ⟨front ++ first, back, ?_, List.length_append⟩
    rw [shape, List.append_assoc front first second]

/-- A stored word is read back. -/
theorem Holds.readUInt32 (addressable : blob.size < UInt64.size) {word : UInt32}
    (holds : blob.Holds offset (littleEndianBytes 4 word.toNat)) :
    blob.readUInt32 offset = .ok word := by
  have done := holds.read addressable
  rw [length_littleEndianBytes] at done
  have fits : word.toNat < 256 ^ 4 := word.toNat_lt
  rw [Blob.readUInt32, done, Except.map, littleEndian_littleEndianBytes fits, UInt32.ofNat_toNat]

/-- A stored number is read back. -/
theorem Holds.readInt32 (addressable : blob.size < UInt64.size) {value : Int32}
    (holds : blob.Holds offset (littleEndianBytes 4 value.toUInt32.toNat)) :
    blob.readInt32 offset = .ok value := by
  rw [Blob.readInt32, holds.readUInt32 addressable, Except.map, Int32.toInt32_toUInt32]

/-- A stored double word is read back. -/
theorem Holds.readFloat64 (addressable : blob.size < UInt64.size) {bits : UInt64}
    (holds : blob.Holds offset (littleEndianBytes 8 bits.toNat)) :
    blob.readFloat64 offset = .ok bits := by
  have done := holds.read addressable
  rw [length_littleEndianBytes] at done
  have fits : bits.toNat < 256 ^ 8 := bits.toNat_lt
  rw [Blob.readFloat64, done, Except.map, littleEndian_littleEndianBytes fits,
    UInt64.ofNat_toNat]

/-! ## Texts -/

/-- The word that the four bytes at an offset stand for. -/
def wordAt (blob : Blob) (offset : Nat) : UInt32 :=
  UInt32.ofNat (littleEndian ((blob.bytes.drop offset).take 4))

/-- The length that a stored word announces: the word itself if the buffer is as long as that, and
else the word turned to the left by four bits. -/
def announced (blob : Blob) (stored : UInt32) : Nat :=
  if stored.toNat ≤ blob.size then stored.toNat else (stored.toBitVec.rotateLeft 4).toNat

/-- The word at an offset and as many bytes behind it as it announces lie in the buffer. -/
def HasText (blob : Blob) (offset : Nat) : Prop :=
  offset + 4 ≤ blob.size ∧ offset + 4 + blob.announced (blob.wordAt offset) ≤ blob.size

/-- Whether a text lies at an offset can be computed. -/
instance (blob : Blob) (offset : Nat) : Decidable (blob.HasText offset) :=
  inferInstanceAs (Decidable (_ ∧ _))

/-- A stored word is the word at its offset. -/
theorem Holds.wordAt {word : UInt32} (holds : blob.Holds offset (littleEndianBytes 4 word.toNat)) :
    blob.wordAt offset = word := by
  obtain ⟨front, back, shape, rfl⟩ := holds
  have taken : ((littleEndianBytes 4 word.toNat) ++ back).take 4 =
      littleEndianBytes 4 word.toNat :=
    List.take_left' (length_littleEndianBytes 4 _)
  have fits : word.toNat < 256 ^ 4 := word.toNat_lt
  rw [Blob.wordAt, shape, List.append_assoc, List.drop_left, taken,
    littleEndian_littleEndianBytes fits, UInt32.ofNat_toNat]

/-- A text is read where the buffer has one, and reading is out of bounds elsewhere. -/
theorem readText_eq (addressable : blob.size < UInt64.size) (offset : Nat) :
    blob.readText offset =
      if blob.HasText offset then
        .ok (Text.Utf8.decode
          ((blob.bytes.drop (offset + 4)).take (blob.announced (blob.wordAt offset))))
      else .error .outOfBounds := by
  by_cases prefixed : offset + 4 ≤ blob.size
  · have stored : blob.readUInt32 offset = .ok (blob.wordAt offset) := by
      rw [readUInt32, read_eq addressable, if_pos prefixed]
      rfl
    have length : blob.textLength offset = .ok (blob.announced (blob.wordAt offset)) := by
      rw [textLength, stored, Except.map, announced]
      by_cases fits : (blob.wordAt offset).toNat ≤ blob.size
      · rw [if_pos fits, if_neg (Nat.not_lt.2 fits)]
      · rw [if_neg fits, if_pos (Nat.lt_of_not_le fits)]
        rfl
    have start : rangeEnd? offset 4 = some (offset + 4) := if_pos (by omega)
    rw [readText, length]
    dsimp only
    rw [start]
    dsimp only
    rw [read_eq addressable]
    by_cases inside : offset + 4 + blob.announced (blob.wordAt offset) ≤ blob.size
    · rw [if_pos inside, if_pos ⟨prefixed, inside⟩]
      rfl
    · rw [if_neg inside, if_neg fun has => inside has.2]
      rfl
  · have cut : blob.readUInt32 offset = .error .outOfBounds := by
      rw [readUInt32, read_eq addressable, if_neg prefixed]
      rfl
    have length : blob.textLength offset = .error .outOfBounds := by
      rw [textLength, cut]
      rfl
    rw [readText, length, if_neg fun has => prefixed has.1]

/-- A text is read back that lies behind a word which announces its length. -/
theorem Holds.readText_of_announced (addressable : blob.size < UInt64.size) {text : String}
    {stored : UInt32}
    (holds : blob.Holds offset
      (littleEndianBytes 4 stored.toNat ++ Text.Utf8.encode text))
    (announces : blob.announced stored = (Text.Utf8.encode text).length) :
    blob.readText offset = .ok text := by
  obtain ⟨prefixed, behind⟩ := holds.of_append
  rw [length_littleEndianBytes] at behind
  have word := prefixed.wordAt
  have first := prefixed.le_size
  rw [length_littleEndianBytes] at first
  have inside := behind.le_size
  have has : blob.HasText offset := ⟨first, by rwa [word, announces]⟩
  have bytes := behind.read addressable
  rw [read_eq addressable, if_pos inside] at bytes
  rw [readText_eq addressable, if_pos has, word, announces, Except.ok.inj bytes,
    Text.Utf8.decode_encode]

/-- A stored text is read back from a buffer whose offsets fit in a word. -/
theorem Holds.readText {text : String} (small : blob.size ≤ 2 ^ 32)
    (holds : blob.Holds offset
      (littleEndianBytes 4 (Text.Utf8.encode text).length ++ Text.Utf8.encode text)) :
    blob.readText offset = .ok text := by
  have inside := holds.le_size
  rw [List.length_append, length_littleEndianBytes] at inside
  have count : (UInt32.ofNat (Text.Utf8.encode text).length).toNat =
      (Text.Utf8.encode text).length := UInt32.toNat_ofNat_of_lt' (by
    show _ < 2 ^ 32
    omega)
  have addressable : blob.size < UInt64.size := Nat.lt_of_le_of_lt small (by decide)
  have stored : (UInt32.ofNat (Text.Utf8.encode text).length).toNat ≤ blob.size := by omega
  refine Holds.readText_of_announced addressable (by rwa [count]) ?_
  rw [announced, if_pos stored, count]

end Blob

end ConstantRecovery
