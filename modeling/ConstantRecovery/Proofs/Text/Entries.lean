import ConstantRecovery.Proofs.Blob

/-!
# Text entries

A text lies in a buffer behind a word that announces its length. The word may be the length
itself, or the length turned to the right by four bits. Nothing but the size of the buffer tells
the two apart: a word within that size is taken for the length. So a plain length is always read
back, and a turned one exactly if the turned word is too large for the buffer. Turning moves the
lowest four bits to the top; a length that is a multiple of sixteen gets smaller and is mistaken
for a plain one.
-/

namespace ConstantRecovery

/-! ## Turning words -/

/-- The bits that leave a word on one side come in on the other. -/
theorem shiftLeft_mod_or_shiftRight {bits width word : Nat} (inside : bits ≤ width)
    (small : word < 2 ^ width) :
    (word <<< bits) % 2 ^ width ||| word >>> (width - bits) =
      word % 2 ^ (width - bits) * 2 ^ bits + word / 2 ^ (width - bits) := by
  have split : 2 ^ width = 2 ^ (width - bits) * 2 ^ bits := by
    rw [← Nat.pow_add, Nat.sub_add_cancel inside]
  have high : word / 2 ^ (width - bits) < 2 ^ bits := Nat.div_lt_of_lt_mul (by rwa [← split])
  have low : (word <<< bits) % 2 ^ width = (word % 2 ^ (width - bits)) <<< bits := by
    rw [Nat.shiftLeft_eq, Nat.shiftLeft_eq, split, Nat.mul_mod_mul_right]
  rw [low, Nat.shiftRight_eq_div_pow, ← Nat.shiftLeft_add_eq_or_of_lt high, Nat.shiftLeft_eq]

/-- Turning to the left moves the highest four bits to the bottom. -/
theorem toNat_rotateLeft_four (word : BitVec 32) :
    (word.rotateLeft 4).toNat = word.toNat % 2 ^ 28 * 16 + word.toNat / 2 ^ 28 := by
  rw [BitVec.toNat_rotateLeft]
  exact shiftLeft_mod_or_shiftRight (by decide) word.isLt

/-- Turning to the right moves the lowest four bits to the top. -/
theorem toNat_rotateRight_four (word : BitVec 32) :
    (word.rotateRight 4).toNat = word.toNat % 16 * 2 ^ 28 + word.toNat / 16 := by
  have inside : 28 ≤ 32 := by decide
  rw [BitVec.toNat_rotateRight, Nat.or_comm]
  exact shiftLeft_mod_or_shiftRight inside word.isLt

/-- Turning back undoes turning. -/
theorem rotateLeft_rotateRight_four (word : BitVec 32) :
    ((word.rotateRight 4).rotateLeft 4) = word := by
  have small := word.isLt
  apply BitVec.eq_of_toNat_eq
  rw [toNat_rotateLeft_four, toNat_rotateRight_four]
  omega

namespace Blob

variable {blob : Blob} {offset : Nat} {text : String} {length stored : UInt32}

/-- A word within the size of the buffer announces itself. -/
theorem announced_of_le (fits : stored.toNat ≤ blob.size) : blob.announced stored = stored.toNat :=
  if_pos fits

/-- A turned length that exceeds the size of the buffer announces the length. -/
theorem announced_of_turned (turned : stored.toBitVec = length.toBitVec.rotateRight 4)
    (exceeds : blob.size < stored.toNat) : blob.announced stored = length.toNat := by
  rw [announced, if_neg (Nat.not_le.2 exceeds), turned, rotateLeft_rotateRight_four]
  rfl

/-- Texts are read exactly, and never from outside the buffer. At every offset the reader gives a
text if the word there and as many bytes as it announces lie in the buffer, namely the one that
those bytes stand for, and is out of bounds otherwise. A text that lies behind its length, or behind
its length turned to a word that exceeds the buffer, is read back. -/
theorem readText_exact (blob : Blob) (addressable : blob.size < UInt64.size) (offset : Nat) :
    ((∃ text, blob.readText offset = .ok text) ↔ blob.HasText offset) ∧
    (blob.readText offset =
      if blob.HasText offset then
        .ok (Text.Utf8.decode
          ((blob.bytes.drop (offset + 4)).take (blob.announced (blob.wordAt offset))))
      else .error .outOfBounds) ∧
    ∀ (text : String) (length stored : UInt32),
      length.toNat = (Text.Utf8.encode text).length →
      blob.Holds offset (littleEndianBytes 4 stored.toNat ++ Text.Utf8.encode text) →
      stored = length ∨
        stored.toBitVec = length.toBitVec.rotateRight 4 ∧ blob.size < stored.toNat →
      blob.readText offset = .ok text := by
  have reads := readText_eq addressable offset
  refine ⟨⟨fun ⟨text, done⟩ => ?_, fun has => ⟨_, reads.trans (if_pos has)⟩⟩, reads,
    fun text length stored counts holds prefixes => ?_⟩
  · refine Decidable.byContradiction fun lacks => ?_
    rw [reads, if_neg lacks] at done
    cases done
  · refine holds.readText_of_announced addressable ?_
    rw [← counts]
    rcases prefixes with rfl | ⟨turned, exceeds⟩
    · have inside := holds.le_size
      rw [List.length_append] at inside
      exact announced_of_le (by omega)
    · exact announced_of_turned turned exceeds

/-- A text of six bytes behind its turned length, in a buffer of thirteen bytes; behind a plain
length it would be read as well. At the last offset there is no room for a word. -/
theorem readText_exact_of_turned_prefix :
    let text := "naïve"
    let length : UInt32 := 6
    let stored : UInt32 := 0x60000000
    let blob : Blob :=
      ⟨[1, 2] ++ (littleEndianBytes 4 stored.toNat ++ Text.Utf8.encode text) ++ [9]⟩
    blob.size < UInt64.size ∧ length.toNat = (Text.Utf8.encode text).length ∧
      blob.Holds 2 (littleEndianBytes 4 stored.toNat ++ Text.Utf8.encode text) ∧
      stored.toBitVec = length.toBitVec.rotateRight 4 ∧ blob.size < stored.toNat ∧
      blob.readText 2 = .ok text ∧ blob.readText (2 ^ 64 - 1) = .error .outOfBounds := by
  intro text length stored blob
  have addressable : blob.size < UInt64.size := by decide +kernel
  have counts : length.toNat = (Text.Utf8.encode text).length := by decide +kernel
  have holds : blob.Holds 2 (littleEndianBytes 4 stored.toNat ++ Text.Utf8.encode text) :=
    ⟨[1, 2], [9], rfl, rfl⟩
  have turned : stored.toBitVec = length.toBitVec.rotateRight 4 := by decide
  have exceeds : blob.size < stored.toNat := by decide +kernel
  obtain ⟨-, -, back⟩ := readText_exact blob addressable 2
  obtain ⟨-, last, -⟩ := readText_exact blob addressable (2 ^ 64 - 1)
  have none : ¬ blob.HasText (2 ^ 64 - 1) := by decide +kernel
  rw [if_neg none] at last
  exact ⟨addressable, counts, holds, turned, exceeds,
    back text length stored counts holds (.inr ⟨turned, exceeds⟩), last⟩

/-- What is read is a text stored on the spot only if its length is right: fewer than a quarter of
its bytes, or bytes beyond its end, stand for something else. -/
theorem decode_take_ne {back : List UInt8} {count : Nat}
    (wrong : 4 * count < (Text.Utf8.encode text).length ∨
      (Text.Utf8.encode text).length < count ∧ back ≠ []) :
    Text.Utf8.decode ((Text.Utf8.encode text ++ back).take count) ≠ text := by
  intro same
  have chars : Text.Utf8.decodeChars ((Text.Utf8.encode text ++ back).take count) =
      text.toList := by
    rw [← String.toList_ofList (l := Text.Utf8.decodeChars _)]
    exact congrArg String.toList same
  rcases wrong with short | ⟨long, more⟩
  · have few := Text.Utf8.length_decodeChars_le ((Text.Utf8.encode text ++ back).take count)
    have many := Text.Utf8.length_encode_le text
    have taken := List.length_take_le count (Text.Utf8.encode text ++ back)
    rw [chars] at few
    omega
  · obtain ⟨first, rest, rfl⟩ := List.exists_cons_of_ne_nil more
    obtain ⟨beyond, rfl⟩ := Nat.exists_eq_add_of_lt long
    have split : (Text.Utf8.encode text ++ first :: rest).take
        ((Text.Utf8.encode text).length + beyond + 1) =
          Text.Utf8.encode text ++ first :: rest.take beyond := by
      rw [Nat.add_assoc, List.take_length_add_append, List.take_succ_cons]
    rw [split, Text.Utf8.encode, Text.Utf8.decodeChars_append, Text.Utf8.decodeChars] at chars
    exact absurd (List.append_right_eq_self.1 chars) (List.cons_ne_nil _ _)

/-- A turned length within the size of the buffer is mistaken, unless it is zero. -/
theorem readText_ne_of_turned (addressable : blob.size < UInt64.size)
    (counts : length.toNat = (Text.Utf8.encode text).length) (short : length.toNat < 2 ^ 28)
    (turned : stored.toBitVec = length.toBitVec.rotateRight 4)
    (holds : blob.Holds offset (littleEndianBytes 4 stored.toNat ++ Text.Utf8.encode text))
    (present : length ≠ 0) (fits : stored.toNat ≤ blob.size) :
    blob.readText offset ≠ .ok text := by
  obtain ⟨prefixed, front, back, shape, place⟩ := holds.of_append
  rw [length_littleEndianBytes] at place
  have behind : blob.bytes.drop (offset + 4) = Text.Utf8.encode text ++ back := by
    rw [shape, ← place, List.append_assoc, List.drop_left]
  rw [readText_eq addressable, prefixed.wordAt, announced_of_le fits, behind]
  split
  · rename_i has
    refine fun same => decode_take_ne ?_ (Except.ok.inj same)
    have inside := has.2
    rw [prefixed.wordAt, announced_of_le fits] at inside
    have value : stored.toNat = length.toNat % 16 * 2 ^ 28 + length.toNat / 16 :=
      (congrArg BitVec.toNat turned).trans (toNat_rotateRight_four length.toBitVec)
    have positive : length.toNat ≠ 0 := fun zero => present (UInt32.toNat_inj.1 zero)
    have room := congrArg List.length shape
    rw [List.length_append, List.length_append, place] at room
    change blob.size = _ at room
    -- The four bits that went to the top decide: without them the word shrinks.
    by_cases even : length.toNat % 16 = 0
    · left
      omega
    · right
      refine ⟨by omega, fun none => ?_⟩
      rw [none, List.length_nil] at room
      omega
  · exact nofun

/-- A text that lies behind its turned length is read back exactly if the length is zero or the
turned word exceeds the size of the buffer. In a buffer of less than `2 ^ 28` bytes that means: if
the length is zero or no multiple of sixteen. -/
theorem readText_turned_iff (addressable : blob.size < UInt64.size)
    (counts : length.toNat = (Text.Utf8.encode text).length) (short : length.toNat < 2 ^ 28)
    (turned : stored.toBitVec = length.toBitVec.rotateRight 4)
    (holds : blob.Holds offset (littleEndianBytes 4 stored.toNat ++ Text.Utf8.encode text)) :
    (blob.readText offset = .ok text ↔ length = 0 ∨ blob.size < stored.toNat) ∧
      (blob.size < 2 ^ 28 →
        (blob.readText offset = .ok text ↔ length = 0 ∨ length.toNat % 16 ≠ 0)) := by
  have value : stored.toNat = length.toNat % 16 * 2 ^ 28 + length.toNat / 16 :=
    (congrArg BitVec.toNat turned).trans (toNat_rotateRight_four length.toBitVec)
  have exactly : blob.readText offset = .ok text ↔ length = 0 ∨ blob.size < stored.toNat := by
    constructor
    · intro read
      refine Decidable.or_iff_not_imp_left.2 fun present => Nat.lt_of_not_le fun fits => ?_
      exact readText_ne_of_turned addressable counts short turned holds present fits read
    · intro reads
      refine holds.readText_of_announced addressable (counts ▸ ?_)
      rcases reads with rfl | exceeds
      · have zero : stored.toNat = 0 := value
        rw [announced_of_le (zero ▸ Nat.zero_le _), zero]
        rfl
      · exact announced_of_turned turned exceeds
  refine ⟨exactly, fun small => exactly.trans (Decidable.or_congr_right' fun present => ?_)⟩
  have inside := holds.le_size
  rw [List.length_append, ← counts] at inside
  have positive : length.toNat ≠ 0 := fun zero => present (UInt32.toNat_inj.1 zero)
  by_cases even : length.toNat % 16 = 0
  · omega
  · omega

/-- A text of eighteen bytes behind its turned length is read back. -/
theorem readText_turned_iff_of_eighteen :
    let text := "pre-rotated length"
    let length : UInt32 := 18
    let stored : UInt32 := 0x20000001
    let blob : Blob := ⟨[0, 0] ++ (littleEndianBytes 4 stored.toNat ++ Text.Utf8.encode text) ++ []⟩
    blob.size < UInt64.size ∧ length.toNat = (Text.Utf8.encode text).length ∧
      length.toNat < 2 ^ 28 ∧ stored.toBitVec = length.toBitVec.rotateRight 4 ∧
      blob.Holds 2 (littleEndianBytes 4 stored.toNat ++ Text.Utf8.encode text) ∧
      blob.size < 2 ^ 28 ∧ length.toNat % 16 ≠ 0 ∧ blob.readText 2 = .ok text := by
  intro text length stored blob
  have addressable : blob.size < UInt64.size := by decide +kernel
  have counts : length.toNat = (Text.Utf8.encode text).length := by decide +kernel
  have short : length.toNat < 2 ^ 28 := by decide
  have turned : stored.toBitVec = length.toBitVec.rotateRight 4 := by decide
  have holds : blob.Holds 2 (littleEndianBytes 4 stored.toNat ++ Text.Utf8.encode text) :=
    ⟨[0, 0], [], rfl, rfl⟩
  have small : blob.size < 2 ^ 28 := by decide +kernel
  have odd : length.toNat % 16 ≠ 0 := by decide
  have exactly := (readText_turned_iff addressable counts short turned holds).2 small
  exact ⟨addressable, counts, short, turned, holds, small, odd, exactly.2 (.inr odd)⟩

/-- Sixteen bytes behind their turned length are not read back: the length turns into one, and the
buffer has room for a text of one byte. -/
theorem not_readText_turned :
    ¬ ∀ (blob : Blob) (offset : Nat) (text : String) (length stored : UInt32),
      blob.size < UInt64.size → length.toNat = (Text.Utf8.encode text).length →
      length.toNat < 2 ^ 28 → stored.toBitVec = length.toBitVec.rotateRight 4 →
      blob.Holds offset (littleEndianBytes 4 stored.toNat ++ Text.Utf8.encode text) →
      blob.readText offset = .ok text := by
  intro always
  let text := "0123456789abcdef"
  let blob : Blob := ⟨[] ++ (littleEndianBytes 4 1 ++ Text.Utf8.encode text) ++ []⟩
  have addressable : blob.size < UInt64.size := by decide +kernel
  have counts : (16 : UInt32).toNat = (Text.Utf8.encode text).length := by decide +kernel
  have holds : blob.Holds 0 (littleEndianBytes 4 (1 : UInt32).toNat ++ Text.Utf8.encode text) :=
    ⟨[], [], rfl, rfl⟩
  have fits : (1 : UInt32).toNat ≤ blob.size := by decide +kernel
  exact readText_ne_of_turned addressable counts (by decide) (by decide) holds (by decide) fits
    (always blob 0 text 16 1 addressable counts (by decide) (by decide) holds)

end Blob

end ConstantRecovery
