import ConstantRecovery.Getter.Keys
import Mathlib.Algebra.Group.Nat.Even
import Mathlib.Algebra.Ring.Int.Parity
import Mathlib.Data.UInt
import Mathlib.Tactic.Ring

/-!
# Encoding and decoding

The inverse of an odd word comes from an iteration that squares what is missing from
one: a word is its own inverse up to a multiple of eight, and two to the 96th vanishes
in 32 bits. Mixing then gives back the id a literal was made from, and the id falls
apart into the tag and the place that were packed into it. The other way round the parts
of an id pack to the id, and the inverse gives back the literal that was mixed; so the two
are inverse to each other, and the main statement says where encoding gives nothing.
-/

namespace ConstantRecovery

namespace Keys

/-- A round of the iteration squares what is missing. -/
theorem residue_refine (key inverse : UInt32) :
    1 - key * refine key inverse = (1 - key * inverse) ^ 2 := by
  unfold refine
  grind

/-- An odd word is its own inverse in the lowest three bits. -/
theorem exists_residue {key : UInt32} (odd : key % 2 = 1) :
    ∃ part, 1 - key * key = 8 * part := by
  have value : key.toNat % 2 = 1 := by
    have rest := congrArg UInt32.toNat odd
    rwa [UInt32.toNat_mod] at rest
  obtain ⟨half, split⟩ : ∃ half, key.toNat = 2 * half + 1 := ⟨key.toNat / 2, by omega⟩
  obtain ⟨part, product⟩ : ∃ part, half * (half + 1) = 2 * part :=
    (Nat.even_mul_succ_self half).two_dvd
  have square : key.toNat * key.toNat = 8 * part + 1 := by
    rw [split]
    calc
      (2 * half + 1) * (2 * half + 1) = 4 * (half * (half + 1)) + 1 := by ring
      _ = 8 * part + 1 := by rw [product]; ring
  have word : key * key = 8 * UInt32.ofNat part + 1 := by
    have lifted := congrArg UInt32.ofNat square
    rwa [UInt32.ofNat_mul, UInt32.ofNat_toNat, UInt32.ofNat_add, UInt32.ofNat_mul] at lifted
  exact ⟨-UInt32.ofNat part, by grind⟩

/-- Five rounds are enough: what is missing is a multiple of two to the 96th. -/
theorem mul_inverse {key : UInt32} (odd : key % 2 = 1) : key * inverse key = 1 := by
  obtain ⟨part, start⟩ := exists_residue odd
  have vanishes : (8 : UInt32) ^ 32 = 0 := by decide
  have residue : 1 - key * inverse key = 0 := by
    show 1 - key * refine key (refine key (refine key (refine key (refine key key)))) = 0
    rw [residue_refine, residue_refine, residue_refine, residue_refine, residue_refine, start,
      ← pow_mul, ← pow_mul, ← pow_mul, ← pow_mul, mul_pow, vanishes, zero_mul]
  grind

/-- A tag and a place, packed into one word without overlap. -/
theorem toNat_pack {tag place : UInt32} (small : tag ≤ 3) (bound : place.toNat < 2 ^ 30) :
    ((tag <<< 30) ||| place).toNat = tag.toNat * 2 ^ 30 + place.toNat := by
  have three : tag.toNat ≤ 3 := UInt32.le_iff_toNat_le.1 small
  have shifted : (tag <<< 30).toNat = tag.toNat <<< 30 := by
    rw [UInt32.toNat_shiftLeft]
    show tag.toNat <<< 30 % 2 ^ 32 = _
    rw [Nat.shiftLeft_eq]
    exact Nat.mod_eq_of_lt (by omega)
  rw [UInt32.toNat_or, shifted, ← Nat.shiftLeft_add_eq_or_of_lt bound, Nat.shiftLeft_eq]

/-- A word is odd as a signed number when it is odd as an unsigned one. -/
theorem odd_toInt_iff (number : Int32) : Odd number.toInt ↔ number.toUInt32 % 2 = 1 := by
  have signed : number.toInt = number.toUInt32.toNat ∨
      number.toInt = (number.toUInt32.toNat : Int) - 2 ^ 32 := by
    have cases := BitVec.toInt_eq_toNat_cond number.toBitVec
    change number.toInt = _ at cases
    change number.toInt = number.toBitVec.toNat ∨ number.toInt = number.toBitVec.toNat - 2 ^ 32
    rw [cases]
    split
    · exact .inl rfl
    · exact .inr rfl
  have word : number.toUInt32 % 2 = 1 ↔ number.toUInt32.toNat % 2 = 1 := by
    rw [← UInt32.toNat_inj, UInt32.toNat_mod]
    rfl
  rw [Int.odd_iff, word]
  omega

section Parts

variable (keys : Keys) (raw : Int32)

/-- The tag is what thirty bits leave of the id. -/
theorem toNat_tag_decode :
    (keys.decode raw).tag.toNat = (keys.decode raw).id.toUInt32.toNat / 2 ^ 30 := by
  show ((keys.decode raw).id.toUInt32 >>> 30).toNat = _
  rw [UInt32.toNat_shiftRight]
  exact Nat.shiftRight_eq_div_pow _ 30

/-- The offset counts the low thirty bits of the id in units of four bytes. -/
theorem offset_decode_eq :
    (keys.decode raw).offset = (keys.decode raw).id.toUInt32.toNat % 2 ^ 30 * 4 := by
  show (((keys.decode raw).id.toUInt32 &&& placeMask) <<< 2).toNat = _
  rw [UInt32.toNat_shiftLeft, UInt32.toNat_and]
  show ((keys.decode raw).id.toUInt32.toNat &&& (2 ^ 30 - 1)) <<< 2 % 2 ^ 32 = _
  rw [Nat.and_two_pow_sub_one_eq_mod, Nat.shiftLeft_eq]
  omega

/-- A tag has two bits. -/
theorem tag_decode_le : (keys.decode raw).tag ≤ 3 := by
  have bound := (keys.decode raw).id.toUInt32.toNat_lt
  rw [UInt32.le_iff_toNat_le, toNat_tag_decode]
  show _ / 2 ^ 30 ≤ 3
  omega

/-- An offset is a number of four-byte units that fits into a word. -/
theorem offset_decode :
    (keys.decode raw).offset % 4 = 0 ∧ (keys.decode raw).offset < UInt32.size := by
  rw [offset_decode_eq]
  show _ ∧ _ < 2 ^ 32
  omega

/-- The parts that an id falls apart into pack to the id. -/
theorem pack_decode :
    ((keys.decode raw).tag <<< 30) ||| UInt32.ofNat ((keys.decode raw).offset / 4) =
      (keys.decode raw).id.toUInt32 := by
  have place : (UInt32.ofNat ((keys.decode raw).offset / 4)).toNat =
      (keys.decode raw).id.toUInt32.toNat % 2 ^ 30 := by
    rw [UInt32.toNat_ofNat', offset_decode_eq]
    omega
  have fits : (UInt32.ofNat ((keys.decode raw).offset / 4)).toNat < 2 ^ 30 := by
    rw [place]
    exact Nat.mod_lt _ (by decide)
  apply UInt32.toNat_inj.1
  rw [toNat_pack (keys.tag_decode_le raw) fits, toNat_tag_decode, place]
  exact Nat.div_add_mod' _ _

/-- With an odd multiplier the mask and the inverse undo the mixing. -/
theorem unmix_decode (odd : keys.multiplier.toUInt32 % 2 = 1) :
    (((keys.decode raw).id.toUInt32 ^^^ keys.mask.toUInt32) *
      inverse keys.multiplier.toUInt32).toInt32 = raw := by
  have inverts := mul_inverse odd
  generalize inverse keys.multiplier.toUInt32 = factor at inverts ⊢
  have mixed : (keys.decode raw).id.toUInt32 =
      raw.toUInt32 * keys.multiplier.toUInt32 ^^^ keys.mask.toUInt32 := by
    rw [decode, Int32.toUInt32_xor, Int32.toUInt32_mul]
  rw [mixed, UInt32.xor_assoc, UInt32.xor_self, UInt32.xor_zero, UInt32.mul_assoc, inverts,
    UInt32.mul_one]
  exact Int32.toInt32_toUInt32 raw

end Parts

variable {keys : Keys} {tag : UInt32} {offset : Nat} {raw : Int32}

/-- Mixing undoes the multiplication by an inverse and the mask. -/
theorem toUInt32_id_decode {word : UInt32} (odd : keys.multiplier.toUInt32 % 2 = 1) :
    (keys.decode ((word ^^^ keys.mask.toUInt32) *
      inverse keys.multiplier.toUInt32).toInt32).id.toUInt32 = word := by
  have inverts := mul_inverse odd
  generalize inverse keys.multiplier.toUInt32 = factor at inverts ⊢
  rw [decode, Int32.toUInt32_xor, Int32.toUInt32_mul, UInt32.toUInt32_toInt32, UInt32.mul_assoc,
    UInt32.mul_comm factor, inverts, UInt32.mul_one, UInt32.xor_assoc, UInt32.xor_self,
    UInt32.xor_zero]

/-- Decoding takes an encoded literal apart into the tag and the offset it was made from. -/
theorem decode_of_encode? (encoded : keys.encode? tag offset = some raw) :
    (keys.decode raw).tag = tag ∧ (keys.decode raw).offset = offset := by
  unfold encode? at encoded
  split at encoded
  · rename_i valid
    obtain ⟨odd, small, aligned, within⟩ := valid
    have bound : offset < 2 ^ 32 := within
    have word := @toUInt32_id_decode keys ((tag <<< 30) ||| UInt32.ofNat (offset / 4)) odd
    rw [Option.some.inj encoded] at word
    have fits : offset / 4 < 2 ^ 30 := by omega
    have place : (UInt32.ofNat (offset / 4)).toNat = offset / 4 :=
      UInt32.toNat_ofNat_of_lt' (Nat.lt_trans fits (by decide))
    have packed := toNat_pack small (place.trans_lt fits)
    rw [← word, place] at packed
    constructor
    · apply UInt32.toNat_inj.1
      rw [toNat_tag_decode, packed]
      omega
    · rw [offset_decode_eq, packed]
      omega
  · cases encoded

/-- Under an odd multiplier encoding and decoding are inverse to each other. Every tag of two bits
and every multiple of four below 2^32 is encoded by a literal, and decoding takes that literal
apart into them; every literal is the one that encodes what it decodes to. An even multiplier, a
greater tag and any other offset have no literal. -/
theorem encode?_inverse_decode (keys : Keys) :
    (Odd keys.multiplier.toInt →
      (∀ (tag : UInt32) (offset : Nat), tag ≤ 3 → offset % 4 = 0 → offset < 2 ^ 32 →
        ∃ raw, keys.encode? tag offset = some raw ∧
          (keys.decode raw).tag = tag ∧ (keys.decode raw).offset = offset) ∧
      ∀ raw, keys.encode? (keys.decode raw).tag (keys.decode raw).offset = some raw) ∧
    ∀ (tag : UInt32) (offset : Nat),
      Even keys.multiplier.toInt ∨ 3 < tag ∨ offset % 4 ≠ 0 ∨ 2 ^ 32 ≤ offset →
        keys.encode? tag offset = none := by
  refine ⟨fun multiplier => ⟨?_, ?_⟩, ?_⟩
  · intro tag offset small aligned within
    have odd := (odd_toInt_iff _).1 multiplier
    have encoded : ∃ raw, keys.encode? tag offset = some raw :=
      ⟨_, if_pos ⟨odd, small, aligned, within⟩⟩
    obtain ⟨raw, encoded⟩ := encoded
    exact ⟨raw, encoded, decode_of_encode? encoded⟩
  · intro raw
    have odd := (odd_toInt_iff _).1 multiplier
    obtain ⟨aligned, within⟩ := keys.offset_decode raw
    rw [encode?, if_pos ⟨odd, keys.tag_decode_le raw, aligned, within⟩]
    dsimp only
    rw [pack_decode, unmix_decode keys raw odd]
  · intro tag offset excluded
    refine if_neg ?_
    rintro ⟨odd, small, aligned, within⟩
    rcases excluded with even | large | unaligned | outside
    · exact Int.not_even_iff_odd.2 ((odd_toInt_iff _).2 odd) even
    · exact UInt32.not_lt.2 small large
    · exact unaligned aligned
    · exact Nat.not_lt.2 outside within

/-- The greatest tag and offset under two negative keys, and the smallest literal. -/
theorem encode?_inverse_decode_extremes :
    let keys : Keys := ⟨-3, -2147483648⟩
    Odd keys.multiplier.toInt ∧ (3 : UInt32) ≤ 3 ∧ 4294967292 % 4 = 0 ∧ 4294967292 < 2 ^ 32 ∧
      (∃ raw, keys.encode? 3 4294967292 = some raw ∧ (keys.decode raw).tag = 3 ∧
        (keys.decode raw).offset = 4294967292) ∧
      keys.encode? (keys.decode (-2147483648)).tag (keys.decode (-2147483648)).offset =
        some (-2147483648) ∧
      keys.encode? 0 4294967296 = none := by
  intro keys
  have odd : Odd keys.multiplier.toInt := by decide
  obtain ⟨inverse, nothing⟩ := encode?_inverse_decode keys
  obtain ⟨encodes, decodes⟩ := inverse odd
  refine ⟨odd, by decide, by decide, by decide, ?_, decodes (-2147483648), ?_⟩
  · exact encodes 3 4294967292 (by decide) (by decide) (by decide)
  · exact nothing 0 4294967296 (.inr (.inr (.inr (by decide))))

end Keys

end ConstantRecovery
