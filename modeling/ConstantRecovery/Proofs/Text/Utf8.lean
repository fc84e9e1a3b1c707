import ConstantRecovery.Text.Utf8

/-!
# Reading back what was encoded

A character is encoded in one of four widths. In each width the first byte announces
how many follow, the bits add up to the code point again, and the ranges allowed
behind the first byte leave room for exactly the code points that need the width and
are no surrogates.
-/

namespace ConstantRecovery.Text.Utf8

/-- A byte that is small enough keeps its value. -/
theorem toNat_ofNat_of_lt {value : Nat} (small : value < 256) : (UInt8.ofNat value).toNat = value :=
  UInt8.toNat_ofNat_of_lt' small

/-- Gathering takes a byte that lies in its range. -/
theorem gather_cons {bits low high value : Nat} (ranges : List (Nat × Nat)) (rest : List UInt8)
    (least : low ≤ value) (greatest : value ≤ high) (small : value < 256) :
    gather bits ((low, high) :: ranges) (UInt8.ofNat value :: rest) =
      gather (bits * 0x40 + value % 0x40) ranges rest := by
  simp [gather, toNat_ofNat_of_lt small, least, greatest]

/-- The code point of a character is no surrogate and not too large. -/
theorem toNat_valid (c : Char) : c.toNat < 0xD800 ∨ 0xDFFF < c.toNat ∧ c.toNat < 0x110000 :=
  c.valid

/-- A first byte of a two-byte character announces one more. -/
theorem continuation?_two {high : Nat} (least : 2 ≤ high) (greatest : high < 0x20) :
    continuation? (0xC0 + high) = some (high, [(0x80, 0xBF)]) := by
  have one : ¬ 0xC0 + high < 0x80 := by omega
  have overlong : ¬ 0xC0 + high < 0xC2 := by omega
  have two : 0xC0 + high < 0xE0 := by omega
  rw [continuation?, if_neg one, if_neg overlong, if_pos two, Nat.add_sub_cancel_left]

/-- A first byte of a three-byte character announces two more; the range of the second keeps
out overlong forms and surrogates. -/
theorem continuation?_three {high : Nat} (small : high < 0x10) :
    continuation? (0xE0 + high) = some (high,
      [(if high = 0 then 0xA0 else 0x80, if high = 0xD then 0x9F else 0xBF), (0x80, 0xBF)]) := by
  have one : ¬ 0xE0 + high < 0x80 := by omega
  have overlong : ¬ 0xE0 + high < 0xC2 := by omega
  have two : ¬ 0xE0 + high < 0xE0 := by omega
  rw [continuation?, if_neg one, if_neg overlong, if_neg two]
  by_cases zero : high = 0
  · subst zero
    rfl
  · have notZero : ¬ 0xE0 + high = 0xE0 := by omega
    rw [if_neg notZero, if_neg zero]
    by_cases surrogate : high = 0xD
    · subst surrogate
      rfl
    · have notSurrogate : ¬ 0xE0 + high = 0xED := by omega
      have three : 0xE0 + high < 0xF0 := by omega
      rw [if_neg notSurrogate, if_pos three, if_neg surrogate, Nat.add_sub_cancel_left]

/-- A first byte of a four-byte character announces three more; the range of the second keeps
out overlong forms and numbers that are no code points. -/
theorem continuation?_four {high : Nat} (small : high ≤ 4) :
    continuation? (0xF0 + high) = some (high,
      [(if high = 0 then 0x90 else 0x80, if high = 4 then 0x8F else 0xBF), (0x80, 0xBF),
        (0x80, 0xBF)]) := by
  have values : high = 0 ∨ high = 1 ∨ high = 2 ∨ high = 3 ∨ high = 4 := by omega
  rcases values with rfl | rfl | rfl | rfl | rfl <;> rfl

/-- The bytes of a character are read as that character, whatever follows. -/
theorem decodeChar_encodeChar (c : Char) (rest : List UInt8) :
    ∃ first more, encodeChar c = first :: more ∧ decodeChar first (more ++ rest) = (c, rest) := by
  have valid := toNat_valid c
  have whole : Char.ofNat c.toNat = c := Char.ofNat_toNat c
  unfold encodeChar
  dsimp only
  generalize c.toNat = point at valid whole ⊢
  by_cases one : point < 0x80
  · rw [if_pos one]
    refine ⟨_, _, rfl, ?_⟩
    rw [decodeChar, toNat_ofNat_of_lt (by omega), continuation?, if_pos one]
    simp only [List.nil_append, gather, whole]
  rw [if_neg one]
  by_cases two : point < 0x800
  · rw [if_pos two]
    refine ⟨_, _, rfl, ?_⟩
    have sum : point / 0x40 * 0x40 + (0x80 + point % 0x40) % 0x40 = point := by omega
    rw [decodeChar, toNat_ofNat_of_lt (by omega), continuation?_two (by omega) (by omega)]
    simp only [List.cons_append, List.nil_append]
    rw [gather_cons _ _ (by omega) (by omega) (by omega), gather, sum, whole]
  rw [if_neg two]
  by_cases three : point < 0x10000
  · rw [if_pos three]
    refine ⟨_, _, rfl, ?_⟩
    have sum : (point / 0x1000 * 0x40 + (0x80 + point / 0x40 % 0x40) % 0x40) * 0x40 +
        (0x80 + point % 0x40) % 0x40 = point := by omega
    rw [decodeChar, toNat_ofNat_of_lt (by omega), continuation?_three (by omega)]
    simp only [List.cons_append, List.nil_append]
    rw [gather_cons _ _ (by split <;> omega) (by split <;> omega) (by omega),
      gather_cons _ _ (by omega) (by omega) (by omega), gather, sum, whole]
  · rw [if_neg three]
    refine ⟨_, _, rfl, ?_⟩
    have sum : ((point / 0x40000 * 0x40 + (0x80 + point / 0x1000 % 0x40) % 0x40) * 0x40 +
        (0x80 + point / 0x40 % 0x40) % 0x40) * 0x40 + (0x80 + point % 0x40) % 0x40 = point := by
      omega
    rw [decodeChar, toNat_ofNat_of_lt (by omega), continuation?_four (by omega)]
    simp only [List.cons_append, List.nil_append]
    rw [gather_cons _ _ (by split <;> omega) (by split <;> omega) (by omega),
      gather_cons _ _ (by omega) (by omega) (by omega),
      gather_cons _ _ (by omega) (by omega) (by omega), gather, sum, whole]

/-- Encoded characters are read back, whatever follows. -/
theorem decodeChars_append (chars : List Char) (rest : List UInt8) :
    decodeChars (chars.flatMap encodeChar ++ rest) = chars ++ decodeChars rest := by
  induction chars with
  | nil => rfl
  | cons c chars ih =>
    obtain ⟨first, more, bytes, read⟩ :=
      decodeChar_encodeChar c (chars.flatMap encodeChar ++ rest)
    rw [List.flatMap_cons, bytes, List.append_assoc, List.cons_append, decodeChars, read, ih,
      List.cons_append]

/-- A text is read back from its bytes. -/
theorem decode_encode (text : String) : decode (encode text) = text := by
  have read := decodeChars_append text.toList []
  rw [List.append_nil, decodeChars, List.append_nil] at read
  rw [decode, encode, read, String.ofList_toList]

/-- No character takes more than four bytes. -/
theorem length_encodeChar_le (c : Char) : (encodeChar c).length ≤ 4 := by
  unfold encodeChar
  dsimp only
  split
  · exact Nat.le_add_left 1 3
  · split
    · exact Nat.le_add_left 2 2
    · split
      · exact Nat.le_add_left 3 1
      · exact Nat.le_refl 4

/-- A text has at most four times as many bytes as characters. -/
theorem length_encode_le (text : String) : (encode text).length ≤ 4 * text.toList.length := by
  unfold encode
  induction text.toList with
  | nil => exact Nat.le_refl 0
  | cons c chars ih =>
    have first := length_encodeChar_le c
    rw [List.flatMap_cons, List.length_append, List.length_cons]
    omega

/-- No byte stands for more than one character. -/
theorem length_decodeChars_le (bytes : List UInt8) : (decodeChars bytes).length ≤ bytes.length := by
  induction bytes using decodeChars.induct with
  | case1 =>
    rw [decodeChars]
    exact Nat.le_refl 0
  | case2 first bytes ih =>
    have behind := length_decodeChar_le first bytes
    rw [decodeChars, List.length_cons, List.length_cons]
    omega

end ConstantRecovery.Text.Utf8
