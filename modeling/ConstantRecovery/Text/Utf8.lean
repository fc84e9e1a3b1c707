/-!
# UTF-8

`encode` writes a text as bytes. `decode` reads any bytes: where they are not
well formed, each longest start of a character that never gets finished counts
as one replacement character. Both work on the arithmetic of code points, so
that the two can be compared by division with remainder.
-/

namespace ConstantRecovery.Text.Utf8

/-- The bytes of one character: one to four, by the size of its code point. -/
def encodeChar (c : Char) : List UInt8 :=
  let point := c.toNat
  if point < 0x80 then
    [UInt8.ofNat point]
  else if point < 0x800 then
    [UInt8.ofNat (0xC0 + point / 0x40), UInt8.ofNat (0x80 + point % 0x40)]
  else if point < 0x10000 then
    [UInt8.ofNat (0xE0 + point / 0x1000), UInt8.ofNat (0x80 + point / 0x40 % 0x40),
      UInt8.ofNat (0x80 + point % 0x40)]
  else
    [UInt8.ofNat (0xF0 + point / 0x40000), UInt8.ofNat (0x80 + point / 0x1000 % 0x40),
      UInt8.ofNat (0x80 + point / 0x40 % 0x40), UInt8.ofNat (0x80 + point % 0x40)]

/-- The bytes of a text. -/
def encode (text : String) : List UInt8 :=
  text.toList.flatMap encodeChar

/-- What stands for bytes that form no character. -/
def replacement : Char := '\uFFFD'

/-- How a first byte continues: the bits it gives, and the closed range allowed for each
byte behind it. Only the second byte of some characters is narrower than `80..BF`; that
rules out overlong forms, surrogates and points above `10FFFF`. -/
def continuation? (first : Nat) : Option (Nat × List (Nat × Nat)) :=
  if first < 0x80 then some (first, [])
  else if first < 0xC2 then none
  else if first < 0xE0 then some (first - 0xC0, [(0x80, 0xBF)])
  else if first = 0xE0 then some (0x0, [(0xA0, 0xBF), (0x80, 0xBF)])
  else if first = 0xED then some (0xD, [(0x80, 0x9F), (0x80, 0xBF)])
  else if first < 0xF0 then some (first - 0xE0, [(0x80, 0xBF), (0x80, 0xBF)])
  else if first = 0xF0 then some (0, [(0x90, 0xBF), (0x80, 0xBF), (0x80, 0xBF)])
  else if first < 0xF4 then some (first - 0xF0, [(0x80, 0xBF), (0x80, 0xBF), (0x80, 0xBF)])
  else if first = 0xF4 then some (4, [(0x80, 0x8F), (0x80, 0xBF), (0x80, 0xBF)])
  else none

/-- Gathers the bytes behind a first one. Gives the character, or the replacement at the
first byte out of its range, and what is left; that byte itself is left too. -/
def gather (bits : Nat) : List (Nat × Nat) → List UInt8 → Char × List UInt8
  | [], bytes => (Char.ofNat bits, bytes)
  | _ :: _, [] => (replacement, [])
  | (low, high) :: ranges, byte :: bytes =>
    if low ≤ byte.toNat && byte.toNat ≤ high then
      gather (bits * 0x40 + byte.toNat % 0x40) ranges bytes
    else (replacement, byte :: bytes)

/-- Gathering takes bytes from the front only. -/
theorem length_gather_le (bits : Nat) (ranges : List (Nat × Nat)) (bytes : List UInt8) :
    (gather bits ranges bytes).2.length ≤ bytes.length := by
  induction bytes generalizing bits ranges with
  | nil => cases ranges <;> simp [gather]
  | cons byte bytes ih =>
    cases ranges with
    | nil => simp [gather]
    | cons range ranges =>
      simp only [gather]
      split
      · exact Nat.le_succ_of_le (ih _ _)
      · simp

/-- The first character of some bytes, and the bytes behind it. -/
def decodeChar (first : UInt8) (bytes : List UInt8) : Char × List UInt8 :=
  match continuation? first.toNat with
  | some (bits, ranges) => gather bits ranges bytes
  | none => (replacement, bytes)

/-- Reading a character consumes its first byte. -/
theorem length_decodeChar_le (first : UInt8) (bytes : List UInt8) :
    (decodeChar first bytes).2.length ≤ bytes.length := by
  unfold decodeChar
  split
  · exact length_gather_le _ _ _
  · exact Nat.le_refl _

/-- The characters that some bytes stand for. -/
def decodeChars : List UInt8 → List Char
  | [] => []
  | first :: bytes =>
    (decodeChar first bytes).1 :: decodeChars (decodeChar first bytes).2
termination_by bytes => bytes.length
decreasing_by
  exact Nat.lt_succ_of_le (length_decodeChar_le first bytes)

/-- The text that some bytes stand for. -/
def decode (bytes : List UInt8) : String :=
  String.ofList (decodeChars bytes)

end ConstantRecovery.Text.Utf8
