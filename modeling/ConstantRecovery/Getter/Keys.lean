import ConstantRecovery.Text.Hex

/-!
# Keys

A getter mixes its argument with two keys: it multiplies by the first and applies
the second as a mask. The top two bits of the result are the tag, the rest is the
place in the blob in units of four bytes. With an odd multiplier the mixing can be
undone, because an odd number has an inverse modulo a power of two.
-/

namespace ConstantRecovery

/-- A call-site literal after mixing. -/
structure DecodedId where
  /-- The mixed literal. -/
  id : Int32
  /-- Its top two bits. -/
  tag : UInt32
  /-- The byte offset of the constant. -/
  offset : Nat
deriving DecidableEq

/-- The two keys of a getter. -/
structure Keys where
  /-- What a literal is multiplied by. -/
  multiplier : Int32
  /-- The mask applied to the product. -/
  mask : Int32
deriving DecidableEq

namespace Keys

/-- The bits of an id that give the place. -/
def placeMask : UInt32 := 0x3FFFFFFF

/-- Mixes a literal and takes the result apart. -/
def decode (keys : Keys) (raw : Int32) : DecodedId :=
  let id := raw * keys.multiplier ^^^ keys.mask
  { id
    tag := id.toUInt32 >>> 30
    offset := ((id.toUInt32 &&& placeMask) <<< 2).toNat }

/-- One round of Newton's iteration for the inverse of an odd word; it doubles the number of low
bits that are right. -/
def refine (key inverse : UInt32) : UInt32 :=
  inverse * (2 - key * inverse)

/-- The inverse of an odd word. An odd word is its own inverse in the lowest three bits, and
five rounds make them ninety-six. -/
def inverse (key : UInt32) : UInt32 :=
  Nat.repeat (refine key) 5 key

/-- The literal that is mixed into a tag and a place. There is none for an even multiplier, for
a tag of more than two bits, and for an offset that is not a multiple of four below 2^32. -/
def encode? (keys : Keys) (tag : UInt32) (offset : Nat) : Option Int32 :=
  if keys.multiplier.toUInt32 % 2 = 1 ∧ tag ≤ 3 ∧ offset % 4 = 0 ∧ offset < UInt32.size then
    let id := (tag <<< 30) ||| UInt32.ofNat (offset / 4)
    some ((id ^^^ keys.mask.toUInt32) * inverse keys.multiplier.toUInt32).toInt32
  else none

/-- Keys as they are listed. -/
def text (keys : Keys) : String :=
  "key1=0x" ++ Text.hexUpper 8 keys.multiplier.toUInt32.toNat ++
    ", key2=0x" ++ Text.hexUpper 8 keys.mask.toUInt32.toNat

end Keys

end ConstantRecovery
