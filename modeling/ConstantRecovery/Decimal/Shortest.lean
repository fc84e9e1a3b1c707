/-!
# Shortest decimals

A finite binary float stands for every real number that rounds to it. The search
here finds the decimal with the fewest digits among those: grids of powers of ten
are tried from coarse to fine, on each one the two grid points next to the value
are tested against the rounding interval, and the first grid with a hit wins. Of
two hits the nearer is taken, and the upper one when the value lies halfway.
All comparisons are between natural numbers.
-/

namespace ConstantRecovery.Decimal

/-- A binary interchange format: the widths of its fraction and exponent fields. -/
structure BinaryFormat where
  /-- Stored bits of the significand. -/
  fractionBits : Nat
  /-- Bits of the biased exponent. -/
  exponentBits : Nat

/-- Single precision. -/
def binary32 : BinaryFormat := ⟨23, 8⟩

/-- Double precision. -/
def binary64 : BinaryFormat := ⟨52, 11⟩

/-- What a bit pattern stands for. -/
inductive FloatClass where
  /-- No number. -/
  | nan
  /-- An infinity. -/
  | infinite (negative : Bool)
  /-- The number `± significand * 2 ^ power`; `binade` tells that the next lower float is only
  half as far away as the next higher one. -/
  | finite (negative : Bool) (significand : Nat) (power : Int) (binade : Bool)

namespace BinaryFormat

/-- Reads the three fields of a bit pattern. -/
def classify (format : BinaryFormat) (bits : Nat) : FloatClass :=
  let unit := Nat.pow 2 format.fractionBits
  let exponents := Nat.pow 2 format.exponentBits
  let fraction := bits % unit
  let exponent := bits / unit % exponents
  let negative := bits / unit / exponents % 2 = 1
  let least : Int := 2 - Nat.pow 2 (format.exponentBits - 1) - format.fractionBits
  if exponent = exponents - 1 then
    if fraction = 0 then .infinite negative else .nan
  else if exponent = 0 then
    .finite negative fraction least false
  else
    .finite negative (unit + fraction) (least + (exponent - 1))
      (fraction = 0 && 1 < exponent)

end BinaryFormat

/-- The number `digits * 10 ^ power`. -/
structure Numeral where
  /-- The digits, as one number. -/
  digits : Nat
  /-- The power of ten of the last digit. -/
  power : Int

/-- A positive value and the ends of its rounding interval, as numerators over one
denominator. -/
structure Rounding where
  /-- Lower end of the interval. -/
  low : Nat
  /-- The value itself. -/
  value : Nat
  /-- Upper end of the interval. -/
  high : Nat
  /-- The common denominator. -/
  denominator : Nat
  /-- The ends belong to the interval. -/
  closed : Bool

namespace Rounding

/-- The interval of `significand * 2 ^ power`. Its ends lie half a step away, and round to the
value when the significand is even. -/
def ofFinite (significand : Nat) (power : Int) (binade : Bool) : Rounding :=
  let scale := Nat.pow 2 (power - 2).toNat
  { low := (4 * significand - if binade then 1 else 2) * scale
    value := 4 * significand * scale
    high := (4 * significand + 2) * scale
    denominator := Nat.pow 2 (2 - power).toNat
    closed := significand % 2 = 0 }

/-- The same interval with `10 ^ power` as the unit. -/
def onGrid (rounding : Rounding) (power : Int) : Rounding :=
  let finer := Nat.pow 10 (-power).toNat
  { rounding with
    low := rounding.low * finer
    value := rounding.value * finer
    high := rounding.high * finer
    denominator := rounding.denominator * Nat.pow 10 power.toNat }

/-- A whole number of units lies in the interval. -/
def contains (rounding : Rounding) (units : Nat) : Bool :=
  let numerator := units * rounding.denominator
  if rounding.closed then rounding.low ≤ numerator && numerator ≤ rounding.high
  else rounding.low < numerator && numerator < rounding.high

/-- The whole number of units that stands for the value, if one next to it lies in the
interval. -/
def nearest? (rounding : Rounding) : Option Nat :=
  let below := rounding.value / rounding.denominator
  let above := below + 1
  let upper := (below + above) * rounding.denominator ≤ 2 * rounding.value
  match rounding.contains below, rounding.contains above with
  | true, true => some (if upper then above else below)
  | true, false => some below
  | false, true => some above
  | false, false => none

/-- A number of units found by the search lies in the interval. -/
theorem contains_of_nearest? {rounding : Rounding} {units : Nat}
    (found : rounding.nearest? = some units) : rounding.contains units = true := by
  unfold nearest? at found
  simp only at found
  split at found
  · rename_i below above
    injection found with found
    split at found <;> simp_all
  · injection found with found
    simp_all
  · injection found with found
    simp_all
  · cases found

/-- Tries one grid after another, each ten times finer than the one before. -/
def search (rounding : Rounding) : Nat → Int → Option Numeral
  | 0, _ => none
  | grids + 1, power =>
    match (rounding.onGrid power).nearest? with
    | some units => some ⟨units, power⟩
    | none => search rounding grids (power - 1)

/-- A power of ten above the value, by counting digits. -/
def topPower (rounding : Rounding) : Int :=
  (Nat.toDigits 10 rounding.value).length - (Nat.toDigits 10 rounding.denominator).length + 1

/-- The shortest decimal of the interval. Seventeen digits tell any two doubles apart, so
twenty grids from above the value are enough. -/
def shortest? (rounding : Rounding) : Option Numeral :=
  rounding.search 20 rounding.topPower

end Rounding

end ConstantRecovery.Decimal
