import ConstantRecovery.Decimal.Shortest

/-!
# Plain decimal text

Floats are listed in positional notation with their shortest digits: never an
exponent, no point behind a whole number, a sign on negative zero as well.
-/

namespace ConstantRecovery.Decimal

namespace Numeral

/-- Positional notation of `digits * 10 ^ power`. -/
def plain (numeral : Numeral) : List Char :=
  let digits := Nat.toDigits 10 numeral.digits
  let places := (-numeral.power).toNat
  if places = 0 then
    digits ++ List.replicate numeral.power.toNat '0'
  else
    let padded := List.replicate (places + 1 - digits.length) '0' ++ digits
    padded.take (padded.length - places) ++ '.' :: padded.drop (padded.length - places)

end Numeral

/-- The text of a number without its sign. -/
def plainMagnitude (significand : Nat) (power : Int) (binade : Bool) : List Char :=
  if significand = 0 then ['0']
  else
    match (Rounding.ofFinite significand power binade).shortest? with
    | some numeral => numeral.plain
    | none => []

/-- The text of the float with the given bits. -/
def BinaryFormat.plain (format : BinaryFormat) (bits : Nat) : String :=
  let signed (negative : Bool) (magnitude : List Char) : String :=
    String.ofList (if negative then '-' :: magnitude else magnitude)
  match format.classify bits with
  | .nan => "NaN"
  | .infinite negative => signed negative ['i', 'n', 'f']
  | .finite negative significand power binade =>
    signed negative (plainMagnitude significand power binade)

/-- The text of a single-precision bit pattern. -/
def float32Text (bits : UInt32) : String :=
  binary32.plain bits.toNat

/-- The text of a double-precision bit pattern. -/
def float64Text (bits : UInt64) : String :=
  binary64.plain bits.toNat

end ConstantRecovery.Decimal
