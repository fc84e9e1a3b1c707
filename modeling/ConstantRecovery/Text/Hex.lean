/-!
# Hexadecimal text

Offsets, tokens and word patterns are written in base sixteen with a least
number of places. A number that needs more places than that keeps all of them.
-/

namespace ConstantRecovery.Text

/-- The digits of `number` in base sixteen, with zeros in front up to `places` of them. -/
def hexDigits (places number : Nat) : List Char :=
  let digits := Nat.toDigits 16 number
  List.replicate (places - digits.length) '0' ++ digits

/-- Hexadecimal text with lower-case digits. -/
def hexLower (places number : Nat) : String :=
  String.ofList (hexDigits places number)

/-- Hexadecimal text with upper-case digits. -/
def hexUpper (places number : Nat) : String :=
  String.ofList ((hexDigits places number).map Char.toUpper)

/-- The name of a code offset: `IL_` and at least four places. -/
def offsetLabel (offset : Nat) : String :=
  "IL_" ++ hexLower 4 offset

/-- Padding never shortens a number below the places asked for. -/
theorem le_length_hexDigits (places number : Nat) :
    places ≤ (hexDigits places number).length := by
  simp only [hexDigits, List.length_append, List.length_replicate]
  omega

end ConstantRecovery.Text
