import ConstantRecovery.Text.Graphic
import ConstantRecovery.Text.Hex

/-!
# Quoted text

A text literal is listed between double quotes. The quote, the backslash and the
common control characters have two-character escapes; every other character that
is hidden or an extender is written by its code point; the rest stands for itself.
-/

namespace ConstantRecovery.Text

/-- The two-character escapes, by the letter behind the backslash. -/
def shortEscapes : List (Char × Char) :=
  [('\x00', '0'), ('\t', 't'), ('\r', 'r'), ('\n', 'n'), ('"', '"'), ('\\', '\\')]

/-- One character as it is shown inside quotes. -/
def quoteChar (c : Char) : List Char :=
  match shortEscapes.lookup c with
  | some letter => ['\\', letter]
  | none =>
    if isExtender c || isHidden c then
      ['\\', 'u', '\x7b'] ++ hexDigits 1 c.toNat ++ ['\x7d']
    else [c]

/-- A text between double quotes. -/
def quoted (text : String) : String :=
  String.ofList ('"' :: text.toList.flatMap quoteChar ++ ['"'])

/-- No character disappears from a quoted text. -/
theorem quoteChar_ne_nil (c : Char) : quoteChar c ≠ [] := by
  unfold quoteChar
  split
  · simp
  · split <;> simp

end ConstantRecovery.Text
