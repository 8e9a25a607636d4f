/-!
Contract: naturals written in a base with at least a given count of digits.

Owns: the padding with zeros, and the value of one hexadecimal digit. The digits themselves are
those of the standard library.
-/

namespace Playthrough.Text

/-- The digits of a natural in a base up to sixteen, with zeros in front up to a width. -/
def digits (base width value : Nat) : List Char :=
  let plain := Nat.toDigits base value
  List.replicate (width - plain.length) '0' ++ plain

/-- Lower-case hexadecimal digits, with zeros in front up to a width. -/
def hexadecimal (width value : Nat) : List Char :=
  digits 16 width value

/-- The value of a hexadecimal digit. -/
def hexValue? (digit : Char) : Option Nat :=
  if digit.isDigit then some (digit.toNat - '0'.toNat)
  else if 'a' ≤ digit ∧ digit ≤ 'f' then some (digit.toNat - 'a'.toNat + 10)
  else if 'A' ≤ digit ∧ digit ≤ 'F' then some (digit.toNat - 'A'.toNat + 10)
  else none

/-- At least the asked count of digits is written. -/
theorem le_length_digits (base width value : Nat) : width ≤ (digits base width value).length := by
  simp only [digits, List.length_append, List.length_replicate]
  omega

end Playthrough.Text
