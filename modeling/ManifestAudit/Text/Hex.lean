/-!
# Hexadecimal digits

Digits of escapes: written in lower case with a fixed width, read in either case.
-/

namespace ManifestAudit.Text

/-- The hexadecimal digits in order. -/
def hexDigits : List Char :=
  "0123456789abcdef".toList

/-- The digit that writes the remainder of a number modulo sixteen. -/
def hexDigit (value : Nat) : Char :=
  hexDigits.getD (value % 16) '0'

/-- The value of a hexadecimal digit of either case. -/
def hexValue? (c : Char) : Option Nat :=
  if '0' ≤ c ∧ c ≤ '9' then some (c.toNat - '0'.toNat)
  else if 'a' ≤ c ∧ c ≤ 'f' then some (c.toNat - 'a'.toNat + 10)
  else if 'A' ≤ c ∧ c ≤ 'F' then some (c.toNat - 'A'.toNat + 10)
  else none

/-- The lowest `width` hexadecimal digits of a number, highest first. -/
def hex : Nat → Nat → List Char
  | 0, _ => []
  | width + 1, value => hex width (value / 16) ++ [hexDigit value]

/-- Read exactly `width` hexadecimal digits off the front. -/
def takeHex? (width : Nat) (chars : List Char) : Option (Nat × List Char) :=
  let digits := chars.take width
  if digits.length = width then
    (digits.mapM hexValue?).map fun values =>
      (values.foldl (fun number value => number * 16 + value) 0, chars.drop width)
  else none

end ManifestAudit.Text
