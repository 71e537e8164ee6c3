/-!
# Binary fractions and decimal numbers

A finite double is a mantissa times a power of two. This module takes doubles
apart into that form, and reads a decimal number as the double nearest to it.
-/

namespace ManifestAudit.Decimal

/-- A power of a natural number. -/
def power (base exponent : Nat) : Nat :=
  Nat.pow base exponent

/-- A double taken apart. A finite value is `mantissa * 2 ^ exponent`, negated if
the flag is set; the flag tells the two zeros apart. -/
inductive Parts where
  | nan
  | infinite (negative : Bool)
  | finite (negative : Bool) (mantissa : Nat) (exponent : Int)
  deriving Repr, DecidableEq

/-- Take apart the 64 bits of a double: a sign, eleven bits of biased exponent
and a fraction whose leading one is implied except in the lowest binade. -/
def Parts.ofBits (bits : Nat) : Parts :=
  let negative := bits / power 2 63 % 2 == 1
  let biased := bits / power 2 52 % power 2 11
  let fraction := bits % power 2 52
  if biased = 2047 then if fraction = 0 then .infinite negative else .nan
  else if biased = 0 then .finite negative fraction (-1074)
  else .finite negative (power 2 52 + fraction) (Int.ofNat biased - 1075)

/-- Take a double apart. -/
def Parts.ofFloat (x : Float) : Parts :=
  Parts.ofBits x.toBits.toNat

/-- The integer that a double is, if it is one. -/
def Parts.toInt? : Parts → Option Int
  | nan | infinite _ => none
  | finite negative mantissa exponent =>
    let signed (magnitude : Nat) : Int := if negative then -magnitude else magnitude
    if 0 ≤ exponent then some (signed (mantissa * power 2 exponent.toNat))
    else
      let divisor := power 2 (-exponent).toNat
      if mantissa % divisor = 0 then some (signed (mantissa / divisor)) else none

/-- Negate a double if the flag is set. -/
def signed (negative : Bool) (magnitude : Float) : Float :=
  if negative then -magnitude else magnitude

/-- The double nearest to `digits * 10 ^ exponent`, negated if the flag is set.
Values beyond 10 ^ 400 are infinite and values below 10 ^ (-400) are zero. -/
def toFloat (negative : Bool) (digits : Nat) (exponent : Int) : Float :=
  let length : Int := (Nat.toDigits 10 digits).length
  if digits = 0 ∨ length + exponent < -400 then signed negative 0.0
  else if 400 < length + exponent then signed negative (Float.ofBits 0x7FF0000000000000)
  else signed negative (Float.ofScientific digits (exponent < 0) exponent.natAbs)

end ManifestAudit.Decimal
