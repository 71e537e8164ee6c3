import ManifestAudit.Decimal.Binary

/-!
# The shortest decimal of a double

`shortest` finds the decimal with the fewest digits that reads back as a given
double, and among those the one nearest to it. All comparisons are between
natural numbers, so the search is exact. `Format` holds the choices left when
such a decimal is written down.
-/

namespace ManifestAudit.Decimal

/-- A decimal number: `digits * 10 ^ exponent`. -/
structure Scaled where
  digits : Nat
  exponent : Int
  deriving Repr, DecidableEq

/-- Compare `left * 10 ^ ten` with `right * 2 ^ two`. -/
def compareScaled (left : Nat) (ten : Int) (right : Nat) (two : Int) : Ordering :=
  compare (left * power 10 ten.toNat * power 2 (-two).toNat)
    (right * power 2 two.toNat * power 10 (-ten).toNat)

/-- The numbers that are read as one double, in units of `2 ^ exponent`. The
ends belong to the interval when the double's mantissa is even. -/
structure Interval where
  low : Nat
  middle : Nat
  high : Nat
  exponent : Int
  closed : Bool
  deriving Repr, DecidableEq

namespace Interval

/-- The interval around `mantissa * 2 ^ exponent`. Below a power of two the
neighbour is only half as far away, except in the lowest binade. -/
def around (mantissa : Nat) (exponent : Int) : Interval :=
  let step := if mantissa = power 2 52 ∧ exponent ≠ -1074 then 1 else 2
  ⟨4 * mantissa - step, 4 * mantissa, 4 * mantissa + 2, exponent - 2, mantissa % 2 == 0⟩

/-- Whether a decimal lies in the interval. -/
def contains (interval : Interval) (decimal : Scaled) : Bool :=
  let low := compareScaled decimal.digits decimal.exponent interval.low interval.exponent
  let high := compareScaled decimal.digits decimal.exponent interval.high interval.exponent
  (low == .gt || interval.closed && low == .eq) && (high == .lt || interval.closed && high == .eq)

/-- The greatest multiple of `10 ^ exponent` that is not above the middle. -/
def floor (interval : Interval) (exponent : Int) : Scaled :=
  ⟨interval.middle * power 2 interval.exponent.toNat * power 10 (-exponent).toNat /
    (power 10 exponent.toNat * power 2 (-interval.exponent).toNat), exponent⟩

/-- Of a decimal and the next on its grid, the one nearer to the middle, which
lies between them. Half way, the even one. -/
def nearer (interval : Interval) (decimal : Scaled) : Scaled :=
  let next : Scaled := ⟨decimal.digits + 1, decimal.exponent⟩
  match compareScaled (2 * decimal.digits + 1) decimal.exponent (2 * interval.middle)
      interval.exponent with
  | .lt => next
  | .gt => decimal
  | .eq => if decimal.digits % 2 = 0 then decimal else next

/-- A decimal of the interval on the grid of multiples of `10 ^ exponent`, if
there is one: the nearest to the middle. -/
def onGrid? (interval : Interval) (exponent : Int) : Option Scaled :=
  let decimal := interval.floor exponent
  let next : Scaled := ⟨decimal.digits + 1, exponent⟩
  match interval.contains decimal, interval.contains next with
  | true, true => some (interval.nearer decimal)
  | true, false => some decimal
  | false, true => some next
  | false, false => none

/-- The least `point` from the given one on, within `fuel` steps, with the
middle below `10 ^ point`. -/
def pointFrom (interval : Interval) : Nat → Int → Int
  | 0, point => point
  | fuel + 1, point =>
    match compareScaled 1 point interval.middle interval.exponent with
    | .gt => point
    | _ => pointFrom interval fuel (point + 1)

/-- Where the decimal point of the middle stands: the middle is below
`10 ^ point`, and not below `10 ^ (point - 1)`. The binary exponent gives a start
that is at most a few places too low. -/
def point (interval : Interval) : Int :=
  let binary : Int := interval.middle.log2 + interval.exponent
  pointFrom interval 8 (Int.fdiv (binary * 30103) 100000 - 1)

end Interval

/-- The shortest decimal that reads back as `mantissa * 2 ^ exponent`, a nonzero
double, and the nearest to it of that length. The first grid holds the power of
ten above the middle, which a middle just below it may round to. Seventeen digits
always suffice. -/
def shortest (mantissa : Nat) (exponent : Int) : Scaled :=
  let interval := Interval.around mantissa exponent
  let point := interval.point
  let grids := (List.range 18).map fun count => point - Int.ofNat count
  (grids.findSome? interval.onGrid?).getD (interval.floor (point - 17))

/-- How a double is written. -/
structure Format where
  /-- The text of a value that is no number. -/
  nan : String
  /-- The text of positive infinity. -/
  infinity : String
  /-- The decimal point may stand this many places left of the digits, at most,
  before an exponent is written. -/
  leastPoint : Int
  /-- The decimal point may stand this many places into the digits, at most,
  before an exponent is written. -/
  greatestPoint : Int
  /-- The least number of digits of an exponent. -/
  exponentWidth : Nat

/-- Digits with zeros in front up to a width. -/
def padZeros (width : Nat) (digits : List Char) : List Char :=
  List.replicate (width - digits.length) '0' ++ digits

/-- Write digits whose decimal point stands `point` places into them. -/
def Format.writeDigits (format : Format) (digits : List Char) (point : Int) : List Char :=
  if format.leastPoint ≤ point ∧ point ≤ format.greatestPoint then
    if point ≤ 0 then '0' :: '.' :: List.replicate (-point).toNat '0' ++ digits
    else if digits.length ≤ point.toNat then
      digits ++ List.replicate (point.toNat - digits.length) '0' ++ ['.', '0']
    else digits.take point.toNat ++ '.' :: digits.drop point.toNat
  else
    let power := point - 1
    let sign := if power < 0 then '-' else '+'
    let mantissa := match digits with
      | [] => []
      | [digit] => [digit]
      | digit :: more => digit :: '.' :: more
    mantissa ++ 'e' :: sign :: padZeros format.exponentWidth (Nat.toDigits 10 power.natAbs)

/-- Write a double with its shortest digits. -/
def Format.write (format : Format) (x : Float) : String :=
  let signed (negative : Bool) (text : String) : String :=
    if negative then "-" ++ text else text
  match Parts.ofFloat x with
  | .nan => format.nan
  | .infinite negative => signed negative format.infinity
  | .finite negative mantissa exponent =>
    if mantissa = 0 then signed negative "0.0"
    else
      let decimal := shortest mantissa exponent
      let digits := Nat.toDigits 10 decimal.digits
      signed negative <| String.ofList <|
        format.writeDigits digits (Int.ofNat digits.length + decimal.exponent)

end ManifestAudit.Decimal
