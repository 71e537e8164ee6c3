import ManifestAudit.Text.Blank
import ManifestAudit.Text.Lowercase
import ManifestAudit.Yaml.Atom
import ManifestAudit.Yaml.Tag

/-!
# Reading atoms

A scalar's tag decides how its text is read. Tags that come from the shape of a
plain scalar nearly always fit; a tag that is written out may promise what the
text does not keep.
-/

namespace ManifestAudit.Yaml.Atom

/-! ## Numbers -/

/-- A blank that may stand around a number. The control separators may not. -/
def isNumberBlank (c : Char) : Bool :=
  Text.isBlank c && !(0x1C ≤ c.toNat && c.toNat ≤ 0x1F)

/-- A decimal digit of any script as a Latin one; other characters stay. -/
def latinDigit (c : Char) : Char :=
  match Text.digitValue? c with
  | some value => Text.hexDigit value
  | none => c

/-- The characters of a number without the blanks around it, its digits Latin ones. -/
def numeral (chars : List Char) : List Char :=
  (Text.dropEnds isNumberBlank chars).map latinDigit

/-- The letters that mark a base behind a leading zero. -/
def baseMarks (base : Nat) : List Char :=
  if base = 2 then ['b', 'B'] else if base = 8 then ['o', 'O']
  else if base = 16 then ['x', 'X'] else []

/-- The number that digits write to a base. -/
def natOfDigits? (base : Nat) (digits : List Char) : Option Nat :=
  if digits.isEmpty then none
  else
    digits.foldl (fun number? digit => do
      let number ← number?
      let value ← Text.hexValue? digit
      if value < base then some (number * base + value) else none) (some 0)

/-- The integer that characters write to a base, blanks around it and the mark of
the base set aside. -/
def intOfChars? (base : Nat) (chars : List Char) : Option Int :=
  let written := numeral chars
  let digits := match Tag.unsigned written with
    | '0' :: c :: rest => if (baseMarks base).contains c then rest else '0' :: c :: rest
    | digits => digits
  (natOfDigits? base digits).map fun number =>
    if written.head? == some '-' then -(number : Int) else number

/-- The integer that a text writes to a base. -/
def intOfText (base : Nat) (text : Text) : Except Fault Int :=
  match (Text.toChars? text).bind (intOfChars? base) with
  | some number => .ok number
  | none => .error (.notInteger base text)

/-- The text without the underscores that group its digits. -/
def ungrouped (text : Text) : Text :=
  text.filter (· ≠ .char '_')

/-- Whether a text starts with a minus sign, and the text behind its sign; an
empty text is no number at all. -/
def splitSign (text : Text) : Except Fault (Bool × Text) :=
  match text with
  | [] => .error .emptyNumber
  | .char '-' :: rest => .ok (true, rest)
  | .char '+' :: rest => .ok (false, rest)
  | _ => .ok (false, text)

/-- Read an integer: binary, octal, decimal, hexadecimal or to base sixty. -/
def readInteger (text : Text) : Except Fault Atom := do
  let (negative, digits) ← splitSign (ungrouped text)
  let magnitude ← match digits with
    | [] => .error .emptyNumber
    | [.char '0'] => .ok 0
    | .char '0' :: .char 'b' :: rest => intOfText 2 rest
    | .char '0' :: .char 'x' :: rest => intOfText 16 rest
    | .char '0' :: _ => intOfText 8 digits
    | _ =>
      if digits.contains (.char ':') then do
        let parts ← (Text.split (.char ':') digits).mapM (intOfText 10)
        pure (parts.foldl (fun number part => number * 60 + part) 0)
      else intOfText 10 digits
  return .integer (if negative then -magnitude else magnitude)

/-- The fractional number that characters in lower case write in decimals, or by
one of the names of infinity and of what is no number. -/
def floatOfChars? (chars : List Char) : Option Float :=
  let written := numeral chars
  let negative := written.head? == some '-'
  let unsigned := Tag.unsigned written
  let word := String.ofList unsigned
  if word = "inf" ∨ word = "infinity" then some (Decimal.signed negative (1.0 / 0.0))
  else if word = "nan" then some (0.0 / 0.0)
  else
    let whole := unsigned.takeWhile Text.isAsciiDigit
    let (fraction, behind) := match unsigned.dropWhile Text.isAsciiDigit with
      | '.' :: rest => (rest.takeWhile Text.isAsciiDigit, rest.dropWhile Text.isAsciiDigit)
      | rest => ([], rest)
    let exponent? : Option Int := match behind with
      | [] => some 0
      | mark :: rest =>
        let digits := Tag.unsigned rest
        if mark = 'e' ∧ ¬ digits.isEmpty ∧ digits.all Text.isAsciiDigit then
          let magnitude : Int := Text.decimalNumber digits
          some (if rest.head? == some '-' then -magnitude else magnitude)
        else none
    match exponent?, whole ++ fraction with
    | none, _ | _, [] => none
    | some exponent, digits =>
      some (Decimal.toFloat negative (Text.decimalNumber digits) (exponent - fraction.length))

/-- The fractional number that a text in lower case writes. -/
def floatOfText (text : Text) : Except Fault Float :=
  match (Text.toChars? text).bind floatOfChars? with
  | some number => .ok number
  | none => .error (.notNumber text)

/-- Add up sixtieths, the last of them first; `base` is the worth of the next.
The worth itself must be within the range of fractional numbers. -/
def sumSixtieths (sum : Float) (base : Nat) : List Float → Except Fault Float
  | [] => .ok sum
  | part :: parts =>
    if Decimal.power 2 1024 ≤ base then .error .numberTooLarge
    else sumSixtieths (sum + part * Float.ofNat base) (base * 60) parts

/-- Read a fractional number. -/
def readFloat (text : Text) : Except Fault Atom := do
  let (negative, digits) ← splitSign (Text.lowercase (ungrouped text))
  let signed (value : Float) : Atom := .float (if negative then -1.0 * value else value)
  if digits = Text.ofString ".inf" then return signed (1.0 / 0.0)
  else if digits = Text.ofString ".nan" then return .notNumber
  else if digits.contains (.char ':') then
    let parts ← (Text.split (.char ':') digits).mapM floatOfText
    return signed (← sumSixtieths 0.0 1 parts.reverse)
  else return signed (← floatOfText digits)

/-! ## Truth values -/

/-- Read a truth value. -/
def readBoolean (text : Text) : Except Fault Atom :=
  let isOneOf (words : List String) : Bool :=
    (words.map Text.ofString).contains (Text.lowercase text)
  if isOneOf ["yes", "true", "on"] then .ok (.boolean true)
  else if isOneOf ["no", "false", "off"] then .ok (.boolean false)
  else .error (.notBoolean text)

/-! ## Days and times -/

/-- Check that a day exists. -/
def checkDate (date : Date) : Except MomentFault Unit :=
  if date.year < 1 ∨ 9999 < date.year then .error (.year date.year)
  else if date.month < 1 ∨ 12 < date.month then .error .month
  else if date.day < 1 ∨ Date.monthLength date.year date.month < date.day then .error .day
  else .ok ()

/-- Check that a time of day exists. -/
def checkClock (hour minute second : Nat) : Except MomentFault Unit :=
  if 23 < hour then .error .hour
  else if 59 < minute then .error .minute
  else if 59 < second then .error .second
  else .ok ()

/-- The offset from universal time that a zone writes, in seconds. -/
def zoneOffset (zone : Bool × List Char × List Char) : Except MomentFault Int :=
  let (negative, hours, minutes) := zone
  let magnitude : Int := Text.decimalNumber hours * 3600 + Text.decimalNumber minutes * 60
  let seconds := if negative then -magnitude else magnitude
  if 86400 ≤ magnitude then .error (.offset seconds) else .ok seconds

/-- The day or time that the parts of a text name. -/
def readMoment (moment : Tag.Moment) : Except MomentFault Atom := do
  let date : Date := ⟨Text.decimalNumber moment.year, Text.decimalNumber moment.month,
    Text.decimalNumber moment.day⟩
  match moment.time with
  | none =>
    checkDate date
    return .date date
  | some (hour, minute, second) =>
    let (hour, minute, second) :=
      (Text.decimalNumber hour, Text.decimalNumber minute, Text.decimalNumber second)
    let fraction := moment.fraction.take 6
    let microsecond :=
      Text.decimalNumber (fraction ++ List.replicate (6 - fraction.length) '0')
    let offset ← match moment.zone with
      | none => pure none
      | some zone => do pure (some (← zoneOffset zone))
    checkDate date
    checkClock hour minute second
    return .timestamp ⟨date, hour, minute, second, microsecond, offset⟩

/-- Read a day or time. A line feed at its end does not count. -/
def readTimestamp (text : Text) : Except Fault Atom :=
  let chars := (Text.toChars? text).getD []
  let chars := if chars.getLast? = some '\n' then chars.dropLast else chars
  match Tag.moment? false chars with
  | none => .error (.notTimestamp text)
  | some moment => (readMoment moment).mapError .noMoment

/-! ## Bytes -/

/-- The value of a character of the alphabet that writes bytes, six bits each. -/
def sixBits? (c : Char) : Option Nat :=
  if 'A' ≤ c ∧ c ≤ 'Z' then some (c.toNat - 'A'.toNat)
  else if 'a' ≤ c ∧ c ≤ 'z' then some (c.toNat - 'a'.toNat + 26)
  else if '0' ≤ c ∧ c ≤ '9' then some (c.toNat - '0'.toNat + 52)
  else if c = '+' then some 62
  else if c = '/' then some 63
  else none

/-- Gather bytes from six bits at a time; `count` of the four places of a group
are filled, and `held` are the bits not yet given out. Padding ends the text once
it completes a group, and other characters are passed over. -/
def gatherBytes (count held padding : Nat) : List Char → Option (List UInt8)
  | [] => if count = 0 then some [] else none
  | c :: rest =>
    if c = '=' then
      if 2 ≤ count ∧ 4 ≤ count + padding + 1 then some []
      else gatherBytes count held (if 2 ≤ count then padding + 1 else padding) rest
    else
      match sixBits? c with
      | none => gatherBytes count held padding rest
      | some value =>
        match count with
        | 0 => gatherBytes 1 value 0 rest
        | 1 =>
          (gatherBytes 2 (value % 16) 0 rest).map (UInt8.ofNat (held * 4 + value / 16) :: ·)
        | 2 =>
          (gatherBytes 3 (value % 4) 0 rest).map (UInt8.ofNat (held * 16 + value / 4) :: ·)
        | _ => (gatherBytes 0 0 0 rest).map (UInt8.ofNat (held * 64 + value) :: ·)

/-- Read bytes that are written with sixty-four characters. -/
def readBinary (text : Text) : Except Fault Atom :=
  match Text.toChars? text with
  | none => .error .malformed
  | some chars =>
    if chars.any (0x80 ≤ ·.toNat) then .error .malformed
    else
      match gatherBytes 0 0 0 chars with
      | some bytes => .ok (.binary bytes)
      | none => .error .malformed

/-! ## Scalars -/

/-- Read the text of a scalar as its tag asks for. -/
def ofText (tag : String) (text : Text) : Except Fault Atom :=
  if tag = Tag.text then .ok (.text text)
  else if tag = Tag.null then .ok .null
  else if tag = Tag.boolean then readBoolean text
  else if tag = Tag.integer then readInteger text
  else if tag = Tag.float then readFloat text
  else if tag = Tag.timestamp then readTimestamp text
  else if tag = Tag.binary then readBinary text
  else .error .malformed

end ManifestAudit.Yaml.Atom
