import ManifestAudit.Text.Digit
import ManifestAudit.Text.Hex
import ManifestAudit.Text.Symbol

/-!
# Tags

A tag says what kind of value a node writes. A plain scalar without a tag gets
one from its shape; the shapes of null, truth values, numbers and dates are those
of YAML 1.1, and everything else is text.
-/

namespace ManifestAudit.Yaml.Tag

/-- What the names of the standard tags begin with. -/
def standard (name : String) : String :=
  "tag:yaml.org,2002:" ++ name

/-- The tag of null. -/
def null : String := standard "null"

/-- The tag of truth values. -/
def boolean : String := standard "bool"

/-- The tag of integers. -/
def integer : String := standard "int"

/-- The tag of fractional numbers. -/
def float : String := standard "float"

/-- The tag of dates and times. -/
def timestamp : String := standard "timestamp"

/-- The tag of a key that merges a mapping into another. -/
def merge : String := standard "merge"

/-- The tag of a key that stands for a mapping's own value. -/
def ownValue : String := standard "value"

/-- The tag of a lone indicator, which no value has. -/
def indicator : String := standard "yaml"

/-- The tag of texts. -/
def text : String := standard "str"

/-- The tag of sequences. -/
def sequence : String := standard "seq"

/-- The tag of mappings. -/
def mapping : String := standard "map"

/-- The tag of bytes. -/
def binary : String := standard "binary"

/-- The tag of sets. -/
def set : String := standard "set"

/-- The tag of mappings that keep an order. -/
def orderedMapping : String := standard "omap"

/-- The tag of lists of pairs. -/
def pairs : String := standard "pairs"

/-! ## Shapes of plain scalars -/

/-- The spellings of null. -/
def nullWords : List String :=
  ["~", "null", "Null", "NULL", ""]

/-- The spellings of truth and falsehood. -/
def booleanWords : List String :=
  ["yes", "Yes", "YES", "no", "No", "NO", "true", "True", "TRUE", "false", "False", "FALSE",
    "on", "On", "ON", "off", "Off", "OFF"]

/-- Drop one sign at the front. -/
def unsigned (chars : List Char) : List Char :=
  match chars with
  | '-' :: rest => rest
  | '+' :: rest => rest
  | _ => chars

/-- A digit, or the underscore that may be put between digits. -/
def isDigitOrLine (c : Char) : Bool :=
  Text.isAsciiDigit c || c == '_'

/-- One or two digits that are less than sixty. -/
def isSixtieth : List Char → Bool
  | [c] => Text.isAsciiDigit c
  | [c, d] => '0' ≤ c && c ≤ '5' && Text.isAsciiDigit d
  | _ => false

/-- Cut off the sixtieths in front, each behind a colon, at most `fuel`; tells
whether there was at least one. -/
def dropSixtieths : Nat → List Char → Bool × List Char
  | fuel + 1, ':' :: rest =>
    let digits := rest.takeWhile Text.isAsciiDigit
    if isSixtieth digits then (true, (dropSixtieths fuel (rest.dropWhile Text.isAsciiDigit)).2)
    else (false, ':' :: rest)
  | _, chars => (false, chars)

/-- A digit other than zero, with digits and underscores behind it and then
nothing or sixtieths. -/
def isDecimalInteger (chars : List Char) : Bool :=
  match chars with
  | c :: rest =>
    Text.isAsciiDigit c && c != '0' &&
      match rest.dropWhile isDigitOrLine with
      | [] => true
      | behind => (dropSixtieths behind.length behind).2.isEmpty
  | [] => false

/-- The shape of an integer: binary, octal, decimal, hexadecimal or to base sixty. -/
def isInteger (chars : List Char) : Bool :=
  match unsigned chars with
  | ['0'] => true
  | '0' :: 'b' :: rest => !rest.isEmpty && rest.all fun c => c == '0' || c == '1' || c == '_'
  | '0' :: 'x' :: rest => !rest.isEmpty && rest.all fun c => (Text.hexValue? c).isSome || c == '_'
  | '0' :: rest => !rest.isEmpty && rest.all fun c => ('0' ≤ c && c ≤ '7') || c == '_'
  | digits => isDecimalInteger digits

/-- Nothing, or an exponent with its sign. -/
def isExponent (chars : List Char) : Bool :=
  match chars with
  | [] => true
  | mark :: sign :: digits =>
    (mark == 'e' || mark == 'E') && (sign == '-' || sign == '+') &&
      !digits.isEmpty && digits.all Text.isAsciiDigit
  | _ => false

/-- Digits and a fraction: a decimal point, digits behind it, and an exponent. -/
def isPointed (chars : List Char) : Bool :=
  match chars with
  | c :: rest =>
    Text.isAsciiDigit c &&
      match rest.dropWhile isDigitOrLine with
      | '.' :: fraction => isExponent (fraction.dropWhile isDigitOrLine)
      | behind =>
        match dropSixtieths behind.length behind with
        | (true, '.' :: fraction) => fraction.all isDigitOrLine
        | _ => false
  | [] => false

/-- The shape of a fractional number. -/
def isFloat (chars : List Char) : Bool :=
  isPointed (unsigned chars) ||
    [".inf", ".Inf", ".INF"].contains (String.ofList (unsigned chars)) ||
    [".nan", ".NaN", ".NAN"].contains (String.ofList chars) ||
    match chars with
    | '.' :: c :: rest => Text.isAsciiDigit c && isExponent (rest.dropWhile isDigitOrLine)
    | _ => false

/-- Take between `least` and `most` digits off the front. -/
def takeDigits? (least most : Nat) (chars : List Char) : Option (List Char × List Char) :=
  let digits := (chars.take most).takeWhile Text.isAsciiDigit
  if least ≤ digits.length then some (digits, chars.drop digits.length) else none

/-- The parts of a date, with a time of day perhaps. -/
structure Moment where
  year : List Char
  month : List Char
  day : List Char
  time : Option (List Char × List Char × List Char)
  /-- The digits of a fraction of a second. -/
  fraction : List Char
  /-- The offset from universal time, if one is written: a sign, hours and minutes. -/
  zone : Option (Bool × List Char × List Char)
  deriving Repr, DecidableEq

/-- The blanks between the parts of a moment. -/
def isGap (c : Char) : Bool :=
  c == ' ' || c == '\t'

/-- Read a time zone up to the end of a text. -/
def zone? (chars : List Char) : Option (Option (Bool × List Char × List Char)) :=
  match chars.dropWhile isGap with
  | [] => if chars.isEmpty then some none else none
  | ['Z'] => some (some (false, [], []))
  | sign :: rest =>
    if sign = '-' ∨ sign = '+' then do
      let (hours, rest) ← takeDigits? 1 2 rest
      match rest with
      | [] => some (some (sign == '-', hours, []))
      | ':' :: rest =>
        match takeDigits? 2 2 rest with
        | some (minutes, []) => some (some (sign == '-', hours, minutes))
        | _ => none
      | _ => none
    else none

/-- Take a character off the front. -/
def takeChar? (c : Char) (chars : List Char) : Option (List Char) :=
  match chars with
  | d :: rest => if d = c then some rest else none
  | [] => none

/-- Read a date, or a date and a time, up to the end of a text. A date alone must
have two digits each for month and day if `strict` is set. -/
def moment? (strict : Bool) (chars : List Char) : Option Moment := do
  let (year, rest) ← takeDigits? 4 4 chars
  let rest ← takeChar? '-' rest
  let (month, rest) ← takeDigits? 1 2 rest
  let rest ← takeChar? '-' rest
  let (day, rest) ← takeDigits? 1 2 rest
  match rest with
  | [] =>
    if strict ∧ ¬ (month.length = 2 ∧ day.length = 2) then none
    else some ⟨year, month, day, none, [], none⟩
  | c :: behind =>
    let time ← if c = 'T' ∨ c = 't' then some behind
      else if isGap c then some (behind.dropWhile isGap) else none
    let (hour, rest) ← takeDigits? 1 2 time
    let rest ← takeChar? ':' rest
    let (minute, rest) ← takeDigits? 2 2 rest
    let rest ← takeChar? ':' rest
    let (second, rest) ← takeDigits? 2 2 rest
    let (fraction, rest) := match rest with
      | '.' :: digits => (digits.takeWhile Text.isAsciiDigit, digits.dropWhile Text.isAsciiDigit)
      | _ => ([], rest)
    let zone ← zone? rest
    some ⟨year, month, day, some (hour, minute, second), fraction, zone⟩

/-- The tag that plain characters get from their shape. A line feed at the end
does not count. -/
def ofPlainChars (chars : List Char) : String :=
  let chars := if chars.length ≠ 1 ∧ chars.getLast? = some '\n' then chars.dropLast else chars
  let word := String.ofList chars
  if booleanWords.contains word then boolean
  else if isFloat chars then float
  else if isInteger chars then integer
  else if word = "<<" then merge
  else if nullWords.contains word then null
  else if (moment? true chars).isSome then timestamp
  else if word = "=" then ownValue
  else if ["!", "&", "*"].contains word then indicator
  else text

/-- The tag that a plain scalar gets from its shape. Every shape but that of texts
consists of characters. -/
def ofPlain (scalar : Text) : String :=
  match Text.toChars? scalar with
  | some chars => ofPlainChars chars
  | none => text

end ManifestAudit.Yaml.Tag
