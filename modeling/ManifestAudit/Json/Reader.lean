import ManifestAudit.Json.Value
import ManifestAudit.Text.Digit

/-!
# Reading JSON

A strict reader for whole texts. Beside the standard grammar it knows the
constants `NaN`, `Infinity` and `-Infinity`. Of two members with one name the
later value counts. When a text is refused, the error tells what was wrong and
where: the reader works on what is left of the text, so a place is known by the
text that starts there.
-/

namespace ManifestAudit.Json

/-- What is wrong with a text. -/
inductive Complaint where
  | byteOrderMark
  | expectingValue
  | expectingName
  | expectingColon
  | expectingComma
  | extraData
  | unterminatedString
  | controlCharacter
  | badEscape
  | badCodeEscape
  deriving Repr, DecidableEq

/-- The wording of a complaint. -/
def Complaint.message : Complaint → String
  | byteOrderMark => "Unexpected UTF-8 BOM (decode using utf-8-sig)"
  | expectingValue => "Expecting value"
  | expectingName => "Expecting property name enclosed in double quotes"
  | expectingColon => "Expecting ':' delimiter"
  | expectingComma => "Expecting ',' delimiter"
  | extraData => "Extra data"
  | unterminatedString => "Unterminated string starting at"
  | controlCharacter => "Invalid control character at"
  | badEscape => "Invalid \\escape"
  | badCodeEscape => "Invalid \\uXXXX escape"

/-- A complaint and the text from the offending place on. -/
structure Refusal where
  complaint : Complaint
  place : List Char
  deriving Repr, DecidableEq

/-- Refuse a text at a place. -/
def refuse {α : Type} (complaint : Complaint) (place : List Char) : Except Refusal α :=
  .error ⟨complaint, place⟩

/-- The blanks of the JSON grammar. -/
def isSpace (c : Char) : Bool :=
  c == ' ' || c == '\t' || c == '\n' || c == '\r'

/-- Skip blanks. -/
def skipSpace (chars : List Char) : List Char :=
  chars.dropWhile isSpace

/-- A piece of a string: a character standing for itself, or a 16-bit unit from
an escape. -/
inductive Piece where
  | char (c : Char)
  | unit (code : Nat)
  deriving Repr, DecidableEq

/-- Put the pieces of a string together, surrogate pairs as one character. A
surrogate without its partner stays a symbol of its own. -/
def joinPieces : List Piece → Text
  | [] => []
  | .char c :: rest => .char c :: joinPieces rest
  | .unit high :: .unit low :: rest =>
    if Text.isHighSurrogate high && Text.isLowSurrogate low then
      .char (Text.charOfPair high low) :: joinPieces rest
    else Text.Symbol.ofCode high :: joinPieces (.unit low :: rest)
  | .unit code :: rest => Text.Symbol.ofCode code :: joinPieces rest

/-- The character of an escape of a single letter. -/
def escapedChar? : Char → Option Char
  | '"' => some '"'
  | '\\' => some '\\'
  | '/' => some '/'
  | 'b' => some '\x08'
  | 'f' => some '\x0c'
  | 'n' => some '\n'
  | 'r' => some '\r'
  | 't' => some '\t'
  | _ => none

/-- The 16-bit unit of four hexadecimal digits. -/
def unitOfDigits? (a b c d : Char) : Option Nat := do
  let a ← Text.hexValue? a
  let b ← Text.hexValue? b
  let c ← Text.hexValue? c
  let d ← Text.hexValue? d
  return ((a * 16 + b) * 16 + c) * 16 + d

/-- Read the pieces of a string up to its closing quote; `opening` is the text
from the opening quote on. The text may not end right behind a code escape. -/
def readPieces (opening : List Char) : List Char → Except Refusal (List Piece × List Char)
  | [] => refuse .unterminatedString opening
  | c :: rest =>
    if c = '"' then .ok ([], rest)
    else if c = '\\' then
      match rest with
      | [] => refuse .unterminatedString opening
      | letter :: behind =>
        if letter = 'u' then
          match behind with
          | a :: b :: c :: d :: next :: more =>
            match unitOfDigits? a b c d with
            | some code => (readPieces opening (next :: more)).map (.map (.unit code :: ·) id)
            | none => refuse .badCodeEscape (letter :: behind)
          | _ => refuse .badCodeEscape (letter :: behind)
        else
          match escapedChar? letter with
          | some char => (readPieces opening behind).map (.map (.char char :: ·) id)
          | none => refuse .badEscape (c :: letter :: behind)
    else if c < ' ' then refuse .controlCharacter (c :: rest)
    else (readPieces opening rest).map (.map (.char c :: ·) id)

/-- Read a string, from its opening quote on. -/
def readString (opening : List Char) : Except Refusal (Text × List Char) := do
  let (pieces, rest) ← readPieces opening opening.tail
  return (joinPieces pieces, rest)

/-- A number as it is written: the digits of its parts. -/
structure Numeral where
  negative : Bool
  whole : List Char
  fraction : Option (List Char)
  exponent : Option (Bool × List Char)
  deriving Repr, DecidableEq

/-- Take a fraction, a dot with digits behind it, off the front if there is one. -/
def takeFraction (chars : List Char) : Option (List Char) × List Char :=
  match chars with
  | '.' :: rest =>
    let digits := rest.takeWhile Text.isAsciiDigit
    if digits.isEmpty then (none, chars) else (some digits, rest.dropWhile Text.isAsciiDigit)
  | _ => (none, chars)

/-- Take the digits of an exponent off the front if there are any. -/
def takeExponentDigits? (negative : Bool) (chars : List Char) :
    Option ((Bool × List Char) × List Char) :=
  let digits := chars.takeWhile Text.isAsciiDigit
  if digits.isEmpty then none
  else some ((negative, digits), chars.dropWhile Text.isAsciiDigit)

/-- Take an exponent off the front if there is one. -/
def takeExponent (chars : List Char) : Option (Bool × List Char) × List Char :=
  match chars with
  | mark :: rest =>
    if mark = 'e' ∨ mark = 'E' then
      let taken := match rest with
        | '-' :: digits => takeExponentDigits? true digits
        | '+' :: digits => takeExponentDigits? false digits
        | digits => takeExponentDigits? false digits
      match taken with
      | some (exponent, rest) => (some exponent, rest)
      | none => (none, chars)
    else (none, chars)
  | [] => (none, [])

/-- Take the whole part of a number off the front: a lone zero, or digits that
do not start with one. -/
def takeWhole? : List Char → Option (List Char × List Char)
  | [] => none
  | c :: rest =>
    if c = '0' then some (['0'], rest)
    else if Text.isAsciiDigit c then
      some (c :: rest.takeWhile Text.isAsciiDigit, rest.dropWhile Text.isAsciiDigit)
    else none

/-- Take the longest number off the front. -/
def takeNumeral? (chars : List Char) : Option (Numeral × List Char) :=
  let (negative, unsigned) := match chars with
    | '-' :: rest => (true, rest)
    | _ => (false, chars)
  (takeWhole? unsigned).map fun (whole, rest) =>
    let (fraction, rest) := takeFraction rest
    let (exponent, rest) := takeExponent rest
    (⟨negative, whole, fraction, exponent⟩, rest)

/-- The number that Latin digits write. -/
def digitsNumber (digits : List Char) : Nat :=
  digits.foldl (fun number digit => number * 10 + (digit.toNat - '0'.toNat)) 0

/-- The value of a number: an integer unless it has a fraction or an exponent. -/
def Numeral.value (numeral : Numeral) : Value :=
  match numeral.fraction, numeral.exponent with
  | none, none =>
    let magnitude : Int := digitsNumber numeral.whole
    .integer (if numeral.negative then -magnitude else magnitude)
  | fraction, exponent =>
    let fraction := fraction.getD []
    let power : Int := match exponent with
      | none => 0
      | some (true, digits) => -(digitsNumber digits : Int)
      | some (false, digits) => digitsNumber digits
    .float (Decimal.toFloat numeral.negative (digitsNumber (numeral.whole ++ fraction))
      (power - fraction.length))

/-- The named constants and their values. -/
def constants : List (List Char × Value) :=
  [("null".toList, .null), ("true".toList, .boolean true), ("false".toList, .boolean false),
    ("NaN".toList, .float (0.0 / 0.0)), ("Infinity".toList, .float (1.0 / 0.0)),
    ("-Infinity".toList, .float (-1.0 / 0.0))]

/-- Take a named constant off the front. -/
def takeConstant? (chars : List Char) : Option (Value × List Char) :=
  constants.findSome? fun (name, value) =>
    if name.isPrefixOf chars then some (value, chars.drop name.length) else none

/-- Read a constant or a number. -/
def readAtom (chars : List Char) : Except Refusal (Value × List Char) :=
  match takeConstant? chars with
  | some found => .ok found
  | none =>
    match takeNumeral? chars with
    | some (numeral, rest) => .ok (numeral.value, rest)
    | none => refuse .expectingValue chars

mutual

/-- Read a value that starts right here, nested at most about `fuel` deep and wide. -/
def readValue : Nat → List Char → Except Refusal (Value × List Char)
  | 0, chars => refuse .expectingValue chars
  | fuel + 1, chars =>
    match chars with
    | '"' :: _ => do
      let (text, rest) ← readString chars
      return (.string text, rest)
    | '[' :: rest =>
      match skipSpace rest with
      | ']' :: rest => .ok (.array [], rest)
      | rest => do
        let (items, rest) ← readItems fuel rest
        return (.array items, rest)
    | '\x7b' :: rest =>
      match skipSpace rest with
      | '\x7d' :: rest => .ok (.object [], rest)
      | rest => do
        let (members, rest) ← readMembers fuel [] rest
        return (.object members, rest)
    | _ => readAtom chars

/-- Read the items of an array, at least one, and the closing bracket. -/
def readItems : Nat → List Char → Except Refusal (List Value × List Char)
  | 0, chars => refuse .expectingValue chars
  | fuel + 1, chars => do
    let (item, rest) ← readValue fuel chars
    match skipSpace rest with
    | ']' :: rest => return ([item], rest)
    | ',' :: rest =>
      let (items, rest) ← readItems fuel (skipSpace rest)
      return (item :: items, rest)
    | rest => refuse .expectingComma rest

/-- Read the members of an object, at least one, and the closing brace, into
the members read before. -/
def readMembers : Nat → Members → List Char → Except Refusal (Members × List Char)
  | 0, _, chars => refuse .expectingValue chars
  | fuel + 1, before, chars =>
    match chars with
    | '"' :: _ => do
      let (name, rest) ← readString chars
      match skipSpace rest with
      | ':' :: rest =>
        let (value, rest) ← readValue fuel (skipSpace rest)
        let members := before.insert name value
        match skipSpace rest with
        | '\x7d' :: rest => return (members, rest)
        | ',' :: rest => readMembers fuel members (skipSpace rest)
        | rest => refuse .expectingComma rest
      | rest => refuse .expectingColon rest
    | _ => refuse .expectingName chars

end

/-- Read a whole text as one value with blanks around it. -/
def readText (chars : List Char) : Except Refusal Value :=
  match chars with
  | '\uFEFF' :: _ => .error ⟨.byteOrderMark, chars⟩
  | _ => do
    let (value, rest) ← readValue (2 * chars.length + 2) (skipSpace chars)
    match skipSpace rest with
    | [] => return value
    | rest => .error ⟨.extraData, rest⟩

/-- Why and where a text is no JSON. Lines and columns count from one, the
position from zero. -/
structure ParseError where
  complaint : Complaint
  line : Nat
  column : Nat
  position : Nat
  deriving Repr, DecidableEq

/-- The wording of a parse error. -/
def ParseError.message (error : ParseError) : String :=
  error.complaint.message ++ ": line " ++ toString error.line ++ " column " ++
    toString error.column ++ " (char " ++ toString error.position ++ ")"

/-- Locate a refusal in the text it is about. -/
def Refusal.locate (text : List Char) (refusal : Refusal) : ParseError :=
  let position := text.length - refusal.place.length
  let before := text.take position
  { complaint := refusal.complaint
    line := before.count '\n' + 1
    column := (before.reverse.takeWhile (· ≠ '\n')).length + 1
    position := position }

/-- Read a whole text. -/
def parse (text : String) : Except ParseError Value :=
  (readText text.toList).mapError (Refusal.locate text.toList)

end ManifestAudit.Json
