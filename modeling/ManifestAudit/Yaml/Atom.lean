import ManifestAudit.Json.Value
import ManifestAudit.Text.Hex
import ManifestAudit.Yaml.Moment

/-!
# Atoms

The values without parts: what a scalar can be, and all that can be a key. Every
atom has a text, which is what a setting takes from it, and counts as true or
false. Numbers and truth values are the same key where they are the same number.
-/

namespace ManifestAudit.Yaml

/-- A value without parts. -/
inductive Atom where
  | null
  | boolean (value : Bool)
  | integer (value : Int)
  | float (value : Float)
  /-- The value of the words for what is no number. Unlike such a value that was
  computed, it is the same wherever it stands. -/
  | notNumber
  | text (text : Text)
  | date (date : Date)
  | timestamp (time : Timestamp)
  | binary (bytes : List UInt8)
  deriving Inhabited

/-- Show one byte within quotes. -/
def byteChars (mark : Char) (byte : UInt8) : List Char :=
  let c := Char.ofNat byte.toNat
  if c = mark ∨ c = '\\' then ['\\', c]
  else if c = '\n' then ['\\', 'n']
  else if c = '\r' then ['\\', 'r']
  else if c = '\t' then ['\\', 't']
  else if 0x20 ≤ byte.toNat ∧ byte.toNat < 0x7F then [c]
  else '\\' :: 'x' :: Text.hex 2 byte.toNat

/-- Show bytes in quotes. -/
def bytesText (bytes : List UInt8) : String :=
  let mark := Text.quoteMark (bytes.map fun byte => .char (Char.ofNat byte.toNat))
  String.ofList ('b' :: mark :: bytes.flatMap (byteChars mark) ++ [mark])

namespace Atom

/-- How an atom is shown within a collection. -/
def display : Atom → String
  | null => "None"
  | boolean true => "True"
  | boolean false => "False"
  | integer value => toString value
  | float value => Json.floatFormat.write value
  | notNumber => Json.floatFormat.nan
  | text symbols => Text.quoted symbols
  | date day => day.display
  | timestamp time => time.display
  | binary bytes => bytesText bytes

/-- The text of an atom: texts and dates speak for themselves, all else is shown. -/
def plainText : Atom → Text
  | text symbols => symbols
  | date day => day.text
  | timestamp time => time.text
  | atom => atom.display

/-- Whether an atom counts as true: null, false, zero and what is empty do not. -/
def isTruthy : Atom → Bool
  | null => false
  | boolean value => value
  | integer value => value != 0
  | float value => !(value == 0.0)
  | notNumber => true
  | text symbols => !symbols.isEmpty
  | date _ => true
  | timestamp _ => true
  | binary bytes => !bytes.isEmpty

/-- The whole number that an atom equals, if any. -/
def toInt? : Atom → Option Int
  | boolean value => some (if value then 1 else 0)
  | integer value => some value
  | float value => (Decimal.Parts.ofFloat value).toInt?
  | _ => none

/-- Whether two atoms are equal. Numbers and truth values are compared by their
numeric value; a computed value that is no number equals nothing. -/
def same (left right : Atom) : Bool :=
  match left.toInt?, right.toInt? with
  | some left, some right => left == right
  | none, none =>
    match left, right with
    | null, null => true
    | float left, float right => left == right
    | notNumber, notNumber => true
    | text left, text right => left == right
    | date left, date right => left == right
    | timestamp left, timestamp right => left.same right
    | binary left, binary right => left == right
    | _, _ => false
  | _, _ => false

end Atom

end ManifestAudit.Yaml
