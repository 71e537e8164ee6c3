import ManifestAudit.Association
import ManifestAudit.Decimal.Shortest
import ManifestAudit.Text.Quoted

/-!
# JSON values

Documents are JSON values. Integers are unbounded and kept apart from
fractional numbers. The members of an object stand in the order of their first
appearance, each name once.
-/

namespace ManifestAudit.Json

/-- A JSON value. -/
inductive Value where
  | null
  | boolean (value : Bool)
  | integer (value : Int)
  | float (value : Float)
  | string (text : Text)
  | array (items : List Value)
  | object (members : List (Text × Value))
  deriving Inhabited

/-- The members of an object. -/
abbrev Members := List (Text × Value)

namespace Members

/-- The value under a name. -/
def get? (members : Members) (name : Text) : Option Value :=
  Association.get? (· == ·) name members

/-- Put a value under a name: in place if the name is there already, at the end if not. -/
def insert (members : Members) (name : Text) (value : Value) : Members :=
  Association.put (· == ·) name value members

end Members

/-- How numbers are written in messages and in JSON texts: the shortest digits,
positional from `0.0001` up to below `10 ^ 16`, else with a signed exponent of at
least two digits. -/
def floatFormat : Decimal.Format where
  nan := "nan"
  infinity := "inf"
  leastPoint := -3
  greatestPoint := 16
  exponentWidth := 2

namespace Value

/-- Whether the value is the null value. -/
def isNull : Value → Bool
  | null => true
  | _ => false

/-- The text of a string value. -/
def text? : Value → Option Text
  | string text => some text
  | _ => none

mutual

/-- Show a value in a message: strings are quoted, and the three constants are
`None`, `True` and `False`. -/
def display : Value → String
  | null => "None"
  | boolean true => "True"
  | boolean false => "False"
  | integer value => toString value
  | float value => floatFormat.write value
  | string text => Text.quoted text
  | array items => "[" ++ ", ".intercalate (displayItems items) ++ "]"
  | object members => "\x7b" ++ ", ".intercalate (displayMembers members) ++ "\x7d"

/-- Show each item of an array. -/
def displayItems : List Value → List String
  | [] => []
  | item :: items => item.display :: displayItems items

/-- Show each member of an object with its name. -/
def displayMembers : List (Text × Value) → List String
  | [] => []
  | member :: members => displayMember member :: displayMembers members

/-- Show one member with its name. -/
def displayMember : Text × Value → String
  | (name, value) => Text.quoted name ++ ": " ++ value.display

end

end Value

end ManifestAudit.Json
