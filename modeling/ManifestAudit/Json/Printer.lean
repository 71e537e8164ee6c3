import ManifestAudit.Json.Value

/-!
# Writing JSON

Values are laid out one item per line, each level indented by two spaces, in
ASCII only. Symbols outside ASCII are written as escapes of their 16-bit units.
-/

namespace ManifestAudit.Json

/-- Write a 16-bit unit as an escape. -/
def unitEscape (code : Nat) : List Char :=
  '\\' :: 'u' :: Text.hex 4 code

/-- Write one character of a string. -/
def escapedChar (c : Char) : List Char :=
  if c = '"' then ['\\', '"']
  else if c = '\\' then ['\\', '\\']
  else if c = '\n' then ['\\', 'n']
  else if c = '\r' then ['\\', 'r']
  else if c = '\t' then ['\\', 't']
  else if c = '\x0c' then ['\\', 'f']
  else if c = '\x08' then ['\\', 'b']
  else if 0x20 ≤ c.toNat ∧ c.toNat < 0x7F then [c]
  else if c.toNat < 0x10000 then unitEscape c.toNat
  else unitEscape (Text.surrogates c.toNat).1 ++ unitEscape (Text.surrogates c.toNat).2

/-- Write one symbol of a string. -/
def escapedSymbol (symbol : Text.Symbol) : List Char :=
  match symbol with
  | .char c => escapedChar c
  | .surrogate _ => unitEscape symbol.code

/-- Write a string. -/
def stringLiteral (text : Text) : List Char :=
  '"' :: text.flatMap escapedSymbol ++ ['"']

/-- Write a fractional number; the values that are no numbers have names. -/
def floatLiteral (value : Float) : List Char :=
  ({ floatFormat with nan := "NaN", infinity := "Infinity" : Decimal.Format }.write value).toList

/-- A new line at a depth of nesting. -/
def newLine (depth : Nat) : List Char :=
  '\n' :: List.replicate (2 * depth) ' '

namespace Value

mutual

/-- Write a value that stands at a depth of nesting. -/
def layout (depth : Nat) : Value → List Char
  | null => "null".toList
  | boolean true => "true".toList
  | boolean false => "false".toList
  | integer value => (toString value).toList
  | float value => floatLiteral value
  | string text => stringLiteral text
  | array [] => ['[', ']']
  | array (item :: items) =>
    '[' :: newLine (depth + 1) ++ item.layout (depth + 1) ++ layoutItems (depth + 1) items ++
      newLine depth ++ [']']
  | object [] => ['\x7b', '\x7d']
  | object (member :: members) =>
    '\x7b' :: newLine (depth + 1) ++ layoutMember (depth + 1) member ++
      layoutMembers (depth + 1) members ++ newLine depth ++ ['\x7d']

/-- Write the items behind the first, each on a line of its own. -/
def layoutItems (depth : Nat) : List Value → List Char
  | [] => []
  | item :: items => ',' :: newLine depth ++ item.layout depth ++ layoutItems depth items

/-- Write the members behind the first, each on a line of its own. -/
def layoutMembers (depth : Nat) : List (Text × Value) → List Char
  | [] => []
  | member :: members =>
    ',' :: newLine depth ++ layoutMember depth member ++ layoutMembers depth members

/-- Write one member with its name. -/
def layoutMember (depth : Nat) : Text × Value → List Char
  | (name, value) => stringLiteral name ++ ':' :: ' ' :: value.layout depth

end

/-- Write a whole value. -/
def pretty (value : Value) : String :=
  String.ofList (value.layout 0)

end Value

end ManifestAudit.Json
