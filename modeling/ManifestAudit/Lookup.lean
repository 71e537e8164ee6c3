import ManifestAudit.Json.Value

/-!
# Lookups in documents

Optional values deep inside a document. The null value stands for an absent one.
A value counts as declared by the customs of JavaScript, in which manifests are
at home: the empty string, zero, `false` and null are not.
-/

namespace ManifestAudit.Lookup

/-- Whether a value counts as present. Empty arrays and objects do. -/
def isDeclared : Json.Value → Bool
  | .null => false
  | .boolean value => value
  | .integer value => value != 0
  | .float value => !(value == 0.0)
  | .string text => !text.isEmpty
  | .array _ => true
  | .object _ => true

/-- The value under a name, null where there is none or where the value has no members. -/
def member (document : Json.Value) (name : Text) : Json.Value :=
  match document with
  | .object members => (Json.Members.get? members name).getD .null
  | _ => .null

/-- Follow names into a document, and give null as soon as a value on the way is
not declared. -/
def dig (document : Json.Value) : List Text → Json.Value
  | [] => document
  | name :: names =>
    let value := member document name
    if isDeclared value then dig value names else .null

/-- Whether one text occurs within another. -/
def occursIn (needle : Text) : Text → Bool
  | [] => needle.isEmpty
  | symbol :: rest => needle.isPrefixOf (symbol :: rest) || occursIn needle rest

/-- Whether a value is a text that has another text within it. -/
def containsText (value : Json.Value) (needle : Text) : Bool :=
  match value with
  | .string text => occursIn needle text
  | _ => false

end ManifestAudit.Lookup
