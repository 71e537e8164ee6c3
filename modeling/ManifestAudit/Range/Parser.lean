import ManifestAudit.Range.Basic
import ManifestAudit.Range.Shorthand

/-!
# Reading ranges

Alternatives are separated by two bars. Each is spelled out, and every
comparator must then be an operator and a complete version, or empty. The first
comparator that is neither is the error.
-/

namespace ManifestAudit

/-- Why a text is not a range. -/
inductive Range.ParseError where
  /-- A piece that is no comparator. -/
  | invalidComparator (token : Text)
  deriving Repr, DecidableEq

/-- The wording of a range error. -/
def Range.ParseError.message : Range.ParseError → Text
  | .invalidComparator token => Text.ofString "Invalid comparator: " ++ token

/-- The relation that an operator's characters write. -/
def Relation.ofChars? : List Char → Option Relation
  | [] => some .plain
  | ['='] => some .equal
  | ['<'] => some .less
  | ['<', '='] => some .atMost
  | ['>'] => some .greater
  | ['>', '='] => some .atLeast
  | _ => none

/-- Read a comparator: nothing at all, or an operator and a complete version. -/
def Comparator.ofChars? (token : List Char) : Option Comparator :=
  if token.isEmpty then some .any
  else
    let (operator, rest) := Shorthand.takeOperator token
    match Relation.ofChars? operator, Version.ofChars? rest with
    | some relation, some version => some (.bounded ⟨relation, version⟩)
    | _, _ => none

/-- Read a comparator, or tell which piece is none. -/
def Comparator.parse (token : Text) : Except Range.ParseError Comparator :=
  match (Text.toChars? token).bind Comparator.ofChars? with
  | some comparator => .ok comparator
  | none => .error (.invalidComparator token)

/-- Read one alternative. -/
def Alternative.parse (text : Text) : Except Range.ParseError Alternative :=
  (Shorthand.expand text).mapM Comparator.parse

/-- Read a range. -/
def Range.parse (text : Text) : Except Range.ParseError Range :=
  ((Text.splitDouble (.char '|') text).mapM Alternative.parse).map Range.mk

end ManifestAudit
