import ManifestAudit.Text.Blank
import ManifestAudit.Version.Basic

/-!
# Reading versions

The strict grammar: three numbers without leading zeros, an optional
pre-release and an optional build label. A single `v` may stand in front, and
blanks around the whole are ignored.
-/

namespace ManifestAudit

namespace Identifier

/-- A character that may stand in an identifier after its digits. -/
def isLabelChar (c : Char) : Bool :=
  Text.isAsciiLetter c || Text.isAsciiDigit c || c == '-'

/-- A letter or hyphen: what makes an identifier a label. -/
def isLabelMark (c : Char) : Bool :=
  Text.isAsciiLetter c || c == '-'

/-- A label: decimal digits, then a letter or hyphen, then letters, Latin
digits and hyphens. -/
def isLabel (chars : List Char) : Bool :=
  match chars.dropWhile Text.isDecimal with
  | [] => false
  | mark :: rest => isLabelMark mark && rest.all isLabelChar

/-- Read a whole identifier. -/
def ofChars? (chars : List Char) : Option Identifier :=
  match Text.takeNumeral? chars with
  | some (digits, []) => some (.number (Text.decimalNumber digits))
  | _ => if isLabel chars then some (.label (String.ofList chars)) else none

end Identifier

namespace Version

/-- Whether a text is a build label: dot-separated nonempty runs of letters,
Latin digits and hyphens. -/
def isBuild (chars : List Char) : Bool :=
  (Text.split '.' chars).all fun piece =>
    !piece.isEmpty && piece.all Identifier.isLabelChar

/-- Read the dot-separated identifiers of a pre-release. -/
def identifiers? (chars : List Char) : Option (List Identifier) :=
  (Text.split '.' chars).mapM Identifier.ofChars?

/-- Read what may follow the three numbers: nothing, a pre-release behind a
hyphen, a build label behind a plus sign, or both. The pre-release is given
back as written, without its hyphen; it is empty when there is none. -/
def suffix? : List Char → Option (List Char)
  | [] => some []
  | '+' :: build => if isBuild build then some [] else none
  | '-' :: rest =>
    let prerelease := rest.takeWhile (· != '+')
    if (identifiers? prerelease).isSome then
      match rest.dropWhile (· != '+') with
      | [] => some prerelease
      | _ :: build => if isBuild build then some prerelease else none
    else none
  | _ => none

/-- Take a number and the dot behind it. -/
def takeDotted? (chars : List Char) : Option (List Char × List Char) :=
  match Text.takeNumeral? chars with
  | some (digits, '.' :: rest) => some (digits, rest)
  | _ => none

/-- Read a complete version without blanks around it. -/
def ofChars? (chars : List Char) : Option Version :=
  let chars := match chars with
    | 'v' :: rest => rest
    | _ => chars
  match takeDotted? chars with
  | none => none
  | some (major, chars) =>
    match takeDotted? chars with
    | none => none
    | some (minor, chars) =>
      match Text.takeNumeral? chars with
      | none => none
      | some (patch, chars) =>
        match suffix? chars with
        | none => none
        | some prerelease =>
          let numbers := Version.release (Text.decimalNumber major)
            (Text.decimalNumber minor) (Text.decimalNumber patch)
          if prerelease.isEmpty then some numbers
          else (identifiers? prerelease).map fun list => { numbers with prerelease := list }

/-- Read a version, ignoring blanks around it. -/
def parse? (text : String) : Option Version :=
  ofChars? (Text.dropEnds Text.isBlank text.toList)

end Version

end ManifestAudit
