import ManifestAudit.Version.Parser

/-!
# Incomplete versions

Ranges are written with versions that may lack numbers or hold wildcards
(`1`, `1.x`, `1.2.*`). `Pattern.ofChars?` reads a whole text as one. The two
`skip` functions find where such a version ends inside a longer text, which is
what joining an operator to the version behind it needs; they settle for the
longest beginning that reads as a version.
-/

namespace ManifestAudit

/-- A version whose numbers may be left open. A number keeps its digits as
written; `none` stands for a wildcard or a missing number. The pre-release is
without its hyphen, empty when there is none. -/
structure Pattern where
  major : Option (List Char)
  minor : Option (List Char)
  patch : Option (List Char)
  prerelease : List Char
  deriving Repr, DecidableEq

namespace Pattern

/-- A character that may stand in front of a version: `v`, `=` or a blank. -/
def isLead (c : Char) : Bool :=
  c == 'v' || c == '=' || Text.isBlank c

/-- A wildcard number. -/
def isWildcard (c : Char) : Bool :=
  c == 'x' || c == 'X' || c == '*'

/-- Take a number or a wildcard off the front. -/
def takePart? : List Char → Option (Option (List Char) × List Char)
  | [] => none
  | c :: rest =>
    if isWildcard c then some (none, rest)
    else (Text.takeNumeral? (c :: rest)).map fun (digits, rest) => (some digits, rest)

/-- Read a whole text, without any lead, as an incomplete version. -/
def ofCore? (chars : List Char) : Option Pattern :=
  match takePart? chars with
  | some (major, []) => some ⟨major, none, none, []⟩
  | some (major, '.' :: chars) =>
    match takePart? chars with
    | some (minor, []) => some ⟨major, minor, none, []⟩
    | some (minor, '.' :: chars) =>
      match takePart? chars with
      | some (patch, chars) =>
        (Version.suffix? chars).map fun prerelease => ⟨major, minor, patch, prerelease⟩
      | none => none
    | _ => none
  | _ => none

/-- Read a whole text, which may have a lead, as an incomplete version. -/
def ofChars? (chars : List Char) : Option Pattern :=
  ofCore? (chars.dropWhile isLead)

/-- Skip as many dot-led pieces as there are, at most `fuel`; `skip` skips one piece. -/
def skipDotted (skip : List Char → Option (List Char)) : Nat → List Char → List Char
  | 0, chars => chars
  | fuel + 1, chars =>
    match chars with
    | '.' :: piece =>
      match skip piece with
      | some rest => skipDotted skip fuel rest
      | none => chars
    | _ => chars

/-- Skip a label off the front. -/
def skipLabel? (chars : List Char) : Option (List Char) :=
  match chars.dropWhile Text.isDecimal with
  | [] => none
  | mark :: rest =>
    if Identifier.isLabelMark mark then some (rest.dropWhile Identifier.isLabelChar) else none

/-- Skip an identifier: a number if one starts here, else a label. -/
def skipIdentifier? (chars : List Char) : Option (List Char) :=
  match Text.takeNumeral? chars with
  | some (_, rest) => some rest
  | none => skipLabel? chars

/-- Skip an identifier whose number may have leading zeros. -/
def skipLooseIdentifier? (chars : List Char) : Option (List Char) :=
  match chars with
  | [] => none
  | c :: rest =>
    if Text.isAsciiDigit c then some (rest.dropWhile Text.isAsciiDigit) else skipLabel? chars

/-- Skip a run of identifier characters. -/
def skipRun? : List Char → Option (List Char)
  | [] => none
  | c :: rest =>
    if Identifier.isLabelChar c then some (rest.dropWhile Identifier.isLabelChar) else none

/-- Skip a build label if there is one. -/
def skipBuild (chars : List Char) : List Char :=
  match chars with
  | '+' :: rest =>
    match skipRun? rest with
    | some rest => skipDotted skipRun? rest.length rest
    | none => chars
  | _ => chars

/-- Skip a pre-release if there is one. -/
def skipPrerelease (chars : List Char) : List Char :=
  match chars with
  | '-' :: rest =>
    match skipIdentifier? rest with
    | some rest => skipDotted skipIdentifier? rest.length rest
    | none => chars
  | _ => chars

/-- Skip a loosely written pre-release if there is one: its hyphen may be left
out before a letter, and a hyphen with nothing fitting behind it is one by itself. -/
def skipLoosePrerelease (chars : List Char) : List Char :=
  match chars with
  | [] => []
  | c :: rest =>
    if c = '-' then
      let rest := (skipLooseIdentifier? rest).getD rest
      skipDotted skipLooseIdentifier? rest.length rest
    else if Text.isAsciiLetter c then
      let rest := rest.dropWhile Identifier.isLabelChar
      skipDotted skipLooseIdentifier? rest.length rest
    else chars

/-- Skip a run of Latin digits. -/
def skipDigits? : List Char → Option (List Char)
  | [] => none
  | c :: rest => if Text.isAsciiDigit c then some (rest.dropWhile Text.isAsciiDigit) else none

/-- Skip a dot. -/
def skipDot? : List Char → Option (List Char)
  | '.' :: rest => some rest
  | _ => none

/-- Skip a loosely written complete version: leading zeros are let pass. -/
def skipLooseVersion? (chars : List Char) : Option (List Char) := do
  let chars ← skipDigits? chars
  let chars ← skipDot? chars
  let chars ← skipDigits? chars
  let chars ← skipDot? chars
  let chars ← skipDigits? chars
  return skipBuild (skipLoosePrerelease chars)

/-- Skip a dot and a number or wildcard behind it. -/
def skipDottedPart? : List Char → Option (List Char)
  | '.' :: rest => (takePart? rest).map Prod.snd
  | _ => none

/-- Skip an incomplete version: as many of its numbers as are there. -/
def skipPattern? (chars : List Char) : Option (List Char) :=
  (takePart? chars).map fun (_, chars) =>
    match skipDottedPart? chars with
    | none => chars
    | some chars =>
      match skipDottedPart? chars with
      | none => chars
      | some chars => skipBuild (skipPrerelease chars)

/-- Skip a version with its lead, reading it loosely as a complete version if
that is possible and as an incomplete one otherwise. -/
def skip? (chars : List Char) : Option (List Char) :=
  let core := chars.dropWhile isLead
  (skipLooseVersion? core).or (skipPattern? core)

end Pattern

end ManifestAudit
