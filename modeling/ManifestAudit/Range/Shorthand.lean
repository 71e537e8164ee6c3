import ManifestAudit.Range.Pattern

/-!
# Range shorthands

Carets, tildes, hyphen intervals, wildcards and incomplete versions are
abbreviations. This module spells them out: `expand` turns the text of one
alternative into the texts of its comparators, in which only operators and
complete versions are left. What is no shorthand passes through unchanged, so
that a wrong comparator is refused as it was written. Shorthands are made of
characters: a lone surrogate is part of none, and stays where it is.
-/

namespace ManifestAudit.Shorthand

/-- Three numbers with dots between them. -/
def dotted (major minor patch : List Char) : List Char :=
  major ++ '.' :: minor ++ '.' :: patch

/-- The digits of the number after the one written. -/
def next (digits : List Char) : List Char :=
  Text.decimalDigits (Text.decimalNumber digits + 1)

/-- The digits of zero. -/
def zero : List Char := ['0']

/-- The lower bound at the given numbers. -/
def atLeast (version : List Char) : List Char :=
  '>' :: '=' :: version

/-- The strict upper bound at the given numbers. -/
def below (version : List Char) : List Char :=
  '<' :: version

/-- A pre-release to be put behind three numbers. It brings its own hyphen if
it starts with one. -/
def attached (prerelease : List Char) : List Char :=
  match prerelease with
  | [] => []
  | c :: _ => if c = '-' then prerelease else '-' :: prerelease

/-- Everything from a major version up to the next. -/
def wholeMajor (major : List Char) : List (List Char) :=
  [atLeast (dotted major zero zero), below (dotted (next major) zero zero)]

/-- Everything from a minor version up to the next. -/
def wholeMinor (major minor : List Char) : List (List Char) :=
  [atLeast (dotted major minor zero), below (dotted major (next minor) zero)]

/-- The left end of a hyphen interval; `written` is the end as it stands there. -/
def intervalStart (pattern : Pattern) (written : List Char) : List Char :=
  match pattern.major, pattern.minor, pattern.patch with
  | none, _, _ => []
  | some major, none, _ => atLeast (dotted major zero zero)
  | some major, some minor, none => atLeast (dotted major minor zero)
  | some _, some _, some _ => atLeast written

/-- The right end of a hyphen interval; `written` is the end as it stands there.
An open end takes in everything the written numbers begin. -/
def intervalEnd (pattern : Pattern) (written : List Char) : List Char :=
  match pattern.major, pattern.minor, pattern.patch with
  | none, _, _ => []
  | some major, none, _ => below (dotted (next major) zero zero)
  | some major, some minor, none => below (dotted major (next minor) zero)
  | some major, some minor, some patch =>
    if pattern.prerelease.isEmpty then '<' :: '=' :: written
    else '<' :: '=' :: dotted major minor patch ++ '-' :: pattern.prerelease

/-- Cut a hyphen interval at its hyphen, which must have blanks on both sides.
The left end is the lead and the run of characters behind it. -/
def splitInterval? (chars : List Char) : Option (List Char × List Char) :=
  let lead := chars.takeWhile Pattern.isLead
  let core := chars.dropWhile Pattern.isLead
  let start := lead ++ core.takeWhile (!Text.isBlank ·)
  match core.dropWhile (!Text.isBlank ·) with
  | [] => none
  | blanks@(_ :: _) =>
    match blanks.dropWhile Text.isBlank with
    | '-' :: c :: rest =>
      if Text.isBlank c then some (start, rest.dropWhile Text.isBlank) else none
    | _ => none

/-- Spell out a text that is a hyphen interval between two versions. -/
def interval (chars : List Char) : List Char :=
  match splitInterval? chars with
  | none => chars
  | some (left, right) =>
    match Pattern.ofChars? left, Pattern.ofChars? right with
    | some start, some stop =>
      Text.dropEnds Text.isBlank (intervalStart start left ++ ' ' :: intervalEnd stop right)
    | _, _ => chars

/-- Take an operator off the front: `<` or `>`, an equals sign, both or neither. -/
def takeOperator (chars : List Char) : List Char × List Char :=
  match chars with
  | c :: '=' :: rest =>
    if c = '<' ∨ c = '>' then ([c, '='], rest)
    else if c = '=' then (['='], '=' :: rest)
    else ([], chars)
  | c :: rest =>
    if c = '<' ∨ c = '>' ∨ c = '=' then ([c], rest) else ([], chars)
  | [] => ([], [])

/-- Where an operator with a version behind it starts a text: what replaces the
two, with no blanks between them, and the rest of the text. -/
def joinedOperator? (chars : List Char) : Option (List Char × List Char) :=
  let blanks := chars.takeWhile Text.isBlank
  let (operator, behind) := takeOperator (chars.dropWhile Text.isBlank)
  let version := behind.dropWhile Text.isBlank
  (Pattern.skip? version).map fun rest =>
    (blanks ++ operator ++ version.take (version.length - rest.length), rest)

/-- Remove the blanks between each operator and the version behind it, for at
most `fuel` steps. -/
def joinOperatorsFrom : Nat → List Char → List Char
  | 0, chars => chars
  | _ + 1, [] => []
  | fuel + 1, c :: chars =>
    match joinedOperator? (c :: chars) with
    | some (joined, rest) => joined ++ joinOperatorsFrom fuel rest
    | none => c :: joinOperatorsFrom fuel chars

/-- Remove the blanks between each operator and the version behind it. -/
def joinOperators (chars : List Char) : List Char :=
  joinOperatorsFrom chars.length chars

/-- Remove the blanks behind each tilde; `~>` with blanks behind it becomes `~`.
The flag says that a tilde has just been passed and its blanks are being removed. -/
def joinTildesFrom (after : Bool) : List Char → List Char
  | [] => []
  | '~' :: '>' :: c :: rest =>
    if Text.isBlank c then '~' :: joinTildesFrom true rest
    else '~' :: '>' :: joinTildesFrom false (c :: rest)
  | '~' :: c :: rest =>
    if Text.isBlank c then '~' :: joinTildesFrom true rest
    else '~' :: joinTildesFrom false (c :: rest)
  | c :: rest =>
    if after && Text.isBlank c then joinTildesFrom true rest
    else c :: joinTildesFrom false rest

/-- Remove the blanks behind each tilde; `~>` with blanks behind it becomes `~`. -/
def joinTildes (chars : List Char) : List Char :=
  joinTildesFrom false chars

/-- Remove the blanks behind each caret; the flag says that a caret has just
been passed and its blanks are being removed. -/
def joinCaretsFrom (after : Bool) : List Char → List Char
  | [] => []
  | c :: rest =>
    if c = '^' then '^' :: joinCaretsFrom true rest
    else if after && Text.isBlank c then joinCaretsFrom true rest
    else c :: joinCaretsFrom false rest

/-- Remove the blanks behind each caret. -/
def joinCarets (chars : List Char) : List Char :=
  joinCaretsFrom false chars

/-- What a caret before an incomplete version means: changes that keep the
leftmost number other than zero. -/
def caretBounds (pattern : Pattern) : List (List Char) :=
  match pattern.major, pattern.minor, pattern.patch with
  | none, _, _ => [[]]
  | some major, none, _ => wholeMajor major
  | some major, some minor, none =>
    if major = zero then wholeMinor major minor
    else [atLeast (dotted major minor zero), below (dotted (next major) zero zero)]
  | some major, some minor, some patch =>
    let start := atLeast (dotted major minor patch ++ attached pattern.prerelease)
    if major ≠ zero then [start, below (dotted (next major) zero zero)]
    else if minor ≠ zero then [start, below (dotted major (next minor) zero)]
    else [start, below (dotted major minor (next patch))]

/-- What a tilde before an incomplete version means: changes that keep the minor
number, or the major one when that is all there is. -/
def tildeBounds (pattern : Pattern) : List (List Char) :=
  match pattern.major, pattern.minor, pattern.patch with
  | none, _, _ => [[]]
  | some major, none, _ => wholeMajor major
  | some major, some minor, none => wholeMinor major minor
  | some major, some minor, some patch =>
    [atLeast (dotted major minor patch ++ attached pattern.prerelease),
      below (dotted major (next minor) zero)]

/-- What an operator before an incomplete version means, and `none` when the
version is complete. -/
def wildcardBounds? (operator : List Char) (pattern : Pattern) : Option (List (List Char)) :=
  match pattern.major, pattern.minor, pattern.patch with
  | some _, some _, some _ => none
  | none, _, _ =>
    if operator = ['>'] ∨ operator = ['<'] then some [below (dotted zero zero zero)]
    else some [['*']]
  | some major, none, _ =>
    if operator = [] ∨ operator = ['='] then some (wholeMajor major)
    else if operator = ['>'] then some [atLeast (dotted (next major) zero zero)]
    else if operator = ['<', '='] then some [below (dotted (next major) zero zero)]
    else some [operator ++ dotted major zero zero]
  | some major, some minor, none =>
    if operator = [] ∨ operator = ['='] then some (wholeMinor major minor)
    else if operator = ['>'] then some [atLeast (dotted major (next minor) zero)]
    else if operator = ['<', '='] then some [below (dotted major (next minor) zero)]
    else some [operator ++ dotted major minor zero]

/-- Spell out a caret. -/
def expandCaret (token : List Char) : List (List Char) :=
  match token with
  | '^' :: rest => ((Pattern.ofChars? rest).map caretBounds).getD [token]
  | _ => [token]

/-- Spell out a tilde, which may be written `~>`. -/
def expandTilde (token : List Char) : List (List Char) :=
  match token with
  | '~' :: '>' :: rest => ((Pattern.ofChars? rest).map tildeBounds).getD [token]
  | '~' :: rest => ((Pattern.ofChars? rest).map tildeBounds).getD [token]
  | _ => [token]

/-- Spell out an operator before an incomplete version. -/
def expandWildcard (token : List Char) : List (List Char) :=
  let (operator, rest) := takeOperator token
  ((Pattern.ofChars? rest).bind (wildcardBounds? operator)).getD [token]

/-- What is left of a text behind a star at its front, the star's operator included. -/
def behindStar? : List Char → Option (List Char)
  | '*' :: rest => some rest
  | '=' :: '*' :: rest => some rest
  | '<' :: '*' :: rest => some rest
  | '>' :: '*' :: rest => some rest
  | '<' :: '=' :: '*' :: rest => some rest
  | '>' :: '=' :: '*' :: rest => some rest
  | _ => none

theorem length_lt_of_behindStar? {chars rest : List Char} (h : behindStar? chars = some rest) :
    rest.length < chars.length := by
  unfold behindStar? at h
  split at h <;> simp_all <;> omega

/-- Remove each star with the operator in front of it. -/
def removeStars (chars : List Char) : List Char :=
  match chars with
  | [] => []
  | c :: tail =>
    match h : behindStar? (c :: tail) with
    | some rest =>
      have : rest.length < tail.length + 1 := length_lt_of_behindStar? h
      removeStars rest
    | none => c :: removeStars tail
  termination_by chars.length
  decreasing_by
  · exact this
  · exact Nat.lt_succ_self tail.length

/-- Spell out a hyphen interval, and remove the blanks behind operators, tildes
and carets. -/
def joined (text : Text) : Text :=
  let plain := match Text.toChars? text with
    | some chars => Text.ofChars (interval chars)
    | none => text
  Text.mapRuns (fun run => joinCarets (joinTildes (joinOperators run))) plain

/-- Spell out one blank-free piece of an alternative. -/
def expandToken (token : Text) : List Text :=
  match Text.toChars? token with
  | some chars =>
    (((expandCaret chars).flatMap expandTilde).flatMap expandWildcard).map fun bound =>
      Text.ofChars (removeStars bound)
  | none => [Text.mapRuns removeStars token]

/-- The comparators of an alternative, each spelled with an operator and a
complete version, or empty where everything is admitted. -/
def expand (alternative : Text) : List Text :=
  let pieces := Text.splitBlank (joined (Text.trim alternative))
  Text.splitBlank (Text.joinSpace (pieces.flatMap expandToken))

end ManifestAudit.Shorthand
