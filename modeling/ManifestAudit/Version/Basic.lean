import ManifestAudit.Text.Digit

/-!
# Versions and their order

A version is three numbers and a possibly empty list of pre-release
identifiers. The order is the precedence order: the numbers decide first, a
release is above its own pre-releases, and pre-releases compare identifier by
identifier. Build labels take no part and are not kept.
-/

namespace ManifestAudit

/-- One dot-separated part of a pre-release: a number, or a label that is not
made of digits alone. -/
inductive Identifier where
  | number (value : Nat)
  | label (text : String)
  deriving Repr, DecidableEq

namespace Identifier

/-- Numbers come before labels; labels are ordered by code point. -/
def compare : Identifier → Identifier → Ordering
  | number left, number right => Ord.compare left right
  | number _, label _ => .lt
  | label _, number _ => .gt
  | label left, label right => Ord.compare left right

/-- The identifier as it is written. -/
def text : Identifier → String
  | number value => String.ofList (Text.decimalDigits value)
  | label text => text

end Identifier

/-- A version; an empty pre-release marks a release. -/
structure Version where
  major : Nat
  minor : Nat
  patch : Nat
  prerelease : List Identifier
  deriving Repr, DecidableEq

namespace Version

/-- The release with the given three numbers. -/
def release (major minor patch : Nat) : Version :=
  ⟨major, minor, patch, []⟩

/-- Whether the version has no pre-release part. -/
def isRelease (version : Version) : Bool :=
  version.prerelease.isEmpty

/-- Identifier lists compare at the first difference; a proper beginning is lower. -/
def compareIdentifiers : List Identifier → List Identifier → Ordering
  | [], [] => .eq
  | [], _ :: _ => .lt
  | _ :: _, [] => .gt
  | left :: lefts, right :: rights =>
    (left.compare right).then (compareIdentifiers lefts rights)

/-- A release, having no identifiers, is above every pre-release. -/
def comparePrerelease : List Identifier → List Identifier → Ordering
  | [], [] => .eq
  | [], _ :: _ => .gt
  | _ :: _, [] => .lt
  | lefts@(_ :: _), rights@(_ :: _) => compareIdentifiers lefts rights

/-- Precedence order of versions. -/
def compare (left right : Version) : Ordering :=
  (Ord.compare left.major right.major).then <|
    (Ord.compare left.minor right.minor).then <|
      (Ord.compare left.patch right.patch).then <|
        comparePrerelease left.prerelease right.prerelease

instance : Ord Version := ⟨compare⟩

instance : LT Version := ⟨fun left right => left.compare right = .lt⟩

instance : LE Version := ⟨fun left right => left.compare right ≠ .gt⟩

instance (left right : Version) : Decidable (left < right) :=
  inferInstanceAs (Decidable (left.compare right = .lt))

instance (left right : Version) : Decidable (left ≤ right) :=
  inferInstanceAs (Decidable (left.compare right ≠ .gt))

/-- Whether two versions share their three numbers. -/
def sameNumbers (left right : Version) : Bool :=
  left.major == right.major && left.minor == right.minor && left.patch == right.patch

/-- The three numbers with dots between them. -/
def coreText (version : Version) : String :=
  String.ofList <|
    Text.decimalDigits version.major ++ '.' :: Text.decimalDigits version.minor ++
      '.' :: Text.decimalDigits version.patch

/-- The canonical spelling of a version. -/
def text (version : Version) : String :=
  if version.prerelease.isEmpty then version.coreText
  else version.coreText ++ "-" ++ ".".intercalate (version.prerelease.map Identifier.text)

end Version

end ManifestAudit
