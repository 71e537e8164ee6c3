import ManifestAudit.Proofs.Text.Digit
import ManifestAudit.Version.Parser

/-!
# Releases are read back

The text of a release is its three numbers with dots between them, and reading that text gives
the release again.
-/

namespace ManifestAudit.Version

open Text (decimalDigits)

/-- A number with a dot behind it is taken off the front. -/
theorem takeDotted?_decimalDigits (number : Nat) (rest : List Char) :
    takeDotted? (decimalDigits number ++ '.' :: rest) = some (decimalDigits number, rest) := by
  have ends : ∀ c ∈ ('.' :: rest).head?, Text.isDecimal c = false := by
    rintro c ⟨⟩
    decide
  rw [takeDotted?, Text.takeNumeral?_decimalDigits number _ ends]
  rfl

/-- The characters of a release. -/
theorem toList_text_release (major minor patch : Nat) :
    (release major minor patch).text.toList =
      decimalDigits major ++ '.' :: (decimalDigits minor ++ '.' :: decimalDigits patch) := by
  simp [text, release, coreText]

/-- A release is the one with its three numbers. -/
theorem release_eq_self {version : Version} (isRelease : version.isRelease = true) :
    release version.major version.minor version.patch = version := by
  obtain ⟨major, minor, patch, prerelease⟩ := version
  obtain rfl : prerelease = [] := List.isEmpty_iff.mp isRelease
  rfl

/-- What holds of the dot and of each digit holds of all characters of a release. -/
theorem of_mem_text_release (property : Char → Prop) (dot : property '.')
    (digits : ∀ worth < 10, property (Char.ofNat (0x30 + worth)))
    {version : Version} (isRelease : version.isRelease = true) {c : Char}
    (member : c ∈ version.text.toList) : property c := by
  have digit {number : Nat} {c : Char} (member : c ∈ decimalDigits number) : property c :=
    Text.of_isAsciiDigit property digits (Text.isAsciiDigit_of_mem_decimalDigits member)
  rw [← release_eq_self isRelease, toList_text_release] at member
  simp only [List.mem_append, List.mem_cons] at member
  rcases member with inMajor | rfl | inMinor | rfl | inPatch
  · exact digit inMajor
  · exact dot
  · exact digit inMinor
  · exact dot
  · exact digit inPatch

/-- The characters of a release are read as the release. -/
theorem ofChars?_text_release (major minor patch : Nat) :
    ofChars? (release major minor patch).text.toList = some (release major minor patch) := by
  have noMark (rest : List Char) : decimalDigits major ++ '.' :: (decimalDigits minor ++
      '.' :: decimalDigits patch) ≠ 'v' :: rest := by
    obtain ⟨digit, digits, written, latin, _⟩ := Text.exists_decimalDigits_eq_cons major
    rw [written]
    rintro ⟨⟩
    cases latin
  rw [toList_text_release, ofChars?]
  · simp only [takeDotted?_decimalDigits, Text.takeNumeral?_decimalDigits_alone,
      Text.decimalNumber_decimalDigits]
    rfl
  · exact noMark

end ManifestAudit.Version
