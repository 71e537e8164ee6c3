import ManifestAudit.Proofs.Version.Parser
import ManifestAudit.Range.Pattern

/-!
# Incomplete versions

Two readings of incomplete versions are looked at. Skipping one leaves an end of the text,
whatever the text is: `skips_skip?`. Reading one that is written with numbers gives those
numbers back, with none where there is a wildcard or nothing.
-/

namespace ManifestAudit.Pattern

open Text (decimalDigits isAsciiDigit takeNumeral?)

/-! ## Skipping leaves an end -/

/-- What is left behind what was skipped is an end of the text. -/
def Skips (skip : List Char → Option (List Char)) : Prop :=
  ∀ chars rest, skip chars = some rest → rest <:+ chars

/-- Skipping a first character and then a class of characters leaves an end. -/
theorem skips_run_of {accepts continues : Char → Bool} :
    Skips fun chars => match chars with
      | [] => none
      | c :: rest => if accepts c then some (rest.dropWhile continues) else none := by
  intro chars rest skipped
  cases chars with
  | nil => cases skipped
  | cons c behind =>
      obtain ⟨_, same⟩ := Option.ite_none_right_eq_some.mp skipped
      cases same
      exact (List.dropWhile_suffix continues).trans (List.suffix_cons c behind)

theorem skips_skipRun? : Skips skipRun? := skips_run_of

theorem skips_skipDigits? : Skips skipDigits? := skips_run_of

/-- Behind a number that was taken there is an end of the text. -/
theorem isSuffix_of_takeNumeral? {chars digits rest : List Char}
    (taken : takeNumeral? chars = some (digits, rest)) : rest <:+ chars := by
  cases chars with
  | nil => cases taken
  | cons c behind =>
      simp only [takeNumeral?] at taken
      split at taken
      · cases taken
        exact List.suffix_cons c _
      · split at taken
        · cases taken
          exact (List.dropWhile_suffix Text.isDecimal).trans (List.suffix_cons c behind)
        · cases taken

/-- So there is behind a part. -/
theorem isSuffix_of_takePart? {chars rest : List Char} {part : Option (List Char)}
    (taken : takePart? chars = some (part, rest)) : rest <:+ chars := by
  cases chars with
  | nil => cases taken
  | cons c behind =>
      simp only [takePart?] at taken
      split at taken
      · cases taken
        exact List.suffix_cons c _
      · obtain ⟨⟨digits, rest'⟩, number, same⟩ := Option.map_eq_some_iff.mp taken
        cases same
        exact isSuffix_of_takeNumeral? number

/-- A label is a run behind digits. -/
theorem skips_skipLabel? : Skips skipLabel? := by
  intro chars rest skipped
  have behind := List.dropWhile_suffix (l := chars) Text.isDecimal
  simp only [skipLabel?] at skipped
  exact (skips_run_of _ _ skipped).trans behind

theorem skips_skipIdentifier? : Skips skipIdentifier? := by
  intro chars rest skipped
  unfold skipIdentifier? at skipped
  split at skipped
  case h_1 taken =>
    cases skipped
    exact isSuffix_of_takeNumeral? taken
  case h_2 => exact skips_skipLabel? _ _ skipped

theorem skips_skipLooseIdentifier? : Skips skipLooseIdentifier? := by
  intro chars rest skipped
  unfold skipLooseIdentifier? at skipped
  split at skipped
  case h_1 => cases skipped
  case h_2 c behind =>
    split at skipped
    · cases skipped
      exact (List.dropWhile_suffix isAsciiDigit).trans (List.suffix_cons c behind)
    · exact skips_skipLabel? _ _ skipped

/-- Skipping dot-led pieces leaves an end if skipping one piece does. -/
theorem skipDotted_isSuffix {skip : List Char → Option (List Char)} (skips : Skips skip)
    (fuel : Nat) (chars : List Char) : skipDotted skip fuel chars <:+ chars := by
  fun_induction skipDotted skip fuel chars with
  | case2 fuel piece rest skipped inductionHypothesis =>
      exact inductionHypothesis.trans ((skips _ _ skipped).trans (List.suffix_cons '.' piece))
  | _ => exact List.suffix_refl _

theorem skipBuild_isSuffix (chars : List Char) : skipBuild chars <:+ chars := by
  unfold skipBuild
  split
  case h_1 build =>
    split
    case h_1 rest skipped =>
      exact (skipDotted_isSuffix skips_skipRun? _ _).trans
        ((skips_skipRun? _ _ skipped).trans (List.suffix_cons '+' build))
    case h_2 => exact List.suffix_refl _
  case h_2 => exact List.suffix_refl _

theorem skipPrerelease_isSuffix (chars : List Char) : skipPrerelease chars <:+ chars := by
  unfold skipPrerelease
  split
  case h_1 prerelease =>
    split
    case h_1 rest skipped =>
      exact (skipDotted_isSuffix skips_skipIdentifier? _ _).trans
        ((skips_skipIdentifier? _ _ skipped).trans (List.suffix_cons '-' prerelease))
    case h_2 => exact List.suffix_refl _
  case h_2 => exact List.suffix_refl _

theorem skipLoosePrerelease_isSuffix (chars : List Char) : skipLoosePrerelease chars <:+ chars := by
  unfold skipLoosePrerelease
  split
  case h_1 => exact List.suffix_refl _
  case h_2 c behind =>
    dsimp only
    split
    · refine (skipDotted_isSuffix skips_skipLooseIdentifier? _ _).trans
        (.trans ?_ (List.suffix_cons c behind))
      cases skipped : skipLooseIdentifier? behind with
      | none => exact List.suffix_refl _
      | some rest => exact skips_skipLooseIdentifier? _ _ skipped
    · split
      · exact (skipDotted_isSuffix skips_skipLooseIdentifier? _ _).trans
          ((List.dropWhile_suffix _).trans (List.suffix_cons c behind))
      · exact List.suffix_refl _

theorem skips_skipDot? : Skips skipDot? := by
  intro chars rest skipped
  unfold skipDot? at skipped
  split at skipped
  · cases skipped
    exact List.suffix_cons '.' rest
  · cases skipped

theorem skips_skipLooseVersion? : Skips skipLooseVersion? := by
  intro chars rest skipped
  simp only [skipLooseVersion?, Option.bind_eq_bind, Option.bind_eq_some_iff, Option.pure_def,
    Option.some.injEq] at skipped
  obtain ⟨behind₁, major, behind₂, dot₁, behind₃, minor, behind₄, dot₂, behind₅, patch, rfl⟩ :=
    skipped
  exact (skipBuild_isSuffix _).trans <| (skipLoosePrerelease_isSuffix _).trans <|
    (skips_skipDigits? _ _ patch).trans <| (skips_skipDot? _ _ dot₂).trans <|
      (skips_skipDigits? _ _ minor).trans <| (skips_skipDot? _ _ dot₁).trans <|
        skips_skipDigits? _ _ major

theorem skips_skipDottedPart? : Skips skipDottedPart? := by
  intro chars rest skipped
  unfold skipDottedPart? at skipped
  split at skipped
  case h_1 behind =>
    obtain ⟨⟨part, rest'⟩, taken, rfl⟩ := Option.map_eq_some_iff.mp skipped
    exact (isSuffix_of_takePart? taken).trans (List.suffix_cons '.' behind)
  case h_2 => cases skipped

theorem skips_skipPattern? : Skips skipPattern? := by
  intro chars rest skipped
  obtain ⟨⟨major, behind⟩, taken, rfl⟩ := Option.map_eq_some_iff.mp skipped
  refine .trans ?_ (isSuffix_of_takePart? taken)
  dsimp only
  split
  case h_1 => exact List.suffix_refl _
  case h_2 behind₂ minor =>
    have second := skips_skipDottedPart? _ _ minor
    split
    case h_1 => exact second
    case h_2 behind₃ patch =>
      exact (skipBuild_isSuffix _).trans <| (skipPrerelease_isSuffix _).trans <|
        (skips_skipDottedPart? _ _ patch).trans second

/-- Skipping a version with its lead leaves an end of the text. -/
theorem skips_skip? : Skips skip? := by
  intro chars rest skipped
  have behind := List.dropWhile_suffix (l := chars) isLead
  rcases Option.or_eq_some_iff.mp skipped with loose | ⟨_, incomplete⟩
  · exact (skips_skipLooseVersion? _ _ loose).trans behind
  · exact (skips_skipPattern? _ _ incomplete).trans behind

/-! ## Reading written numbers -/

/-- No digit is a lead. -/
theorem isLead_of_isAsciiDigit {c : Char} (digit : isAsciiDigit c) : isLead c = false :=
  Text.of_isAsciiDigit (isLead · = false) (by decide) digit

/-- Nor a wildcard. -/
theorem isWildcard_of_isAsciiDigit {c : Char} (digit : isAsciiDigit c) : isWildcard c = false :=
  Text.of_isAsciiDigit (isWildcard · = false) (by decide) digit

/-- A number has no lead. -/
theorem ofChars?_decimalDigits (number : Nat) (rest : List Char) :
    ofChars? (decimalDigits number ++ rest) = ofCore? (decimalDigits number ++ rest) := by
  obtain ⟨digit, digits, written, latin, _⟩ := Text.exists_decimalDigits_eq_cons number
  have notLead : ¬ isLead digit = true := by simp [isLead_of_isAsciiDigit latin]
  rw [ofChars?, written, List.cons_append, List.dropWhile_cons_of_neg notLead]

/-- A number is a part of a version if something else stands behind it. -/
theorem takePart?_decimalDigits (number : Nat) (rest : List Char)
    (ends : ∀ c ∈ rest.head?, Text.isDecimal c = false) :
    takePart? (decimalDigits number ++ rest) = some (some (decimalDigits number), rest) := by
  have taken := Text.takeNumeral?_decimalDigits number rest ends
  obtain ⟨digit, digits, written, latin, _⟩ := Text.exists_decimalDigits_eq_cons number
  have notWildcard : ¬ isWildcard digit = true := by simp [isWildcard_of_isAsciiDigit latin]
  rw [written, List.cons_append] at taken ⊢
  rw [takePart?, if_neg notWildcard, taken]
  rfl

/-- In particular if a dot does. -/
theorem takePart?_decimalDigits_dot (number : Nat) (rest : List Char) :
    takePart? (decimalDigits number ++ '.' :: rest) =
      some (some (decimalDigits number), '.' :: rest) := by
  refine takePart?_decimalDigits number _ ?_
  rintro c ⟨⟩
  decide

/-- Or nothing at all. -/
theorem takePart?_decimalDigits_alone (number : Nat) :
    takePart? (decimalDigits number) = some (some (decimalDigits number), []) := by
  simpa using takePart?_decimalDigits number [] nofun

variable (major minor patch : Nat)

/-- A number that stands alone leaves the others open. -/
theorem ofChars?_major :
    ofChars? (decimalDigits major) = some ⟨some (decimalDigits major), none, none, []⟩ := by
  have read := ofChars?_decimalDigits major []
  rw [List.append_nil] at read
  rw [read, ofCore?, takePart?_decimalDigits_alone]

/-- So does one with a wildcard behind it. -/
theorem ofChars?_major_wildcard :
    ofChars? (decimalDigits major ++ ['.', 'x']) =
      some ⟨some (decimalDigits major), none, none, []⟩ := by
  rw [ofChars?_decimalDigits, ofCore?, takePart?_decimalDigits_dot]
  rfl

/-- Two numbers leave the third open. -/
theorem ofChars?_minor :
    ofChars? (decimalDigits major ++ '.' :: decimalDigits minor) =
      some ⟨some (decimalDigits major), some (decimalDigits minor), none, []⟩ := by
  rw [ofChars?_decimalDigits, ofCore?, takePart?_decimalDigits_dot]
  simp only [takePart?_decimalDigits_alone]

/-- So do two with a wildcard behind them. -/
theorem ofChars?_minor_wildcard :
    ofChars? (decimalDigits major ++ '.' :: (decimalDigits minor ++ ['.', 'x'])) =
      some ⟨some (decimalDigits major), some (decimalDigits minor), none, []⟩ := by
  rw [ofChars?_decimalDigits, ofCore?, takePart?_decimalDigits_dot]
  simp only [takePart?_decimalDigits_dot]
  rfl

/-- A release leaves nothing open. -/
theorem ofChars?_text_release :
    ofChars? (Version.release major minor patch).text.toList =
      some ⟨some (decimalDigits major), some (decimalDigits minor),
        some (decimalDigits patch), []⟩ := by
  rw [Version.toList_text_release, ofChars?_decimalDigits, ofCore?, takePart?_decimalDigits_dot]
  simp only [takePart?_decimalDigits_dot, takePart?_decimalDigits_alone]
  rfl

end ManifestAudit.Pattern
