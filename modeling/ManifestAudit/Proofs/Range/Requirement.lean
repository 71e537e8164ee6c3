import ManifestAudit.Proofs.Range.Membership
import ManifestAudit.Range.Requirement
import Mathlib.Control.Monad.Basic

/-!
# Requirements and the versions below them

A requirement is put to a version in two ways: is the version admitted, and does
everything admitted lie above it. `Requirement.isAboveText_decides` ties the second
answer to the first for releases. For pre-releases the two can disagree, and
`Requirement.admitsText_and_isAboveText_iff` says exactly where.
-/

namespace ManifestAudit

namespace Range

/-- A range admits what some alternative admits. -/
theorem admits_eq_true_iff {range : Range} {version : Version} :
    range.admits version = true ↔
      ∃ alternative ∈ range.alternatives, alternative.admits version = true := by
  simp [admits]

/-- A range lies above what all its alternatives lie above. -/
theorem isAbove_eq_true_iff {range : Range} {version : Version} :
    range.isAbove version = true ↔
      ∀ alternative ∈ range.alternatives, alternative.isAbove version = true := by
  simp [isAbove]

/-- A release below a range is below everything that the range admits. -/
theorem lt_of_isAbove_of_admits {range : Range} {version other : Version}
    (isRelease : version.isRelease = true) (above : range.isAbove version = true)
    (admitted : range.admits other = true) : version < other := by
  obtain ⟨alternative, member, admitted⟩ := admits_eq_true_iff.mp admitted
  rcases Alternative.lt_of_isAbove_of_admits (isAbove_eq_true_iff.mp above alternative member)
    admitted with less | ⟨_, less⟩
  · exact less
  · exact absurd less (not_lt.mpr (Version.release_zero_le isRelease))

/-- A range admits a version and lies above it at once exactly when the version is a
pre-release of `0.0.0`, some alternative admits it although one of its comparators admits
everything, and every alternative has such a comparator or a lower bound above the version. -/
theorem admits_and_isAbove_iff {range : Range} {version : Version} :
    range.admits version = true ∧ range.isAbove version = true ↔
      version < Version.release 0 0 0 ∧
        (∃ alternative ∈ range.alternatives,
          .any ∈ alternative ∧ alternative.admits version = true) ∧
        ∀ alternative ∈ range.alternatives, .any ∈ alternative ∨
          ∃ bound, .bounded bound ∈ alternative ∧
            bound.relation.isLower = true ∧ bound.isAbove version = true := by
  rw [admits_eq_true_iff, isAbove_eq_true_iff]
  constructor
  · rintro ⟨⟨alternative, member, admitted⟩, above⟩
    have exceptional := (Alternative.lt_of_isAbove_of_admits (above alternative member)
      admitted).resolve_left (lt_irrefl version)
    refine ⟨exceptional.2, ⟨alternative, member, exceptional.1, admitted⟩,
      fun other otherMember => ?_⟩
    obtain ⟨comparator, comparatorMember, above⟩ :=
      Alternative.isAbove_eq_true_iff.mp (above other otherMember)
    cases comparator with
    | any => exact .inl comparatorMember
    | bounded bound =>
        rw [Comparator.isAbove_bounded, Bool.and_eq_true] at above
        exact .inr ⟨bound, comparatorMember, above⟩
  · rintro ⟨lowest, ⟨alternative, member, _, admitted⟩, bounds⟩
    refine ⟨⟨alternative, member, admitted⟩, fun other otherMember => ?_⟩
    rw [Alternative.isAbove_eq_true_iff]
    rcases bounds other otherMember with unrestricted | ⟨bound, boundMember, above⟩
    · exact ⟨.any, unrestricted, Comparator.isAbove_any_eq_true_iff.mpr lowest⟩
    · refine ⟨.bounded bound, boundMember, ?_⟩
      rw [Comparator.isAbove_bounded, Bool.and_eq_true]
      exact above

end Range

namespace Alternative

/-- Whether an alternative admits the version that a text names. -/
def admitsText (alternative : Alternative) (version : String) : Bool :=
  (Version.parse? version).any alternative.admits

/-- The text must name a version, and the alternative admit it. -/
theorem admitsText_eq_true_iff {alternative : Alternative} {version : String} :
    alternative.admitsText version = true ↔
      ∃ parsed, Version.parse? version = some parsed ∧ alternative.admits parsed = true :=
  Option.any_eq_true ..

end Alternative

namespace Requirement

variable {text : Text} {range : Range} {version : String} {parsed : Version}

/-- The text of a range admits the versions that the range admits. -/
theorem admitsText_string_eq_true_iff (readsRange : Range.parse text = .ok range) :
    admitsText (.string text) version = true ↔
      ∃ parsed, Version.parse? version = some parsed ∧ range.admits parsed = true := by
  unfold admitsText
  cases Version.parse? version <;> simp [admits, readsRange, Noted.silent]

/-- Being admitted is decided by the range and the version that are read. -/
theorem admitsText_string (readsRange : Range.parse text = .ok range)
    (readsVersion : Version.parse? version = some parsed) :
    admitsText (.string text) version = range.admits parsed := by
  simp [admitsText, readsVersion, admits, readsRange, Noted.silent]

/-- For a text that names a version, admission is that of the version. -/
theorem admitsText_eq (readsVersion : Version.parse? version = some parsed)
    (requirement : Json.Value) :
    admitsText requirement version = (admits requirement parsed).value := by
  rw [admitsText, readsVersion]

/-- Once the version is read, alternatives are judged one by one until one fails. -/
theorem alternativesAbove_eq (readsVersion : Version.parse? version = some parsed)
    (alternatives : List Alternative) :
    alternativesAbove version alternatives = .ok (alternatives.all (·.isAbove parsed)) := by
  induction alternatives with
  | nil => rfl
  | cons alternative alternatives inductionHypothesis =>
      rw [alternativesAbove, List.all_cons, Alternative.isAbove]
      cases alternative.lowerBound? with
      | none => rfl
      | some bound =>
          cases above : bound.isAbove parsed <;>
            simp [Version.parse, readsVersion, above, inductionHypothesis]

/-- For a text that names a version, the answer is the one for that version. -/
theorem isAboveText_eq (readsVersion : Version.parse? version = some parsed)
    (requirement : Json.Value) :
    isAboveText requirement version = .ok (isAbove requirement parsed).value := by
  cases requirement with
  | string text =>
      simp only [isAboveText, isAbove]
      cases Range.parse text with
      | error error => rfl
      | ok range => exact alternativesAbove_eq readsVersion range.alternatives
  | _ => rfl

/-- Lying above the version that a text names is decided by the range that is read. -/
theorem isAboveText_string (readsRange : Range.parse text = .ok range)
    (readsVersion : Version.parse? version = some parsed) :
    isAboveText (.string text) version = .ok (range.isAbove parsed) := by
  rw [isAboveText_eq readsVersion, isAbove, readsRange]
  rfl

/-- For a release the question whether everything a range allows is above it always has
an answer. If it is yes, every version that the range admits is greater. If it is no,
some alternative admits nothing at all or admits a version that is not greater. -/
theorem isAboveText_decides (readsRange : Range.parse text = .ok range)
    (readsVersion : Version.parse? version = some parsed)
    (isRelease : parsed.isRelease = true) :
    ∃ verdict, isAboveText (.string text) version = .ok verdict ∧
      (verdict = true → ∀ other, admitsText (.string text) other = true →
        ∃ otherParsed, Version.parse? other = some otherParsed ∧ parsed < otherParsed) ∧
      (verdict = false → ∃ alternative ∈ range.alternatives,
        (∀ other, alternative.admitsText other = false) ∨
          ∃ other otherParsed, Version.parse? other = some otherParsed ∧
            alternative.admits otherParsed = true ∧ ¬ parsed < otherParsed) := by
  refine ⟨range.isAbove parsed, isAboveText_string readsRange readsVersion,
    fun above other admitted => ?_, fun notAbove => ?_⟩
  · obtain ⟨otherParsed, readsOther, admitted⟩ :=
      (admitsText_string_eq_true_iff readsRange).mp admitted
    exact ⟨otherParsed, readsOther, Range.lt_of_isAbove_of_admits isRelease above admitted⟩
  · obtain ⟨alternative, member, notAbove⟩ : ∃ alternative ∈ range.alternatives,
        alternative.isAbove parsed = false := by
      simpa [Range.isAbove] using notAbove
    refine ⟨alternative, member, ?_⟩
    by_cases empty : ∀ other, alternative.admitsText other = false
    · exact .inl empty
    · right
      obtain ⟨other, admitted⟩ := not_forall.mp empty
      rw [Bool.not_eq_false, Alternative.admitsText_eq_true_iff] at admitted
      obtain ⟨otherParsed, readsOther, admitted⟩ := admitted
      by_cases less : parsed < otherParsed
      · -- The greater version shows that the alternative is not empty, so it has the release.
        exact ⟨version, parsed, readsVersion,
          Alternative.admits_of_lt isRelease notAbove admitted less, lt_irrefl parsed⟩
      · exact ⟨other, otherParsed, readsOther, admitted, less⟩

/-- Both kinds of alternative at once: one whose lower bound is a pre-release, and one
that is a shorthand. -/
theorem isAboveText_decides_two_alternatives :
    isAboveText (.string "^1.7.0-rc.1 || 3.x") "1.6.9" = .ok true ∧
      ∀ other, admitsText (.string "^1.7.0-rc.1 || 3.x") other = true →
        ∃ otherParsed, Version.parse? other = some otherParsed ∧
          Version.release 1 6 9 < otherParsed := by
  have answer : isAboveText (.string "^1.7.0-rc.1 || 3.x") "1.6.9" = .ok true := by
    decide +kernel
  have readsRange : Range.parse "^1.7.0-rc.1 || 3.x" =
      .ok ⟨[[.bounded ⟨.atLeast, ⟨1, 7, 0, [.label "rc", .number 1]⟩⟩,
          .bounded ⟨.less, .release 2 0 0⟩],
        [.bounded ⟨.atLeast, .release 3 0 0⟩, .bounded ⟨.less, .release 4 0 0⟩]]⟩ := by
    decide +kernel
  have readsVersion : Version.parse? "1.6.9" = some (.release 1 6 9) := by decide +kernel
  obtain ⟨verdict, decided, above, _⟩ := isAboveText_decides readsRange readsVersion rfl
  have yes : true = verdict := Except.ok.inj (answer.symm.trans decided)
  exact ⟨answer, above yes.symm⟩

/-- Only texts that are ranges admit anything. -/
theorem exists_range_of_admitsText {requirement : Json.Value}
    (admitted : admitsText requirement version = true) :
    ∃ text range, requirement = .string text ∧ Range.parse text = .ok range := by
  unfold admitsText at admitted
  cases readsVersion : Version.parse? version with
  | none => simp [readsVersion] at admitted
  | some parsed =>
      cases requirement with
      | string text =>
          cases readsRange : Range.parse text with
          | error error => simp [readsVersion, admits, readsRange, Noted.silent] at admitted
          | ok range => exact ⟨text, range, rfl, readsRange⟩
      | _ => simp [readsVersion, admits] at admitted

/-- A version is admitted by a requirement and below it at once exactly when it is a
pre-release of `0.0.0`, some alternative admits it by a comparator that admits everything
beside others, and every alternative either has such a comparator or sets a lower bound
above the version. -/
theorem admitsText_and_isAboveText_iff (readsVersion : Version.parse? version = some parsed)
    (requirement : Json.Value) :
    admitsText requirement version = true ∧ isAboveText requirement version = .ok true ↔
      parsed < Version.release 0 0 0 ∧
        ∃ text range, requirement = .string text ∧ Range.parse text = .ok range ∧
          (∃ alternative ∈ range.alternatives,
            .any ∈ alternative ∧ alternative.admits parsed = true) ∧
          ∀ alternative ∈ range.alternatives, .any ∈ alternative ∨
            ∃ bound, .bounded bound ∈ alternative ∧
              bound.relation.isLower = true ∧ bound.isAbove parsed = true := by
  constructor
  · rintro ⟨admitted, above⟩
    obtain ⟨text, range, rfl, readsRange⟩ := exists_range_of_admitsText admitted
    rw [admitsText_string readsRange readsVersion] at admitted
    rw [isAboveText_string readsRange readsVersion, Except.ok.injEq] at above
    obtain ⟨lowest, bounds⟩ := Range.admits_and_isAbove_iff.mp ⟨admitted, above⟩
    exact ⟨lowest, text, range, rfl, readsRange, bounds⟩
  · rintro ⟨lowest, text, range, rfl, readsRange, bounds⟩
    rw [admitsText_string readsRange readsVersion, isAboveText_string readsRange readsVersion,
      Except.ok.injEq]
    exact Range.admits_and_isAbove_iff.mpr ⟨lowest, bounds⟩

/-- A star beside a pre-release of `0.0.0` is the simplest case. -/
theorem admitsText_and_isAboveText_iff_star :
    Version.parse? "0.0.0-alpha" = some ⟨0, 0, 0, [.label "alpha"]⟩ ∧
      admitsText (.string "* >=0.0.0-alpha") "0.0.0-alpha" = true ∧
      isAboveText (.string "* >=0.0.0-alpha") "0.0.0-alpha" = .ok true := by
  have readsVersion : Version.parse? "0.0.0-alpha" = some ⟨0, 0, 0, [.label "alpha"]⟩ := by
    decide +kernel
  have readsRange : Range.parse "* >=0.0.0-alpha" =
      .ok ⟨[[.any, .bounded ⟨.atLeast, ⟨0, 0, 0, [.label "alpha"]⟩⟩]]⟩ := by
    decide +kernel
  refine ⟨readsVersion, (admitsText_and_isAboveText_iff readsVersion _).mpr
    ⟨by decide, _, _, rfl, readsRange, ⟨_, List.mem_singleton_self _, by decide, by decide⟩, ?_⟩⟩
  intro alternative member
  rw [List.mem_singleton.mp member]
  exact .inl List.mem_cons_self

/-- It is not so that no version is both admitted by a requirement and below it. -/
theorem exists_admitsText_and_isAboveText :
    ¬ ∀ (version : String) (parsed : Version) (requirement : Json.Value),
      Version.parse? version = some parsed →
        ¬ (admitsText requirement version = true ∧ isAboveText requirement version = .ok true) := by
  intro exclusive
  exact exclusive "0.0.0-alpha" ⟨0, 0, 0, [.label "alpha"]⟩ (.string "* >=0.0.0-alpha")
    (by decide +kernel) ⟨by decide +kernel, by decide +kernel⟩

end Requirement

end ManifestAudit
