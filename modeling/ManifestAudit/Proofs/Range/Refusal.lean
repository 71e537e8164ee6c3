import ManifestAudit.Proofs.Range.Requirement
import ManifestAudit.Proofs.Text.Pieces

/-!
# Texts that cannot be read

A requirement and the text of a version can both be unreadable. Asking whether the one admits
the other never breaks off: whoever complains, the answer is no. Asking whether everything
allowed lies above the version can break off, on the version and on nothing else, and only
once there is a bound to compare it with. `Requirement.admitsText_and_isAboveText_refusals`
says for every requirement and every text what comes of it.
-/

namespace ManifestAudit

namespace Range

/-- Every range has an alternative. -/
theorem exists_alternatives_eq_cons {text : Text} {range : Range}
    (readsRange : parse text = .ok range) :
    ∃ first others, range.alternatives = first :: others := by
  unfold parse at readsRange
  cases cut : Text.splitDouble (.char '|') text with
  | nil => exact absurd cut (Text.splitDouble_ne_nil _ text)
  | cons piece pieces =>
      rw [cut, List.mapM_cons] at readsRange
      cases readsFirst : Alternative.parse piece with
      | error error =>
          rw [readsFirst] at readsRange
          cases readsRange
      | ok first =>
          cases readsOthers : pieces.mapM Alternative.parse with
          | error error =>
              rw [readsFirst, readsOthers] at readsRange
              cases readsRange
          | ok others =>
              rw [readsFirst, readsOthers] at readsRange
              cases readsRange
              exact ⟨first, others, rfl⟩

end Range

namespace Requirement

variable {requirement : Json.Value} {version : String} {error : Version.ParseError}

/-- Why a requirement cannot be put to the version that a text names. -/
inductive Complaint where
  | requirement (error : Range.ParseError)
  | version (error : Version.ParseError)

/-- Whether a requirement admits the version that a text names, or the complaint of the one
who reads the requirement, or else of the one who reads the version. -/
def admission (requirement : Json.Value) (version : String) : Except Complaint Bool :=
  match requirement with
  | .string text => do
    let range ← (Range.parse text).mapError .requirement
    let parsed ← (Version.parse version).mapError .version
    return range.admits parsed
  | _ => .ok false

/-- A text that names no version is refused as it is given. -/
theorem parse_eq_error (namesNone : Version.parse? version = none) :
    Version.parse version = .error (.invalid version) := by
  rw [Version.parse, namesNone]

/-- Every complaint is taken as a no. -/
theorem admitsText_eq_getD_admission :
    admitsText requirement version = (admission requirement version).toOption.getD false := by
  unfold admitsText admission
  cases names : Version.parse? version with
  | none =>
      cases requirement with
      | string text =>
          simp only [parse_eq_error names]
          cases Range.parse text <;> rfl
      | _ => rfl
  | some parsed =>
      have readsVersion : Version.parse version = .ok parsed := by rw [Version.parse, names]
      cases requirement with
      | string text =>
          simp only [admits, readsVersion]
          cases Range.parse text <;> rfl
      | _ => rfl

/-- A text that names no version is refused by alternatives whose first has a lower bound. -/
theorem alternativesAbove_of_namesNone (namesNone : Version.parse? version = none)
    (first : Alternative) (others : List Alternative) :
    alternativesAbove version (first :: others) =
      if first.lowerBound?.isSome then .error (.invalid version) else .ok false := by
  rw [alternativesAbove]
  cases first.lowerBound? with
  | none => rfl
  | some bound => simp [parse_eq_error namesNone]

/-- So is it by a range, which has a first alternative. -/
theorem isAboveText_of_namesNone (namesNone : Version.parse? version = none) {text : Text}
    {range : Range} (readsRange : Range.parse text = .ok range) :
    ∃ first others, range = ⟨first :: others⟩ ∧
      isAboveText (.string text) version =
        if first.lowerBound?.isSome then .error (.invalid version) else .ok false := by
  obtain ⟨alternatives⟩ := range
  obtain ⟨first, others, whole⟩ := Range.exists_alternatives_eq_cons readsRange
  obtain rfl : alternatives = first :: others := whole
  refine ⟨first, others, rfl, ?_⟩
  simp only [isAboveText, readsRange, alternativesAbove_of_namesNone namesNone]

/-- A requirement is refused a text that names no version exactly when it is a range whose
first alternative has a comparator that bounds from below. -/
theorem isAboveText_eq_error_iff :
    isAboveText requirement version = .error error ↔
      error = .invalid version ∧ Version.parse? version = none ∧
        ∃ text first others, requirement = .string text ∧
          Range.parse text = .ok ⟨first :: others⟩ ∧ ∃ comparator ∈ first, comparator.IsLower := by
  constructor
  · intro refused
    cases names : Version.parse? version with
    | some parsed => simp [isAboveText_eq names] at refused
    | none =>
        cases requirement with
        | string text =>
            cases readsRange : Range.parse text with
            | error fault => simp [isAboveText, readsRange] at refused
            | ok range =>
                obtain ⟨first, others, rfl, answers⟩ := isAboveText_of_namesNone names readsRange
                rw [answers] at refused
                split at refused
                case isTrue held =>
                  cases refused
                  exact ⟨rfl, rfl, text, first, others, rfl, readsRange,
                    Alternative.isSome_lowerBound?_iff.mp held⟩
                case isFalse => cases refused
        | _ => cases refused
  · rintro ⟨rfl, namesNone, text, first, others, rfl, readsRange, lower⟩
    obtain ⟨_, _, same, answers⟩ := isAboveText_of_namesNone namesNone readsRange
    cases same
    rw [answers, if_pos (Alternative.isSome_lowerBound?_iff.mpr lower)]

/-- Whether a requirement admits what a text names is always answered, with no wherever one of
the two cannot be read. Whether all that it allows lies above is answered, too, unless the
requirement is a range, the text names no version, and the first alternative has a comparator
that bounds from below; the complaint is then about the text as it is given. Where there is no
version and no complaint the answer is no. -/
theorem admitsText_and_isAboveText_refusals (requirement : Json.Value) (version : String) :
    (∀ complaint, admission requirement version = .error complaint →
      admitsText requirement version = false) ∧
    (∀ answer, admission requirement version = .ok answer →
      admitsText requirement version = answer) ∧
    (∀ error, isAboveText requirement version = .error error ↔
      error = .invalid version ∧ Version.parse? version = none ∧
        ∃ text first others, requirement = .string text ∧
          Range.parse text = .ok ⟨first :: others⟩ ∧
            ∃ comparator ∈ first, comparator.IsLower) ∧
    (∀ error, isAboveText requirement version = .error error →
      error.message = "Invalid Version: " ++ version) ∧
    (Version.parse? version = none → isAboveText requirement version ≠ .ok true) := by
  refine ⟨?_, ?_, fun error => isAboveText_eq_error_iff, ?_, ?_⟩
  · intro complaint complained
    rw [admitsText_eq_getD_admission, complained]
    rfl
  · intro answer answered
    rw [admitsText_eq_getD_admission, answered]
    rfl
  · intro error refused
    obtain ⟨rfl, _⟩ := isAboveText_eq_error_iff.mp refused
    rfl
  · intro namesNone above
    cases requirement with
    | string text =>
        cases readsRange : Range.parse text with
        | error fault => simp [isAboveText, readsRange] at above
        | ok range =>
            obtain ⟨first, others, -, answers⟩ := isAboveText_of_namesNone namesNone readsRange
            rw [answers] at above
            split at above <;> cases above
    | _ => cases above

/-- It is the first alternative that decides between a no and a complaint. -/
example : isAboveText (.string "<2.0.0 || 3.x") "latest" = .ok false ∧
    isAboveText (.string "3.x || <2.0.0") "latest" = .error (.invalid "latest") := by
  decide +kernel

end Requirement

end ManifestAudit
