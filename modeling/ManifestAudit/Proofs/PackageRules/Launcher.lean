import ManifestAudit.Proofs.PackageRules.Run

/-!
# The launcher's floor

The rule for the PhantomJS launcher speaks of version 1 and up, but asks about 1.0.0 alone. For
ranges that admit nothing below 1.0.0 this is not the same: `phantomLauncher_of_floor` says
that the rule objects to those that begin above 1.0.0 and to no others.
-/

namespace ManifestAudit

namespace Version

/-- Some text names the version. -/
def IsNamed (version : Version) : Prop :=
  ∃ text, parse? text = some version

end Version

namespace Range

variable {range : Range} {floor : Version}

/-- A range that admits nothing below a version refuses the version exactly when whatever it
admits lies above it. -/
theorem admits_eq_false_iff_forall_lt (named : floor.IsNamed)
    (within : ∀ version : Version, version.IsNamed → range.admits version = true →
      floor ≤ version) :
    range.admits floor = false ↔
      ∀ version : Version, version.IsNamed → range.admits version = true → floor < version := by
  constructor
  · intro refused version versionNamed admitted
    refine lt_of_le_of_ne (within version versionNamed admitted) ?_
    rintro rfl
    rw [admitted] at refused
    cases refused
  · intro above
    cases admitted : range.admits floor with
    | false => rfl
    | true => exact absurd (above floor named admitted) (lt_irrefl floor)

/-- The lower bounds decide it: each alternative that admits anything must have one above. -/
theorem admits_eq_false_iff_forall_isAbove (isRelease : floor.isRelease = true)
    (named : floor.IsNamed)
    (within : ∀ version : Version, version.IsNamed → range.admits version = true →
      floor ≤ version) :
    range.admits floor = false ↔
      ∀ alternative ∈ range.alternatives,
        (∃ version : Version, version.IsNamed ∧ alternative.admits version = true) →
          alternative.isAbove floor = true := by
  constructor
  · rintro refused alternative member ⟨version, versionNamed, admitted⟩
    have above := (admits_eq_false_iff_forall_lt named within).mp refused version versionNamed
      (admits_eq_true_iff.mpr ⟨alternative, member, admitted⟩)
    cases reached : alternative.isAbove floor with
    | true => rfl
    | false =>
        have held := Alternative.admits_of_lt isRelease reached admitted above
        rw [admits_eq_true_iff.mpr ⟨alternative, member, held⟩] at refused
        cases refused
  · intro above
    cases held : range.admits floor with
    | false => rfl
    | true =>
        obtain ⟨alternative, member, admitted⟩ := admits_eq_true_iff.mp held
        rcases Alternative.lt_of_isAbove_of_admits
          (above alternative member ⟨floor, named, admitted⟩) admitted with less | ⟨_, less⟩
        · exact absurd less (lt_irrefl floor)
        · exact absurd less (not_lt.mpr (Version.release_zero_le isRelease))

end Range

namespace PackageRules

open Requirement (admitsText)

variable {document : Json.Value} {dependencies : Json.Members} {text : Text} {range : Range}

/-- A declared range passes or fails by whether it admits 1.0.0. -/
theorem launcherOutcome_of_declares (holds : DevDependencies document dependencies)
    (declared : Declares dependencies "karma-phantomjs-launcher" (.string text))
    (readsRange : Range.parse text = .ok range) :
    launcherOutcome document =
      if range.admits (.release 1 0 0) then .passed else .failed := by
  have readsFloor : Version.parse? "1.0.0" = some (.release 1 0 0) := by decide +kernel
  have found : devDependency document "karma-phantomjs-launcher" = .string text :=
    (devDependency_eq_iff rfl).mpr ⟨dependencies, holds, declared⟩
  rw [launcherOutcome, found, Requirement.admitsText_string readsRange readsFloor]
  rfl

/-- A declared range that admits nothing below 1.0.0 passes or fails. It fails exactly when it
admits 1.0.0 neither, so that all it admits is newer still; which is to say, when each
alternative that admits anything has a lower bound above 1.0.0. -/
theorem phantomLauncher_of_floor (holds : DevDependencies document dependencies)
    (declared : Declares dependencies "karma-phantomjs-launcher" (.string text))
    (readsRange : Range.parse text = .ok range)
    (within : ∀ version parsed, Version.parse? version = some parsed →
      admitsText (.string text) version = true → Version.release 1 0 0 ≤ parsed) :
    (Outcome.ofVerdict (phantomLauncher document).value = .passed ↔
        admitsText (.string text) "1.0.0" = true) ∧
      (Fails (phantomLauncher document) ↔
        ∀ version parsed, Version.parse? version = some parsed →
          admitsText (.string text) version = true → Version.release 1 0 0 < parsed) ∧
      (Fails (phantomLauncher document) ↔
        ∀ alternative ∈ range.alternatives,
          (∃ version, alternative.admitsText version = true) →
            alternative.isAbove (.release 1 0 0) = true) := by
  have readsFloor : Version.parse? "1.0.0" = some (.release 1 0 0) := by decide +kernel
  have named : (Version.release 1 0 0).IsNamed := ⟨"1.0.0", readsFloor⟩
  have admitted {version : String} {parsed : Version}
      (readsVersion : Version.parse? version = some parsed) :=
    Requirement.admitsText_string readsRange readsVersion
  have within' : ∀ version : Version, version.IsNamed → range.admits version = true →
      Version.release 1 0 0 ≤ version := by
    rintro parsed ⟨version, readsVersion⟩ holds
    exact within version parsed readsVersion ((admitted readsVersion).trans holds)
  have decided := launcherOutcome_of_declares holds declared readsRange
  rw [launcherOutcome_eq] at decided
  have failed : Fails (phantomLauncher document) ↔ range.admits (.release 1 0 0) = false := by
    rw [Fails, decided]
    cases range.admits (.release 1 0 0) <;> simp
  refine ⟨?_, ?_, ?_⟩
  · rw [decided, admitted readsFloor]
    cases range.admits (.release 1 0 0) <;> simp
  · rw [failed, Range.admits_eq_false_iff_forall_lt named within']
    constructor
    · intro above version parsed readsVersion holds
      exact above parsed ⟨version, readsVersion⟩ ((admitted readsVersion).symm.trans holds)
    · rintro above parsed ⟨version, readsVersion⟩ holds
      exact above version parsed readsVersion ((admitted readsVersion).trans holds)
  · rw [failed, Range.admits_eq_false_iff_forall_isAbove rfl named within']
    refine forall₂_congr fun alternative _ => imp_congr_left ?_
    constructor
    · rintro ⟨parsed, ⟨version, readsVersion⟩, holds⟩
      exact ⟨version, Alternative.admitsText_eq_true_iff.mpr ⟨parsed, readsVersion, holds⟩⟩
    · rintro ⟨version, holds⟩
      obtain ⟨parsed, readsVersion, holds⟩ := Alternative.admitsText_eq_true_iff.mp holds
      exact ⟨parsed, ⟨version, readsVersion⟩, holds⟩

section Caret

/-- The launcher declared with a caret, at a version behind 1.0.0. -/
def caretDependencies : Json.Members :=
  [("karma-phantomjs-launcher", .string "^1.0.4")]

/-- The document that declares nothing else. -/
def caretDocument : Json.Value :=
  .object [("devDependencies", .object caretDependencies)]

theorem devDependencies_caretDocument : DevDependencies caretDocument caretDependencies :=
  ⟨_, rfl, rfl⟩

theorem declares_caretDependencies :
    Declares caretDependencies "karma-phantomjs-launcher" (.string "^1.0.4") :=
  ⟨rfl, rfl⟩

theorem parse_caret :
    Range.parse "^1.0.4" =
      .ok ⟨[[.bounded ⟨.atLeast, .release 1 0 4⟩, .bounded ⟨.less, .release 2 0 0⟩]]⟩ := by
  decide +kernel

/-- The caret admits nothing below 1.0.0. -/
theorem le_of_admitsText_caret (version : String) (parsed : Version)
    (readsVersion : Version.parse? version = some parsed)
    (admitted : admitsText (.string "^1.0.4") version = true) : Version.release 1 0 0 ≤ parsed := by
  rw [Requirement.admitsText_string parse_caret readsVersion] at admitted
  have above : Range.isAbove ⟨[[.bounded ⟨.atLeast, .release 1 0 4⟩,
      .bounded ⟨.less, .release 2 0 0⟩]]⟩ (.release 1 0 0) = true := by
    decide
  exact le_of_lt (Range.lt_of_isAbove_of_admits rfl above admitted)

/-- The one alternative of the caret begins above 1.0.0, so the rule objects to it. -/
theorem phantomLauncher_of_floor_caret :
    Fails (phantomLauncher caretDocument) ∧
      admitsText (.string "^1.0.4") "1.0.4" = true ∧
      ∀ version parsed, Version.parse? version = some parsed →
        admitsText (.string "^1.0.4") version = true → Version.release 1 0 0 < parsed := by
  obtain ⟨_, newer, begins⟩ := phantomLauncher_of_floor devDependencies_caretDocument
    declares_caretDependencies parse_caret le_of_admitsText_caret
  have failed : Fails (phantomLauncher caretDocument) := by
    refine begins.mpr fun alternative member _ => ?_
    rw [List.mem_singleton.mp member]
    decide
  exact ⟨failed, by decide +kernel, newer.mp failed⟩

/-- It is not so that the rule objects to no range that admits something, and nothing below
1.0.0. -/
theorem exists_floor_fails_phantomLauncher :
    ¬ ∀ (document : Json.Value) (dependencies : Json.Members) (text : Text) (range : Range),
      DevDependencies document dependencies →
        Declares dependencies "karma-phantomjs-launcher" (.string text) →
          Range.parse text = .ok range →
            (∃ version, admitsText (.string text) version = true) →
              (∀ version parsed, Version.parse? version = some parsed →
                admitsText (.string text) version = true → Version.release 1 0 0 ≤ parsed) →
                  ¬ Fails (phantomLauncher document) := by
  intro lenient
  have failed : Fails (phantomLauncher caretDocument) := by
    rw [Fails, ← launcherOutcome_eq]
    decide +kernel
  exact lenient caretDocument caretDependencies "^1.0.4" _ devDependencies_caretDocument
    declares_caretDependencies parse_caret ⟨"1.0.4", by decide +kernel⟩ le_of_admitsText_caret
    failed

end Caret

end PackageRules

end ManifestAudit
