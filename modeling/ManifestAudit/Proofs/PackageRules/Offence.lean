import ManifestAudit.PackageRules
import ManifestAudit.Proofs.Lookup
import ManifestAudit.Proofs.Range.Requirement
import ManifestAudit.Proofs.Rule.Run

/-!
# What fails a package.json

Nine of the fourteen rules can fail, and each of them objects to an entry of the
development dependencies. `Offence` lists the entries that are objected to, without any
mention of checks, lookups or outcomes, and `exitCode_run_eq_one_iff` says that the exit
status of a run is 1 for the documents that have such an entry and for no others.
-/

namespace ManifestAudit.PackageRules

open Lookup (isDeclared)
open Requirement (Note)

/-- The document is an object that holds the development dependencies as an object. -/
def DevDependencies (document : Json.Value) (dependencies : Json.Members) : Prop :=
  ∃ members, document = .object members ∧
    Json.Members.get? members "devDependencies" = some (.object dependencies)

/-- The value stands under the name and counts as present. -/
def Declares (dependencies : Json.Members) (name : String) (value : Json.Value) : Prop :=
  Json.Members.get? dependencies name = some value ∧ isDeclared value = true

/-- The dependencies that have a floor, a version just too low for them. -/
def floors : List (String × String) :=
  [("eslint-config-gfp", "2.9.9"), ("karma", "1.6.9"), ("karma-coverage", "1.0.9"),
    ("karma-jasmine", "1.0.9")]

/-- An entry of the development dependencies that a rule objects to. -/
inductive Offence (dependencies : Json.Members) : Prop where
  | privateEslintConfig {value : Json.Value}
      (declared : Declares dependencies "gfp-eslint-config" value)
  | privateAngularModule {text : Text}
      (held : Json.Members.get? dependencies "angular-module-no-deps" = some (.string text))
      (host : Text.ofString "stash.mrgreen.zone" <:+: text)
  | builtPhantom {value : Json.Value}
      (declared : Declares dependencies "phantomjs" value)
  | phantomLauncher {value : Json.Value}
      (declared : Declares dependencies "karma-phantomjs-launcher" value)
      (refused : Requirement.admitsText value "1.0.0" = false)
  | privatePolyfill {text : Text}
      (held : Json.Members.get? dependencies "require-polyfill" = some (.string text))
      (scheme : Text.ofString "ssh://" <:+: text)
  | floor {name floor : String} {value : Json.Value} (listed : (name, floor) ∈ floors)
      (declared : Declares dependencies name value)
      (reached : Requirement.isAboveText value floor = .ok false)

section Lookups

variable {document value : Json.Value} {name : String}

/-- A development dependency is found where the document declares it. -/
theorem devDependency_eq_iff (present : value.isNull = false) :
    devDependency document name = value ↔
      ∃ dependencies, DevDependencies document dependencies ∧
        Declares dependencies name value := by
  rw [devDependency, Lookup.dig_eq_iff_follows present]
  constructor
  · rintro ⟨follows, declared⟩
    cases follows with
    | member outer onward =>
        cases onward with
        | member inner onward =>
            cases onward
            exact ⟨_, ⟨_, rfl, outer⟩, inner, declared⟩
  · rintro ⟨dependencies, ⟨members, rfl, outer⟩, inner, declared⟩
    exact ⟨.member outer (.member inner .here), declared⟩

/-- A question to a development dependency that is present is one to a declared entry. -/
theorem devDependency_satisfies_iff (satisfies : Json.Value → Prop) :
    (devDependency document name).isNull = false ∧ satisfies (devDependency document name) ↔
      ∃ dependencies, DevDependencies document dependencies ∧
        ∃ value, Declares dependencies name value ∧ satisfies value := by
  constructor
  · rintro ⟨present, satisfied⟩
    obtain ⟨dependencies, holds, declared⟩ := (devDependency_eq_iff present).mp rfl
    exact ⟨dependencies, holds, _, declared, satisfied⟩
  · rintro ⟨dependencies, holds, value, declared, satisfied⟩
    have present := Lookup.isNull_eq_false_of_isDeclared declared.2
    have found : devDependency document name = value :=
      (devDependency_eq_iff present).mpr ⟨dependencies, holds, declared⟩
    rw [found]
    exact ⟨present, satisfied⟩

/-- A development dependency is present where the document declares it. -/
theorem devDependency_isNull_eq_false_iff :
    (devDependency document name).isNull = false ↔
      ∃ dependencies, DevDependencies document dependencies ∧
        ∃ value, Declares dependencies name value := by
  simpa using devDependency_satisfies_iff fun _ => True

/-- A text is found within a development dependency where the document has it within the
entry; a text that is not empty makes the entry count as present. -/
theorem containsText_devDependency_iff {needle : Text} (nonempty : needle ≠ []) :
    Lookup.containsText (devDependency document name) needle = true ↔
      ∃ dependencies, DevDependencies document dependencies ∧
        ∃ text, Json.Members.get? dependencies name = some (.string text) ∧ needle <:+: text := by
  constructor
  · intro contained
    cases found : devDependency document name with
    | string text =>
        rw [found, Lookup.containsText, Lookup.occursIn_iff_isInfix] at contained
        obtain ⟨dependencies, holds, held, _⟩ := (devDependency_eq_iff rfl).mp found
        exact ⟨dependencies, holds, text, held, contained⟩
    | _ => simp [found, Lookup.containsText] at contained
  · rintro ⟨dependencies, holds, text, held, contained⟩
    have declared : isDeclared (.string text) = true := by
      cases text with
      | nil => exact absurd (List.infix_nil.mp contained) nonempty
      | cons symbol rest => rfl
    have found : devDependency document name = .string text :=
      (devDependency_eq_iff rfl).mpr ⟨dependencies, holds, held, declared⟩
    rw [found, Lookup.containsText, Lookup.occursIn_iff_isInfix]
    exact contained

end Lookups

section Failures

variable {document : Json.Value}

/-- Whether the answer of a check counts against the document. -/
def Fails (answered : Noted Note Verdict) : Prop :=
  Outcome.ofVerdict answered.value = .failed

/-- Asking whether something is declared counts against no document. -/
theorem not_fails_passIfDeclared (value : Json.Value) : ¬ Fails (passIfDeclared value) := by
  unfold passIfDeclared
  cases value.isNull <;> exact Outcome.noConfusion

/-- Asking for the hooks before a push counts against no document. -/
theorem not_fails_prepushHooks : ¬ Fails (prepushHooks document) := by
  unfold prepushHooks
  split
  · exact Outcome.noConfusion
  · exact not_fails_passIfDeclared _

/-- Asking for the check after installation counts against no document. -/
theorem not_fails_runsAfterInstall : ¬ Fails (runsAfterInstall document) := by
  unfold runsAfterInstall
  split <;> exact Outcome.noConfusion

/-- An answer that is no wherever a text is found counts against the document there. -/
theorem fails_answer_if_iff {found : Bool} :
    Fails (answer (if found then .failed else .passed)) ↔ found = true := by
  cases found <;> simp [Fails, answer, Noted.silent, Outcome.ofVerdict]

/-- A question that is put to a value only if it is present counts against the document
when it is put and answered with no. -/
theorem fails_unless_absent_iff {value : Json.Value} {answered : Noted Note Bool} :
    Fails (if value.isNull then answer .notApplicable else answered.map verdict) ↔
      value.isNull = false ∧ answered.value = false := by
  obtain ⟨given, notes⟩ := answered
  cases value.isNull <;> cases given <;>
    simp [Fails, answer, Noted.silent, Noted.map, verdict, Outcome.ofVerdict]

/-- The private ESLint configuration must not be declared. -/
theorem fails_publicEslintConfig_iff :
    Fails (publicEslintConfig document) ↔
      ∃ dependencies, DevDependencies document dependencies ∧
        ∃ value, Declares dependencies "gfp-eslint-config" value := by
  rw [← devDependency_isNull_eq_false_iff]
  constructor
  · intro fails
    unfold publicEslintConfig at fails
    split at fails
    case isTrue => cases fails
    case isFalse =>
      split at fails
      case isTrue => cases fails
      case isFalse present => exact Bool.eq_false_iff.mpr present
  · intro present
    obtain ⟨dependencies, ⟨members, rfl, held⟩, _⟩ := devDependency_isNull_eq_false_iff.mp present
    have found : Lookup.dig (.object members) ["devDependencies"] = .object dependencies :=
      (Lookup.dig_eq_iff_follows_of_isDeclared rfl).mpr (.member held .here)
    rw [publicEslintConfig, found, present]
    rfl

/-- The Angular module must not be taken from the private host. -/
theorem fails_publicAngularModule_iff :
    Fails (publicAngularModule document) ↔
      ∃ dependencies, DevDependencies document dependencies ∧
        ∃ text, Json.Members.get? dependencies "angular-module-no-deps" = some (.string text) ∧
          Text.ofString "stash.mrgreen.zone" <:+: text :=
  fails_answer_if_iff.trans (containsText_devDependency_iff (by decide))

/-- The PhantomJS that is built on installation must not be declared. -/
theorem fails_prebuiltPhantom_iff :
    Fails (prebuiltPhantom document) ↔
      ∃ dependencies, DevDependencies document dependencies ∧
        ∃ value, Declares dependencies "phantomjs" value := by
  rw [← devDependency_isNull_eq_false_iff, prebuiltPhantom]
  cases (devDependency document "phantomjs").isNull with
  | true => simpa using not_fails_passIfDeclared _
  | false => exact iff_of_true rfl rfl

/-- A declared launcher must admit version 1.0.0. -/
theorem fails_phantomLauncher_iff :
    Fails (phantomLauncher document) ↔
      ∃ dependencies, DevDependencies document dependencies ∧
        ∃ value, Declares dependencies "karma-phantomjs-launcher" value ∧
          Requirement.admitsText value "1.0.0" = false := by
  have reads : Version.parse? "1.0.0" = some (.release 1 0 0) := by decide +kernel
  simp only [Requirement.admitsText_eq reads]
  exact fails_unless_absent_iff.trans (devDependency_satisfies_iff fun value =>
    (Requirement.admits value (.release 1 0 0)).value = false)

/-- The polyfill must not be taken from a private repository. -/
theorem fails_publicPolyfill_iff :
    Fails (publicPolyfill document) ↔
      ∃ dependencies, DevDependencies document dependencies ∧
        ∃ text, Json.Members.get? dependencies "require-polyfill" = some (.string text) ∧
          Text.ofString "ssh://" <:+: text :=
  fails_answer_if_iff.trans (containsText_devDependency_iff (by decide))

/-- All that a declared dependency allows must be above the floor. -/
theorem fails_floorCheck_iff {name text : String} {floor : Version}
    (reads : Version.parse? text = some floor) :
    Fails (floorCheck document name floor) ↔
      ∃ dependencies, DevDependencies document dependencies ∧
        ∃ value, Declares dependencies name value ∧
          Requirement.isAboveText value text = .ok false := by
  simp only [Requirement.isAboveText_eq reads, Except.ok.injEq]
  exact fails_unless_absent_iff.trans (devDependency_satisfies_iff fun value =>
    (Requirement.isAbove value floor).value = false)

/-- One of the floors is reached exactly when a declared dependency with a floor does not
allow versions above it alone. -/
theorem fails_floorChecks_iff :
    (Fails (floorCheck document "eslint-config-gfp" (.release 2 9 9)) ∨
        Fails (floorCheck document "karma" (.release 1 6 9)) ∨
        Fails (floorCheck document "karma-coverage" (.release 1 0 9)) ∨
        Fails (floorCheck document "karma-jasmine" (.release 1 0 9))) ↔
      ∃ dependencies, DevDependencies document dependencies ∧
        ∃ name floor value, (name, floor) ∈ floors ∧ Declares dependencies name value ∧
          Requirement.isAboveText value floor = .ok false := by
  have eslint : Version.parse? "2.9.9" = some (.release 2 9 9) := by decide +kernel
  have karma : Version.parse? "1.6.9" = some (.release 1 6 9) := by decide +kernel
  have plugin : Version.parse? "1.0.9" = some (.release 1 0 9) := by decide +kernel
  rw [fails_floorCheck_iff eslint, fails_floorCheck_iff karma, fails_floorCheck_iff plugin,
    fails_floorCheck_iff plugin]
  constructor
  · rintro (⟨dependencies, holds, value, declared, reached⟩ |
      ⟨dependencies, holds, value, declared, reached⟩ |
      ⟨dependencies, holds, value, declared, reached⟩ |
      ⟨dependencies, holds, value, declared, reached⟩) <;>
    exact ⟨dependencies, holds, _, _, value, by simp [floors], declared, reached⟩
  · rintro ⟨dependencies, holds, name, floor, value, listed, declared, reached⟩
    simp only [floors, List.mem_cons, Prod.mk.injEq, List.not_mem_nil, or_false] at listed
    rcases listed with ⟨rfl, rfl⟩ | ⟨rfl, rfl⟩ | ⟨rfl, rfl⟩ | ⟨rfl, rfl⟩
    · exact .inl ⟨dependencies, holds, value, declared, reached⟩
    · exact .inr (.inl ⟨dependencies, holds, value, declared, reached⟩)
    · exact .inr (.inr (.inl ⟨dependencies, holds, value, declared, reached⟩))
    · exact .inr (.inr (.inr ⟨dependencies, holds, value, declared, reached⟩))

/-- Some rule fails exactly when one of the nine checks that can fail does. -/
theorem exists_failed_iff_fails (options : Options) :
    (∃ rule ∈ rules, rule.outcome document options = .failed) ↔
      Fails (publicEslintConfig document) ∨ Fails (publicAngularModule document) ∨
        Fails (prebuiltPhantom document) ∨ Fails (phantomLauncher document) ∨
        Fails (publicPolyfill document) ∨
        Fails (floorCheck document "eslint-config-gfp" (.release 2 9 9)) ∨
        Fails (floorCheck document "karma" (.release 1 6 9)) ∨
        Fails (floorCheck document "karma-coverage" (.release 1 0 9)) ∨
        Fails (floorCheck document "karma-jasmine" (.release 1 0 9)) := by
  have uses : ¬ Fails (usesEslintConfig document) := not_fails_passIfDeclared _
  have documents : ¬ Fails (usesDocumentation document) := not_fails_passIfDeclared _
  have lints : ¬ Fails (hasLintScript document) := not_fails_passIfDeclared _
  have one (id description advice : String) (check : Json.Value → Noted Note Verdict) :
      (rule id description advice check).outcome document options = .failed ↔
        Fails (check document) := Iff.rfl
  simp only [rules, List.mem_cons, exists_eq_or_imp, List.not_mem_nil, or_false, false_or,
    exists_eq_left, one, uses, documents, lints, not_fails_prepushHooks,
    not_fails_runsAfterInstall]

/-- Some rule fails exactly when the development dependencies hold an offence. -/
theorem exists_failed_iff_offence (options : Options) :
    (∃ rule ∈ rules, rule.outcome document options = .failed) ↔
      ∃ dependencies, DevDependencies document dependencies ∧ Offence dependencies := by
  rw [exists_failed_iff_fails, fails_publicEslintConfig_iff, fails_publicAngularModule_iff,
    fails_prebuiltPhantom_iff, fails_phantomLauncher_iff, fails_publicPolyfill_iff,
    fails_floorChecks_iff]
  constructor
  · rintro (⟨dependencies, holds, value, declared⟩ | ⟨dependencies, holds, text, held, host⟩ |
      ⟨dependencies, holds, value, declared⟩ | ⟨dependencies, holds, value, declared, refused⟩ |
      ⟨dependencies, holds, text, held, scheme⟩ |
      ⟨dependencies, holds, name, floor, value, listed, declared, reached⟩)
    · exact ⟨dependencies, holds, .privateEslintConfig declared⟩
    · exact ⟨dependencies, holds, .privateAngularModule held host⟩
    · exact ⟨dependencies, holds, .builtPhantom declared⟩
    · exact ⟨dependencies, holds, .phantomLauncher declared refused⟩
    · exact ⟨dependencies, holds, .privatePolyfill held scheme⟩
    · exact ⟨dependencies, holds, .floor listed declared reached⟩
  · rintro ⟨dependencies, holds, offence⟩
    cases offence with
    | privateEslintConfig declared => exact .inl ⟨dependencies, holds, _, declared⟩
    | privateAngularModule held host => exact .inr (.inl ⟨dependencies, holds, _, held, host⟩)
    | builtPhantom declared => exact .inr (.inr (.inl ⟨dependencies, holds, _, declared⟩))
    | phantomLauncher declared refused =>
        exact .inr (.inr (.inr (.inl ⟨dependencies, holds, _, declared, refused⟩)))
    | privatePolyfill held scheme =>
        exact .inr (.inr (.inr (.inr (.inl ⟨dependencies, holds, _, held, scheme⟩))))
    | floor listed declared reached =>
        exact .inr (.inr (.inr (.inr (.inr
          ⟨dependencies, holds, _, _, _, listed, declared, reached⟩))))

/-- No rule fails on null. -/
theorem not_exists_failed_null (options : Options) :
    ¬ ∃ rule ∈ rules, rule.outcome .null options = .failed := by
  rw [exists_failed_iff_offence]
  rintro ⟨dependencies, ⟨members, null, _⟩, _⟩
  cases null

end Failures

/-- A value that is no text, or the text of no range, has nothing above any floor. -/
theorem isAboveText_eq_false_of_no_range {value : Json.Value} {floor : String}
    (noRange : ¬ ∃ text range, value = .string text ∧ Range.parse text = .ok range) :
    Requirement.isAboveText value floor = .ok false := by
  cases value with
  | string text =>
      cases read : Range.parse text with
      | error error => simp [Requirement.isAboveText, read]
      | ok range => exact absurd ⟨text, range, rfl, read⟩ noRange
  | _ => rfl

/-- The rules are run on every document, and the exit status is 1 exactly when the
document is an object with an object of development dependencies that holds an offence;
otherwise it is 0. A declared dependency with a floor is an offence whenever it is no
range at all. -/
theorem exitCode_run_eq_one_iff (document : Json.Value) (options : Options) :
    ∃ run, ruleSet.run document options true = .ok run ∧
      (run.report.exitCode = 1 ↔
        ∃ dependencies, DevDependencies document dependencies ∧ Offence dependencies) ∧
      (run.report.exitCode = 0 ↔
        ¬ ∃ dependencies, DevDependencies document dependencies ∧ Offence dependencies) ∧
      ∀ dependencies name floor value, (name, floor) ∈ floors →
        Declares dependencies name value →
          (¬ ∃ text range, value = .string text ∧ Range.parse text = .ok range) →
            Offence dependencies := by
  have exitCode_iff : ∃ run, ruleSet.run document options true = .ok run ∧
      (run.report.exitCode = 1 ↔
        ∃ dependencies, DevDependencies document dependencies ∧ Offence dependencies) := by
    cases present : document.isNull with
    | false =>
        refine ⟨_, RuleSet.run_found document options ruleSet present, ?_⟩
        rw [Run.exitCode_ofRules_eq_one_iff]
        exact exists_failed_iff_offence options
    | true =>
        refine ⟨⟨Report.skippedFor ruleSet, []⟩, by simp [RuleSet.run, present], ?_⟩
        refine iff_of_false (by decide) ?_
        rintro ⟨dependencies, ⟨members, rfl, _⟩, _⟩
        cases present
  obtain ⟨run, ran, failing⟩ := exitCode_iff
  refine ⟨run, ran, failing, Report.exitCode_eq_zero_iff.trans (not_congr failing), ?_⟩
  intro dependencies name floor value listed declared noRange
  exact .floor listed declared (isAboveText_eq_false_of_no_range noRange)

end ManifestAudit.PackageRules
