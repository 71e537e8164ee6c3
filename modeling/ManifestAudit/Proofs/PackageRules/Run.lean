import ManifestAudit.Proofs.PackageRules.Offence

/-!
# Every rule has an outcome

A run of the rules for package.json could break off in two places: where the text of a
floor is read as a version, and where a result is recorded. Neither happens, whatever the
document is. The floors are versions, a requirement that is no range is an answer like any
other, and the identifiers of the rules are distinct. `run_records_every_rule` puts this
together.
-/

namespace ManifestAudit.PackageRules

variable {document : Json.Value}

/-- The rules with a floor: the rule, the dependency it is about, and the floor as it is
written. -/
def floorRules : List (String × String × String) :=
  [("eslint-config-gfp-3", "eslint-config-gfp", "2.9.9"), ("karma-1.7", "karma", "1.6.9"),
    ("karma-coverage-1.1", "karma-coverage", "1.0.9"),
    ("karma-jasmine-1.1", "karma-jasmine", "1.0.9")]

/-- The outcome of a rule with a floor, whose text has to be read as a version. -/
def floorOutcome (document : Json.Value) (name floor : String) :
    Except Version.ParseError Outcome :=
  let declared := devDependency document name
  if declared.isNull then .ok .notApplicable
  else (Requirement.isAboveText declared floor).map fun above =>
    if above then .passed else .failed

/-- The outcome of the rule for the launcher, from the text of the version to be admitted. -/
def launcherOutcome (document : Json.Value) : Outcome :=
  let declared := devDependency document "karma-phantomjs-launcher"
  if declared.isNull then .notApplicable
  else if Requirement.admitsText declared "1.0.0" then .passed else .failed

/-- The verdict of a yes or no. -/
theorem ofVerdict_verdict (value : Bool) :
    Outcome.ofVerdict (verdict value) = if value then .passed else .failed := by
  cases value <;> rfl

/-- Where the text of a floor names a version, the check for that version has an outcome
and the text has the same. -/
theorem floorOutcome_eq {name text : String} {floor : Version}
    (reads : Version.parse? text = some floor) :
    floorOutcome document name text =
      .ok (Outcome.ofVerdict (floorCheck document name floor).value) := by
  simp only [floorOutcome, floorCheck]
  generalize devDependency document name = declared
  by_cases absent : declared.isNull = true
  · simp only [if_pos absent]
    rfl
  · simp only [if_neg absent, Requirement.isAboveText_eq reads, Except.map, Noted.map,
      ofVerdict_verdict]

/-- The check of the launcher has the outcome that its text asks for. -/
theorem launcherOutcome_eq :
    launcherOutcome document = Outcome.ofVerdict (phantomLauncher document).value := by
  have reads : Version.parse? "1.0.0" = some (.release 1 0 0) := by decide +kernel
  simp only [launcherOutcome, phantomLauncher]
  generalize devDependency document "karma-phantomjs-launcher" = declared
  by_cases absent : declared.isNull = true
  · simp only [if_pos absent]
    rfl
  · simp only [if_neg absent, Requirement.admitsText_eq reads, Noted.map, ofVerdict_verdict]

/-- Each floor is a version, and there is a rule that asks for it. -/
theorem exists_rule_of_floor {id name floor : String} (options : Options)
    (listed : (id, name, floor) ∈ floorRules) :
    ∃ rule ∈ rules, rule.id = id ∧
      floorOutcome document name floor = .ok (rule.outcome document options) := by
  simp only [floorRules, List.mem_cons, Prod.mk.injEq, List.not_mem_nil, or_false] at listed
  rcases listed with ⟨rfl, rfl, rfl⟩ | ⟨rfl, rfl, rfl⟩ | ⟨rfl, rfl, rfl⟩ | ⟨rfl, rfl, rfl⟩
  · exact ⟨rules[9], List.getElem_mem _, rfl, floorOutcome_eq (by decide +kernel)⟩
  · exact ⟨rules[11], List.getElem_mem _, rfl, floorOutcome_eq (by decide +kernel)⟩
  · exact ⟨rules[12], List.getElem_mem _, rfl, floorOutcome_eq (by decide +kernel)⟩
  · exact ⟨rules[13], List.getElem_mem _, rfl, floorOutcome_eq (by decide +kernel)⟩

/-- The rules are run on every document but null without breaking off: the report is not
skipped and lists every rule with its texts, in order, each with an outcome. No floor is
refused as a version, and the outcomes of the version rules are those of their texts. -/
theorem run_records_every_rule (present : document.isNull = false) (options : Options) :
    ∃ run, ruleSet.run document options true = .ok run ∧
      run.report.skipped = false ∧
      run.report.results.map (fun result => (result.ruleId, result.description, result.advice)) =
        rules.map (fun rule => (rule.id, rule.description, rule.advice)) ∧
      (∀ result ∈ run.report.results, ∃ outcome, result.outcome = some outcome) ∧
      (∀ id name floor, (id, name, floor) ∈ floorRules →
        ∃ outcome, floorOutcome document name floor = .ok outcome ∧
          ∃ result ∈ run.report.results, result.ruleId = id ∧ result.outcome = some outcome) ∧
      ∃ result ∈ run.report.results, result.ruleId = "karma-phantomjs-launcher-1" ∧
        result.outcome = some (launcherOutcome document) := by
  have recorded (rule : Rule Requirement.Note) (listed : rule ∈ rules) :
      rule.evaluated document options ∈ rules.map (·.evaluated document options) :=
    List.mem_map_of_mem listed
  refine ⟨_, RuleSet.run_found document options ruleSet present, rfl, ?_, ?_, ?_, ?_⟩
  · simp [Run.ofRules, ruleSet, Rule.evaluated, Result.ofRule]
  · simp [Run.ofRules, Rule.evaluated, Result.ofRule]
  · intro id name floor listed
    obtain ⟨rule, member, rfl, decided⟩ := exists_rule_of_floor options listed
    exact ⟨_, decided, _, recorded rule member, rfl, rfl⟩
  · refine ⟨_, recorded rules[6] (List.getElem_mem _), rfl, ?_⟩
    rw [launcherOutcome_eq]
    rfl

/-- A document whose dependencies are declared by values that are no ranges. -/
def oddDocument : Json.Value :=
  .object [("devDependencies", .object [("karma", .array []), ("karma-jasmine", .string "no range"),
    ("karma-phantomjs-launcher", .integer 1)]), ("scripts", .string "none")]

/-- All of its rules have an outcome, too, and what is no range fails. -/
theorem run_records_every_rule_oddDocument :
    oddDocument.isNull = false ∧
      ∃ run, ruleSet.run oddDocument Options.default true = .ok run ∧
        run.report.skipped = false ∧ run.report.results.length = 14 ∧
        floorOutcome oddDocument "karma-jasmine" "1.0.9" = .ok .failed ∧
        ∃ result ∈ run.report.results, result.ruleId = "karma-jasmine-1.1" ∧
          result.outcome = some .failed := by
  have refused : floorOutcome oddDocument "karma-jasmine" "1.0.9" = .ok .failed := by
    decide +kernel
  obtain ⟨run, ran, notSkipped, listed, _, floors, _⟩ :=
    @run_records_every_rule oddDocument rfl Options.default
  obtain ⟨outcome, decided, result, member, about, recorded⟩ :=
    floors "karma-jasmine-1.1" "karma-jasmine" "1.0.9" (by decide)
  rw [refused, Except.ok.injEq] at decided
  have length : run.report.results.length = 14 := by simpa [rules] using congrArg List.length listed
  exact ⟨rfl, run, ran, notSkipped, length, refused, result, member, about, decided ▸ recorded⟩

end ManifestAudit.PackageRules
