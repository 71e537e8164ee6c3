import ManifestAudit.PackageRules
import ManifestAudit.Proofs.Rule.Run

/-!
# What the rules read

The rules look up twelve development dependencies and three scripts, and ask once whether
there are development dependencies at all. Of a value that is there they read no more than
its text, and that only of the dependencies that `judged` lists. `Agree` relates two documents
in which all of that is the same, and `report_run_eq_of_agree` says that such documents have
the same report: nothing else in a document matters, nor the order of its members, nor the
options. `AgreeBut` sets the texts of some dependencies aside; the rules that do not judge one
of these are not touched by the difference.
-/

namespace ManifestAudit.PackageRules

open Requirement (Note)

/-- Two values that no check can tell apart: both are absent or neither is, and they are the
same text or no texts at all. A value is alike to itself, and `1` to `1.0` and to `true`. -/
def Alike (left right : Json.Value) : Prop :=
  left.isNull = right.isNull ∧ left.text? = right.text?

instance (left right : Json.Value) : Decidable (Alike left right) :=
  inferInstanceAs (Decidable (_ ∧ _))

/-- The development dependencies that are looked up. -/
def dependencyNames : List String :=
  ["gfp-eslint-config", "eslint-config-gfp", "angular-module-no-deps", "documentation",
    "phantomjs", "phantomjs-prebuilt", "karma-phantomjs-launcher", "husky", "require-polyfill",
    "karma", "karma-coverage", "karma-jasmine"]

/-- The scripts that are looked up. -/
def scriptNames : List String :=
  ["lint", "prepush", "postinstall"]

/-- The rules that judge the text of a development dependency, each with that dependency. -/
def judged : List (String × String) :=
  [("public-angular-module-no-deps", "angular-module-no-deps"),
    ("karma-phantomjs-launcher-1", "karma-phantomjs-launcher"),
    ("public-require-polyfill", "require-polyfill"), ("eslint-config-gfp-3", "eslint-config-gfp"),
    ("karma-1.7", "karma"), ("karma-coverage-1.1", "karma-coverage"),
    ("karma-jasmine-1.1", "karma-jasmine")]

/-- Two documents in which every lookup of the rules finds the same. Of the development
dependencies as a whole only the presence counts. -/
structure Agree (left right : Json.Value) : Prop where
  presence : (Lookup.dig left ["devDependencies"]).isNull =
    (Lookup.dig right ["devDependencies"]).isNull
  dependencies : ∀ name ∈ dependencyNames,
    Alike (devDependency left name) (devDependency right name)
  scripts : ∀ name ∈ scriptNames, Alike (script left name) (script right name)

/-- Two documents that agree but for some development dependencies: these are in both or in
neither, and may have different texts. -/
structure AgreeBut (excepted : List String) (left right : Json.Value) : Prop where
  presence : (Lookup.dig left ["devDependencies"]).isNull =
    (Lookup.dig right ["devDependencies"]).isNull
  presences : ∀ name ∈ dependencyNames,
    (devDependency left name).isNull = (devDependency right name).isNull
  dependencies : ∀ name ∈ dependencyNames, name ∉ excepted →
    Alike (devDependency left name) (devDependency right name)
  scripts : ∀ name ∈ scriptNames, Alike (script left name) (script right name)

/-- Documents that agree do so without exception. -/
theorem Agree.agreeBut {left right : Json.Value} (agree : Agree left right) :
    AgreeBut [] left right where
  presence := agree.presence
  presences name listed := (agree.dependencies name listed).1
  dependencies name listed _ := agree.dependencies name listed
  scripts := agree.scripts

section Values

variable {left right : Json.Value}

/-- Texts are looked for in the text of a value. -/
theorem containsText_eq_any (value : Json.Value) (needle : Text) :
    Lookup.containsText value needle = value.text?.any (Lookup.occursIn needle) := by
  cases value <;> rfl

/-- What a requirement admits depends on its text. -/
theorem value_admits_eq_any (requirement : Json.Value) (version : Version) :
    (Requirement.admits requirement version).value = requirement.text?.any fun text =>
      (Range.parse text).toOption.any (·.admits version) := by
  cases requirement with
  | string text =>
      simp only [Requirement.admits, Json.Value.text?, Option.any_some]
      cases Range.parse text <;> rfl
  | _ => rfl

/-- Whether all that it allows is above a version does, too. -/
theorem value_isAbove_eq_any (requirement : Json.Value) (version : Version) :
    (Requirement.isAbove requirement version).value = requirement.text?.any fun text =>
      (Range.parse text).toOption.any (·.isAbove version) := by
  cases requirement with
  | string text =>
      simp only [Requirement.isAbove, Json.Value.text?, Option.any_some]
      cases Range.parse text <;> rfl
  | _ => rfl

/-- The answers of two checks come to one outcome. -/
def SameOutcome (left right : Noted Note Verdict) : Prop :=
  Outcome.ofVerdict left.value = Outcome.ofVerdict right.value

/-- Asking whether something is declared does not tell values apart that are both present. -/
theorem sameOutcome_passIfDeclared (presence : left.isNull = right.isNull) :
    SameOutcome (passIfDeclared left) (passIfDeclared right) := by
  rw [passIfDeclared, passIfDeclared, presence]
  rfl

/-- Looking for a text does not tell alike values apart. -/
theorem Alike.containsText (alike : Alike left right) (needle : Text) :
    Lookup.containsText left needle = Lookup.containsText right needle := by
  rw [containsText_eq_any, containsText_eq_any, alike.2]

/-- Nor does a question that is put to a value that is present, if it is one to its text. -/
theorem Alike.unless_absent (alike : Alike left right) (question : Json.Value → Noted Note Bool)
    {ofText : Text → Bool} (reads : ∀ value, (question value).value = value.text?.any ofText) :
    SameOutcome (if left.isNull then answer .notApplicable else (question left).map verdict)
      (if right.isNull then answer .notApplicable else (question right).map verdict) := by
  rw [alike.1]
  cases right.isNull with
  | true => rfl
  | false => simp only [SameOutcome, Bool.false_eq_true, if_false, Noted.map, reads, alike.2]

end Values

section Checks

variable {left right : Json.Value}

/-- A floor is asked of its dependency alone. -/
theorem sameOutcome_floorCheck {name : String} (floor : Version)
    (alike : Alike (devDependency left name) (devDependency right name)) :
    SameOutcome (floorCheck left name floor) (floorCheck right name floor) :=
  alike.unless_absent (Requirement.isAbove · floor) (value_isAbove_eq_any · floor)

/-- The launcher's version is asked of the launcher alone. -/
theorem sameOutcome_phantomLauncher
    (alike : Alike (devDependency left "karma-phantomjs-launcher")
      (devDependency right "karma-phantomjs-launcher")) :
    SameOutcome (phantomLauncher left) (phantomLauncher right) :=
  alike.unless_absent (Requirement.admits · (.release 1 0 0))
    (value_admits_eq_any · (.release 1 0 0))

/-- The private ESLint configuration is asked for where there are dependencies at all. -/
theorem sameOutcome_publicEslintConfig
    (presence : (Lookup.dig left ["devDependencies"]).isNull =
      (Lookup.dig right ["devDependencies"]).isNull)
    (config : (devDependency left "gfp-eslint-config").isNull =
      (devDependency right "gfp-eslint-config").isNull) :
    SameOutcome (publicEslintConfig left) (publicEslintConfig right) := by
  rw [publicEslintConfig, publicEslintConfig, presence, config]
  rfl

/-- One PhantomJS is asked for only where the other is absent. -/
theorem sameOutcome_prebuiltPhantom
    (built : (devDependency left "phantomjs").isNull = (devDependency right "phantomjs").isNull)
    (prebuilt : (devDependency left "phantomjs-prebuilt").isNull =
      (devDependency right "phantomjs-prebuilt").isNull) :
    SameOutcome (prebuiltPhantom left) (prebuiltPhantom right) := by
  rw [prebuiltPhantom, prebuiltPhantom, built]
  cases (devDependency right "phantomjs").isNull with
  | true => exact sameOutcome_passIfDeclared prebuilt
  | false => rfl

/-- The hooks before a push are asked for only where husky is declared. -/
theorem sameOutcome_prepushHooks
    (husky : (devDependency left "husky").isNull = (devDependency right "husky").isNull)
    (prepush : (script left "prepush").isNull = (script right "prepush").isNull) :
    SameOutcome (prepushHooks left) (prepushHooks right) := by
  rw [prepushHooks, prepushHooks, husky]
  cases (devDependency right "husky").isNull with
  | true => rfl
  | false => exact sameOutcome_passIfDeclared prepush

/-- A text is looked for in the Angular module alone. -/
theorem sameOutcome_publicAngularModule
    (alike : Alike (devDependency left "angular-module-no-deps")
      (devDependency right "angular-module-no-deps")) :
    SameOutcome (publicAngularModule left) (publicAngularModule right) := by
  rw [publicAngularModule, publicAngularModule, alike.containsText]
  rfl

/-- A text is looked for in the polyfill alone. -/
theorem sameOutcome_publicPolyfill
    (alike : Alike (devDependency left "require-polyfill")
      (devDependency right "require-polyfill")) :
    SameOutcome (publicPolyfill left) (publicPolyfill right) := by
  rw [publicPolyfill, publicPolyfill, alike.containsText]
  rfl

/-- A text is looked for in the script after installation alone. -/
theorem sameOutcome_runsAfterInstall
    (alike : Alike (script left "postinstall") (script right "postinstall")) :
    SameOutcome (runsAfterInstall left) (runsAfterInstall right) := by
  rw [runsAfterInstall, runsAfterInstall, alike.containsText]
  rfl

/-- A rule has the same outcome for documents that agree but for dependencies whose text it
does not judge. -/
theorem AgreeBut.outcome_eq {excepted : List String} (agree : AgreeBut excepted left right)
    (leftOptions rightOptions : Options) :
    ∀ rule ∈ rules, (∀ name ∈ excepted, (rule.id, name) ∉ judged) →
      rule.outcome left leftOptions = rule.outcome right rightOptions := by
  have present := agree.presences
  have script := agree.scripts
  -- What a rule judges is not excepted, so it is alike.
  have alike {id name : String} (reads : (id, name) ∈ judged) (listed : name ∈ dependencyNames)
      (free : ∀ other ∈ excepted, (id, other) ∉ judged) :
      Alike (devDependency left name) (devDependency right name) :=
    agree.dependencies name listed fun member => free name member reads
  simp only [dependencyNames, scriptNames, List.forall_mem_cons, List.not_mem_nil,
    false_implies, implies_true, and_true] at present script
  obtain ⟨privateConfig, publicConfig, _, documentation, built, prebuilt, _, husky, _⟩ := present
  obtain ⟨lint, prepush, postinstall⟩ := script
  simp only [rules, List.forall_mem_cons, List.not_mem_nil, false_implies, implies_true, and_true]
  exact ⟨fun _ => sameOutcome_publicEslintConfig agree.presence privateConfig,
    fun _ => sameOutcome_passIfDeclared publicConfig,
    fun free => sameOutcome_publicAngularModule (alike (by decide) (by decide) free),
    fun _ => sameOutcome_passIfDeclared documentation,
    fun _ => sameOutcome_passIfDeclared lint.1,
    fun _ => sameOutcome_prebuiltPhantom built prebuilt,
    fun free => sameOutcome_phantomLauncher (alike (by decide) (by decide) free),
    fun _ => sameOutcome_prepushHooks husky prepush.1,
    fun free => sameOutcome_publicPolyfill (alike (by decide) (by decide) free),
    fun free => sameOutcome_floorCheck _ (alike (by decide) (by decide) free),
    fun _ => sameOutcome_runsAfterInstall postinstall,
    fun free => sameOutcome_floorCheck _ (alike (by decide) (by decide) free),
    fun free => sameOutcome_floorCheck _ (alike (by decide) (by decide) free),
    fun free => sameOutcome_floorCheck _ (alike (by decide) (by decide) free)⟩

/-- Every rule has the same outcome for documents that agree. -/
theorem Agree.outcome_eq (agree : Agree left right) (leftOptions rightOptions : Options) :
    ∀ rule ∈ rules, rule.outcome left leftOptions = rule.outcome right rightOptions :=
  fun rule member => agree.agreeBut.outcome_eq leftOptions rightOptions rule member nofun

end Checks

/-- Two documents, neither of them null, that agree on what the rules look up have the same
report, results, counts and all, whatever else they hold and whatever the options are. -/
theorem report_run_eq_of_agree {left right : Json.Value} (leftPresent : left.isNull = false)
    (rightPresent : right.isNull = false) (agree : Agree left right)
    (leftOptions rightOptions : Options) :
    ∃ report, (ruleSet.run left leftOptions true).map Run.report = .ok report ∧
      (ruleSet.run right rightOptions true).map Run.report = .ok report := by
  refine ⟨(Run.ofRules right rightOptions ruleSet.name ruleSet.rules).report, ?_, ?_⟩
  · rw [RuleSet.run_found left leftOptions ruleSet leftPresent, Except.map]
    exact congrArg Except.ok
      (Run.report_ofRules_congr (agree.outcome_eq leftOptions rightOptions))
  · rw [RuleSet.run_found right rightOptions ruleSet rightPresent, Except.map]

/-- A document with an old range, an undeclared entry and members of its own. -/
def plainDocument : Json.Value :=
  .object [("name", .string "widget"),
    ("devDependencies", .object [("karma", .string "^1.6.0"), ("husky", .boolean false),
      ("documentation", .boolean true)]),
    ("scripts", .object [("lint", .string "eslint"), ("prepush", .string "")])]

/-- The same for the rules: other members in another order, and other undeclared entries. -/
def crowdedDocument : Json.Value :=
  .object [("scripts", .object [("build", .string "make"), ("lint", .string "eslint")]),
    ("devDependencies", .object [("left-pad", .string "^1.0.0"), ("documentation", .integer 1),
      ("phantomjs", .string ""), ("karma", .string "^1.6.0")]),
    ("dependencies", .object [("phantomjs", .string "1.9.8")])]

/-- The two have the same report. -/
theorem report_run_eq_of_agree_crowdedDocument :
    plainDocument.isNull = false ∧ crowdedDocument.isNull = false ∧
      Agree plainDocument crowdedDocument ∧
      ∃ report, (ruleSet.run plainDocument Options.default true).map Run.report = .ok report ∧
        (ruleSet.run crowdedDocument ⟨some "app.json", .ofText "/srv", []⟩ true).map
          Run.report = .ok report := by
  have agree : Agree plainDocument crowdedDocument :=
    ⟨by decide +kernel, by decide +kernel, by decide +kernel⟩
  exact ⟨rfl, rfl, agree, report_run_eq_of_agree rfl rfl agree _ _⟩

end ManifestAudit.PackageRules
