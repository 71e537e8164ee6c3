import ManifestAudit.Proofs.Association
import ManifestAudit.Proofs.Rule.Run

/-!
# A run as it is specified

A run is made of steps, each of which looks through what was recorded before. What it should
come to is said here without steps: `Report.Covers` for a document that is put to the rules,
`Report.Skips` for one that is not. `RuleSet.run_specified` says that every run comes to
that, that each rule is asked once and in order, and that the order of the rules is only the
order of the results.

A check answers and leaves notes, and nothing else of it can be seen. So the questions that
it is asked are made visible as notes: `RuleSet.observed` replaces the notes of every check
by one that repeats the question.
-/

namespace ManifestAudit

/-! ## The specification -/

/-- A question put to a rule: which rule is asked, about what, and with which options. -/
structure Question where
  ruleId : String
  document : Json.Value
  options : Options

section Specification

variable {Note : Type}

/-- The same rule with a check that notes the question and nothing else. -/
def Rule.observed (rule : Rule Note) : Rule Question where
  id := rule.id
  description := rule.description
  advice := rule.advice
  check document options :=
    ⟨(rule.check document options).value, [⟨rule.id, document, options⟩]⟩

/-- The same rules, observed. -/
def RuleSet.observed (rules : RuleSet Note) : RuleSet Question where
  name := rules.name
  rules := rules.rules.map Rule.observed
  defaultPath := rules.defaultPath
  distinct := by simpa [Function.comp_def, Rule.observed] using rules.distinct

/-- The questions that were put in a run of observed rules. -/
def Run.questions (run : Run Question) : List Question :=
  run.events.filterMap fun
    | .noted question => some question
    | .decided _ _ => none

/-- The report on a document: each rule in order with its texts and the outcome that its
verdict comes to, once under its identifier, and the counts of these outcomes. -/
structure Report.Covers (report : Report) (rules : RuleSet Note) (document : Json.Value)
    (options : Options) : Prop where
  name : report.name = rules.name
  skipped : report.skipped = false
  results : report.results = rules.rules.map fun rule =>
    ⟨rule.id, rule.description, rule.advice,
      some (Outcome.ofVerdict (rule.check document options).value)⟩
  outcomes : report.outcomes = rules.rules.map fun rule =>
    (rule.id, some (Outcome.ofVerdict (rule.check document options).value))
  distinct : (report.outcomes.map Prod.fst).Nodup
  counts : ∀ outcome, report.summary.count outcome =
    report.results.countP (·.outcome == some outcome)

/-- The report on no document: each rule in order with its texts, and no outcome. -/
structure Report.Skips (report : Report) (rules : RuleSet Note) : Prop where
  name : report.name = rules.name
  skipped : report.skipped = true
  results : report.results = rules.rules.map fun rule =>
    ⟨rule.id, rule.description, rule.advice, none⟩
  counts : report.summary = Summary.zero

/-- Two reports that differ in the order of their results at most. -/
structure Report.Reordered (report other : Report) : Prop where
  results : other.results.Perm report.results
  skipped : other.skipped = report.skipped
  outcomes : ∀ ruleId, Association.get? (· == ·) ruleId other.outcomes =
    Association.get? (· == ·) ruleId report.outcomes
  summary : other.summary = report.summary
  exitCode : other.exitCode = report.exitCode

/-! ## What a run comes to -/

variable (document : Json.Value) (options : Options)

/-- The whole run as one expression. -/
def RuleSet.specified (rules : RuleSet Note) (found : Bool) : Run Note :=
  if found && !document.isNull then Run.ofRules document options rules.name rules.rules
  else ⟨Report.skippedFor rules, []⟩

/-- Every run comes to that. -/
theorem RuleSet.run_eq_specified (rules : RuleSet Note) (found : Bool) :
    rules.run document options found = .ok (rules.specified document options found) := by
  unfold RuleSet.specified
  cases present : document.isNull with
  | false =>
      cases found with
      | false => rfl
      | true => exact RuleSet.run_found document options rules present
  | true => simp [RuleSet.run, present]

/-- Being observed changes no report. -/
theorem RuleSet.report_specified_observed (rules : RuleSet Note) (found : Bool) :
    (rules.observed.specified document options found).report =
      (rules.specified document options found).report := by
  have evaluated (rule : Rule Note) :
      rule.observed.evaluated document options = rule.evaluated document options := rfl
  have outcome (rule : Rule Note) :
      rule.observed.outcome document options = rule.outcome document options := rfl
  have unevaluated (rule : Rule Note) :
      Result.ofRule rule.observed none = Result.ofRule rule none := rfl
  unfold RuleSet.specified
  split
  · simp only [Run.ofRules, RuleSet.observed, List.map_map, Function.comp_def, evaluated, outcome]
  · simp only [Report.skippedFor, RuleSet.observed, List.map_map, Function.comp_def, unevaluated]

/-- Observed rules note one question each, in order. -/
theorem Run.questions_ofRules_observed (name : String) (rules : List (Rule Note)) :
    (Run.ofRules document options name (rules.map Rule.observed)).questions =
      rules.map fun rule => ⟨rule.id, document, options⟩ := by
  simp only [Run.questions, Run.ofRules]
  induction rules with
  | nil => rfl
  | cons rule rules inductionHypothesis =>
      rw [List.map_cons, List.flatMap_cons, List.filterMap_append, inductionHypothesis]
      rfl

/-- Where the results are about distinct rules, the outcomes are theirs, in order. -/
theorem Report.outcomes_eq_map {report : Report}
    (distinct : (report.results.map Result.ruleId).Nodup) :
    report.outcomes = report.results.map fun result => (result.ruleId, result.outcome) :=
  Association.collect_of_nodup (by simpa [Function.comp_def] using distinct)

/-- The results of a run are about the rules of the set, each once. -/
theorem RuleSet.nodup_ruleIds_specified (rules : RuleSet Note) (found : Bool) :
    ((rules.specified document options found).report.results.map Result.ruleId).Nodup := by
  have distinct : (rules.rules.map Rule.id).Nodup :=
    ((firstRepeated?_eq_none_iff [] _).mp rules.distinct).1
  unfold RuleSet.specified
  split
  · simpa [Run.ofRules, Rule.evaluated, Result.ofRule, Function.comp_def] using distinct
  · simpa [Report.skippedFor, Result.ofRule, Function.comp_def] using distinct

/-- The run of a document covers it. -/
theorem RuleSet.covers_specified (rules : RuleSet Note) (present : document.isNull = false) :
    (rules.specified document options true).report.Covers rules document options := by
  have distinct := rules.nodup_ruleIds_specified document options true
  have outcomes := Report.outcomes_eq_map distinct
  have whole : rules.specified document options true =
      Run.ofRules document options rules.name rules.rules := by
    simp [RuleSet.specified, present]
  rw [whole] at distinct outcomes ⊢
  refine ⟨rfl, rfl, rfl, ?_, ?_, fun outcome => ?_⟩
  · rw [outcomes]
    simp [Run.ofRules, Rule.evaluated, Rule.outcome, Result.ofRule]
  · rw [outcomes]
    simpa [Function.comp_def] using distinct
  · cases outcome <;>
      simp [Run.ofRules, Summary.tally, Summary.count, Rule.evaluated, Result.ofRule,
        List.count_eq_countP, List.countP_map, Function.comp_def]

/-- The run of no document skips the rules. -/
theorem RuleSet.skips_specified (rules : RuleSet Note) {found : Bool}
    (absent : found = false ∨ document.isNull = true) :
    (rules.specified document options found).report.Skips rules := by
  have whole : rules.specified document options found = ⟨Report.skippedFor rules, []⟩ := by
    rcases absent with absent | absent <;> simp [RuleSet.specified, absent]
  rw [whole]
  exact ⟨rfl, rfl, rfl, rfl⟩

/-- Reports on distinct rules whose results are the same but for their order, and that are
skipped and counted alike, differ in that order only. -/
theorem Report.Reordered.of_perm {report other : Report}
    (distinct : (report.results.map Result.ruleId).Nodup)
    (results : other.results.Perm report.results) (skipped : other.skipped = report.skipped)
    (summary : other.summary = report.summary) : report.Reordered other where
  results := results
  skipped := skipped
  outcomes := by
    intro ruleId
    have distinct' : (other.results.map Result.ruleId).Nodup :=
      (results.map Result.ruleId).nodup_iff.mpr distinct
    rw [Report.outcomes_eq_map distinct, Report.outcomes_eq_map distinct']
    exact Association.get?_eq_of_perm (results.map _) (by simpa [Function.comp_def]) ruleId
  summary := summary
  exitCode := by rw [Report.exitCode, Report.exitCode, Report.passed, Report.passed, summary]

/-- The same outcomes in another order are counted alike. -/
theorem Summary.tally_eq_of_perm {outcomes others : List Outcome}
    (permuted : others.Perm outcomes) : Summary.tally others = Summary.tally outcomes := by
  simp only [Summary.tally, permuted.count_eq]

/-- The same rules in another order have the same results in another order. -/
theorem RuleSet.reordered_specified {rules other : RuleSet Note}
    (permuted : other.rules.Perm rules.rules) (found : Bool) :
    (rules.specified document options found).report.Reordered
      (other.specified document options found).report := by
  refine .of_perm (rules.nodup_ruleIds_specified document options found) ?_ ?_ ?_ <;>
    unfold RuleSet.specified <;> split
  · exact permuted.map _
  · exact permuted.map _
  · rfl
  · rfl
  · exact Summary.tally_eq_of_perm (permuted.map _)
  · rfl

/-- Every run of every rule set has a report. Where a document is missing or null, no rule
is asked and the report skips them; otherwise each rule is asked once, in order, about that
document and with those options, and the report covers them. Without options the default
ones hold. The same rules in another order have the same report up to that order. -/
theorem RuleSet.run_specified (rules : RuleSet Note) (given : Option Options) (found : Bool) :
    let options := given.getD Options.default
    ∃ run observed, rules.run document options found = .ok run ∧
      rules.observed.run document options found = .ok observed ∧
      observed.report = run.report ∧
      (found = false ∨ document.isNull = true →
        run.report.Skips rules ∧ observed.questions = []) ∧
      (found = true → document.isNull = false →
        run.report.Covers rules document options ∧
          observed.questions = rules.rules.map fun rule => ⟨rule.id, document, options⟩) ∧
      ∀ other : RuleSet Note, other.rules.Perm rules.rules →
        ∃ otherRun, other.run document options found = .ok otherRun ∧
          run.report.Reordered otherRun.report := by
  intro options
  refine ⟨_, _, rules.run_eq_specified document options found,
    rules.observed.run_eq_specified document options found,
    rules.report_specified_observed document options found, ?_, ?_, ?_⟩
  · intro absent
    refine ⟨rules.skips_specified document options absent, ?_⟩
    rcases absent with absent | absent <;> simp [RuleSet.specified, absent, Run.questions]
  · rintro rfl present
    refine ⟨rules.covers_specified document options present, ?_⟩
    have whole : rules.observed.specified document options true =
        Run.ofRules document options rules.name (rules.rules.map Rule.observed) := by
      simp [RuleSet.specified, present, RuleSet.observed]
    rw [whole]
    exact Run.questions_ofRules_observed document options rules.name rules.rules
  · intro other permuted
    exact ⟨_, other.run_eq_specified document options found,
      RuleSet.reordered_specified document options permuted found⟩

end Specification

/-- A rule whose check answers the same to every question. -/
def Rule.constant (id : String) (verdict : Verdict) : Rule Unit :=
  ⟨id, "rule " ++ id, "mend " ++ id, fun _ _ => .silent verdict⟩

/-- Rules that fail, pass, answer with a text and have no opinion. -/
def RuleSet.motley : RuleSet Unit where
  name := "package.json"
  rules := [.constant "a" (.outcome .failed), .constant "b" (.value (.boolean true)),
    .constant "c" (.value (.string "passed")), .constant "d" (.value .null)]
  defaultPath := "package.json"
  distinct := by decide

/-- The same rules, the last first. -/
def RuleSet.motleyReversed : RuleSet Unit where
  name := "package.json"
  rules := RuleSet.motley.rules.reverse
  defaultPath := "package.json"
  distinct := by decide

/-- Put to an empty object, each of the four is asked once and two of them fail, in either
order; put to nothing, none is asked. -/
theorem RuleSet.run_specified_motley :
    (∃ run observed reversed, motley.run (.object []) Options.default true = .ok run ∧
      motley.observed.run (.object []) Options.default true = .ok observed ∧
      motleyReversed.run (.object []) Options.default true = .ok reversed ∧
      run.report.results.map Result.outcome =
        [some .failed, some .passed, some .failed, some .notApplicable] ∧
      observed.questions.map Question.ruleId = ["a", "b", "c", "d"] ∧
      run.report.Reordered reversed.report) ∧
    ∃ run observed, motley.run .null Options.default true = .ok run ∧
      motley.observed.run .null Options.default true = .ok observed ∧
      run.report.Skips motley ∧ observed.questions = [] := by
  refine ⟨?_, ?_⟩
  · obtain ⟨run, observed, ran, ranObserved, _, _, asked, reordered⟩ :=
      run_specified (.object []) motley none true
    obtain ⟨covers, questions⟩ := asked rfl rfl
    obtain ⟨reversed, ranReversed, same⟩ := reordered motleyReversed (List.reverse_perm _)
    refine ⟨run, observed, reversed, ran, ranObserved, ranReversed, ?_, ?_, same⟩
    · rw [covers.results]
      rfl
    · rw [questions]
      rfl
  · obtain ⟨run, observed, ran, ranObserved, _, skipped, _⟩ := run_specified .null motley none true
    obtain ⟨skips, questions⟩ := skipped (.inr rfl)
    exact ⟨run, observed, ran, ranObserved, skips, questions⟩

end ManifestAudit
