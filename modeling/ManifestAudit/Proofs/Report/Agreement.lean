import ManifestAudit.Lookup
import ManifestAudit.Proofs.Rule.Run
import ManifestAudit.Report.Json
import ManifestAudit.Report.Text

/-!
# Reports that tell one story

The verdict of a report is taken from its counts, while its failures, its JSON entries and
its lines are taken from its results. Nothing but `Report.record` keeps the two in step.
`Consistent` is the invariant: it holds of a report on which nothing was recorded yet, and
every attempt to record a result keeps it, whether the result is accepted or refused. What
a consistent report says of itself, in whatever form, is then one story.
-/

namespace ManifestAudit.Report

variable {report after start : Report} {result : Result}

/-- A report on which nothing was recorded: one without results, or a skipped one. -/
inductive Initial : Report → Prop where
  | empty (name : String) : Initial (Report.empty name)
  | skippedFor {Note : Type} (rules : RuleSet Note) : Initial (Report.skippedFor rules)

/-- The report after an attempt to record a result; a refused one leaves it as it was. -/
def attempt (report : Report) (result : Result) : Report :=
  match report.record result with
  | .ok after => after
  | .error _ => report

/-- The report after several attempts, one after another. -/
def attempts (report : Report) (results : List Result) : Report :=
  results.foldl attempt report

/-- A result is recorded when the report is not skipped, the result has an outcome, and no
other one is about its rule; it is then put at the end and counted. -/
theorem record_eq_ok_iff :
    report.record result = .ok after ↔
      report.skipped = false ∧ report.mentions result.ruleId = false ∧
        ∃ outcome, result.outcome = some outcome ∧
          after = { report with
            summary := report.summary.increment outcome
            results := report.results ++ [result] } := by
  unfold record
  cases skipped : report.skipped with
  | true => simp
  | false =>
      cases decided : result.outcome with
      | none => simp
      | some outcome =>
          cases mentioned : report.mentions result.ruleId with
          | true => simp
          | false => simp [eq_comm]

/-- An attempt either changes nothing or records the result. -/
theorem attempt_cases (report : Report) (result : Result) :
    report.attempt result = report ∨ report.record result = .ok (report.attempt result) := by
  unfold attempt
  cases report.record result with
  | error error => exact .inl rfl
  | ok after => exact .inr rfl

/-- A skipped report stays as it is. -/
theorem attempts_eq_of_skipped (skipped : report.skipped = true) (results : List Result) :
    report.attempts results = report := by
  induction results with
  | nil => rfl
  | cons result results inductionHypothesis =>
      have unchanged : report.attempt result = report := by simp [attempt, record, skipped]
      rw [attempts, List.foldl_cons, unchanged]
      exact inductionHypothesis

/-! ## The invariant -/

/-- The results are about different rules, the counts are those of their outcomes, and
either all of them have one or, in a skipped report, none. -/
structure Consistent (report : Report) : Prop where
  distinct : (report.results.map Result.ruleId).Nodup
  counted : report.summary = Summary.tally (report.results.filterMap Result.outcome)
  decided : ∀ result ∈ report.results, result.outcome.isSome = !report.skipped

/-- Nothing was recorded on it, so a report is consistent. -/
theorem Initial.consistent (initial : Initial report) : Consistent report := by
  cases initial with
  | empty name =>
      exact ⟨List.nodup_nil, rfl, fun result member => absurd member List.not_mem_nil⟩
  | skippedFor rules =>
      have distinct : (rules.rules.map Rule.id).Nodup :=
        ((firstRepeated?_eq_none_iff [] _).mp rules.distinct).1
      have undecided : (Report.skippedFor rules).results.filterMap Result.outcome = [] := by
        simp [Report.skippedFor, Result.ofRule]
      refine ⟨?_, ?_, ?_⟩
      · simpa [Report.skippedFor, Result.ofRule, Function.comp_def] using distinct
      · rw [undecided]
        rfl
      · simp [Report.skippedFor, Result.ofRule]

/-- Recording a result keeps a report consistent. -/
theorem Consistent.record (consistent : Consistent report)
    (recorded : report.record result = .ok after) : Consistent after := by
  obtain ⟨notSkipped, notMentioned, outcome, decided, rfl⟩ := record_eq_ok_iff.mp recorded
  refine ⟨?_, ?_, ?_⟩
  · have fresh : result.ruleId ∉ report.results.map Result.ruleId := by
      simpa [mentions] using notMentioned
    simpa [List.nodup_append] using ⟨consistent.distinct, fun other member same =>
      fresh (List.mem_map.mpr ⟨other, member, same⟩)⟩
  · simp [decided, consistent.counted, Summary.tally_concat]
  · intro other member
    rcases List.mem_append.mp member with member | member
    · exact consistent.decided other member
    · rw [List.mem_singleton.mp member, decided]
      simp [notSkipped]

/-- So do any attempts to record results. -/
theorem Consistent.attempts (consistent : Consistent report) (results : List Result) :
    Consistent (report.attempts results) := by
  induction results generalizing report with
  | nil => exact consistent
  | cons result results inductionHypothesis =>
      rw [Report.attempts, List.foldl_cons]
      refine inductionHypothesis ?_
      rcases attempt_cases report result with unchanged | recorded
      · rwa [unchanged]
      · exact consistent.record recorded

/-! ## The counts -/

namespace Consistent

/-- A count is the number of results with that outcome. -/
theorem count_eq (consistent : Consistent report) (outcome : Outcome) :
    report.summary.count outcome =
      report.results.countP (·.outcome == some outcome) := by
  rw [consistent.counted, ← List.count_filterMap]
  cases outcome <;> rfl

/-- The total is the number of results with an outcome. -/
theorem total_eq (consistent : Consistent report) :
    report.summary.total = report.results.countP (·.outcome.isSome) := by
  rw [consistent.counted, ← List.length_filterMap_eq_countP]
  generalize report.results.filterMap Result.outcome = outcomes
  induction outcomes with
  | nil => rfl
  | cons outcome outcomes inductionHypothesis =>
      cases outcome <;>
        simp_all [Summary.total, Summary.order, Summary.count, Summary.tally] <;> omega

/-- A report passes when no result has failed. -/
theorem passed_iff (consistent : Consistent report) :
    report.passed = true ↔ ∀ result ∈ report.results, result.outcome ≠ some .failed := by
  have failed := consistent.count_eq .failed
  simp only [Summary.count] at failed
  simp [passed, failed, List.countP_eq_zero]

end Consistent

/-- The failures are the results that have failed. -/
theorem failures_eq_nil_iff :
    report.failures = [] ↔ ∀ result ∈ report.results, result.outcome ≠ some .failed := by
  have failing (result : Result) : result.isFailure = true ↔ result.outcome = some .failed := by
    unfold Result.isFailure
    rcases result.outcome with _ | (_ | _ | _) <;> simp [Outcome.isFailure]
  simp [failures, failing]

/-- The exit status is 0 when the report passes. -/
theorem exitCode_eq_zero_iff_passed : report.exitCode = 0 ↔ report.passed = true := by
  unfold exitCode
  cases report.passed <;> simp

/-! ## The JSON form -/

/-- The name of an outcome's count in the JSON form of a summary. -/
def countName : Outcome → Text
  | .failed => "failed"
  | .passed => "passed"
  | .notApplicable => "not_applicable"

/-- How many entries of the JSON form give an outcome by its name. -/
def entriesWith (outcome : Outcome) (entries : List Json.Value) : Nat :=
  entries.countP fun entry => (Lookup.member entry "outcome").text? = some (outcome.text : Text)

/-- The JSON form gives the verdict and the counts that its own entries come to. -/
def JsonAgrees (report : Report) : Prop :=
  ∃ entries, Lookup.member report.toJson "rules" = .array entries ∧
    Lookup.member report.toJson "passed" = .boolean (entriesWith .failed entries == 0) ∧
    (report.passed = true ↔ entriesWith .failed entries = 0) ∧
    ∀ outcome, Lookup.member (Lookup.member report.toJson "summary") (countName outcome) =
      .integer (entriesWith outcome entries)

/-- As many entries give an outcome as there are results with it. -/
theorem entriesWith_map_toJson (outcome : Outcome) (results : List Result) :
    entriesWith outcome (results.map Result.toJson) =
      results.countP (·.outcome == some outcome) := by
  have named (result : Result) :
      (Lookup.member result.toJson "outcome").text? = some (outcome.text : Text) ↔
        result.outcome = some outcome := by
    have found : Lookup.member result.toJson "outcome" = Outcome.toJson result.outcome := rfl
    rw [found]
    rcases result.outcome with _ | decided
    · simp [Outcome.toJson, Json.Value.text?]
    · cases decided <;> cases outcome <;> decide
  simp [entriesWith, List.countP_map, Function.comp_def, named, beq_eq_decide]

/-- The JSON form of a consistent report agrees with itself. -/
theorem Consistent.jsonAgrees (consistent : Consistent report) : JsonAgrees report := by
  have failed := consistent.count_eq .failed
  refine ⟨report.results.map Result.toJson, rfl, ?_, ?_, fun outcome => ?_⟩
  · have verdict : Lookup.member report.toJson "passed" = .boolean report.passed := rfl
    rw [verdict, entriesWith_map_toJson, ← failed]
    rfl
  · rw [entriesWith_map_toJson, ← failed]
    simp [passed, Summary.count]
  · rw [entriesWith_map_toJson, ← consistent.count_eq]
    cases outcome <;> rfl

/-! ## The console form -/

/-- The text ends with the verdict and the number of rules that the results come to, or
says that there was nothing to judge. -/
def TextAgrees (report : Report) : Prop :=
  ∃ before, report.text = before ++
    if report.skipped then "\nStatus    : SKIPPED (no " ++ report.name ++ " found)"
    else "\nStatus    : " ++ (if report.failures.isEmpty then "PASS" else "FAIL") ++
      "\nRules     : " ++ toString (report.results.countP (·.outcome.isSome))

/-- A line behind others is put behind a line feed. -/
theorem joinLines_concat {lines : List String} (nonempty : lines ≠ []) (line : String) :
    Text.joinLines (lines ++ [line]) = Text.joinLines lines ++ ("\n" ++ line) := by
  have joined (separator piece : List Char) (pieces : List (List Char)) (some : pieces ≠ []) :
      separator.intercalate (pieces ++ [piece]) =
        separator.intercalate pieces ++ (separator ++ piece) := by
    induction pieces with
    | nil => exact absurd rfl some
    | cons first pieces inductionHypothesis =>
        cases pieces with
        | nil => simp [List.intercalate]
        | cons second pieces =>
            have rest := inductionHypothesis (List.cons_ne_nil _ _)
            simp_all [List.intercalate]
  apply String.toList_inj.mp
  simp [Text.joinLines, joined _ _ _ (mt List.map_eq_nil_iff.mp nonempty)]

/-- The last two lines give the verdict and the total, unless the report is skipped. -/
theorem lines_eq_of_not_skipped (notSkipped : report.skipped = false) :
    ∃ above, above ≠ [] ∧ report.lines = above ++
      ["Status    : " ++ (if report.passed then "PASS" else "FAIL")] ++
      ["Rules     : " ++ toString report.summary.total] := by
  let table := tableRow "Outcome" "Count"
  refine ⟨["Examining " ++ report.name, ruler '=' 40] ++ report.results.flatMap resultLines ++
    [ruler '-' 40, table, ruler '-' table.length] ++
    report.summary.rows.map (fun row => tableRow row.1 (toString row.2)) ++
    [ruler '-' table.length], by simp, ?_⟩
  simp [lines, closingLines, notSkipped, table]

/-- The text of a consistent report ends as its results ask for. -/
theorem Consistent.textAgrees (consistent : Consistent report) : TextAgrees report := by
  unfold TextAgrees
  cases skipped : report.skipped with
  | true =>
      rw [text, lines, closingLines, skipped]
      exact ⟨_, joinLines_concat (by simp) _⟩
  | false =>
      have verdict : report.failures.isEmpty = report.passed := by
        rw [Bool.eq_iff_iff, List.isEmpty_iff, failures_eq_nil_iff, consistent.passed_iff]
      obtain ⟨above, nonempty, laidOut⟩ := lines_eq_of_not_skipped skipped
      have statusLine : "\nStatus    : " = "\n" ++ "Status    : " := rfl
      have rulesLine : "\nRules     : " = "\n" ++ "Rules     : " := rfl
      refine ⟨Text.joinLines above, ?_⟩
      rw [text, laidOut, joinLines_concat (by simp), joinLines_concat nonempty, verdict,
        ← consistent.total_eq, statusLine, rulesLine]
      simp only [Bool.false_eq_true, if_false, String.append_assoc]

/-! ## The story -/

/-- Whatever is attempted on a report on which nothing was recorded: its results are about
different rules, its counts are those of their outcomes, and verdict, exit status,
failures, JSON form and console form all say the same. A skipped report has no outcome,
counts nothing and gives exit status 0. -/
theorem attempts_agree (initial : Initial start) (results : List Result) :
    let report := start.attempts results
    (report.results.map Result.ruleId).Nodup ∧
      (∀ outcome, report.summary.count outcome =
        report.results.countP (·.outcome == some outcome)) ∧
      report.summary.total = report.results.countP (·.outcome.isSome) ∧
      (report.passed = true ↔ ∀ result ∈ report.results, result.outcome ≠ some .failed) ∧
      (report.exitCode = 0 ↔ report.passed = true) ∧
      (report.failures = [] ↔ report.passed = true) ∧
      JsonAgrees report ∧ TextAgrees report ∧
      (start.skipped = true → report.skipped = true ∧
        (∀ result ∈ report.results, result.outcome = none) ∧
        report.summary = Summary.zero ∧ report.exitCode = 0) := by
  intro report
  have consistent : Consistent report := initial.consistent.attempts results
  refine ⟨consistent.distinct, consistent.count_eq, consistent.total_eq, consistent.passed_iff,
    exitCode_eq_zero_iff_passed, failures_eq_nil_iff.trans consistent.passed_iff.symm,
    consistent.jsonAgrees, consistent.textAgrees, fun skipped => ?_⟩
  have unchanged : report = start := attempts_eq_of_skipped skipped results
  rw [unchanged]
  cases initial with
  | empty name => cases skipped
  | skippedFor rules => exact ⟨rfl, by simp [Report.skippedFor, Result.ofRule], rfl, rfl⟩

/-- A failing result, the same rule once more, a result without an outcome, and a passing
one: two are recorded, and the report has failed. -/
theorem attempts_agree_two_recorded :
    let failing : Result := ⟨"lint-script", "has npm script lint", "add one", some .failed⟩
    let passing : Result := ⟨"karma-1.7", "uses karma", "update it", some .passed⟩
    let report := (Report.empty "package.json").attempts
      [failing, { failing with outcome := some .passed },
        { passing with outcome := none }, passing]
    Initial (Report.empty "package.json") ∧ report.results = [failing, passing] ∧
      report.passed = false ∧ report.failures ≠ [] ∧ JsonAgrees report ∧ TextAgrees report := by
  intro failing passing report
  have initial : Initial (Report.empty "package.json") := .empty _
  obtain ⟨_, _, _, passed, _, failures, json, text, _⟩ := attempts_agree initial
    [failing, { failing with outcome := some .passed }, { passing with outcome := none }, passing]
  have recorded : report.results = [failing, passing] := by decide
  have failed : ¬ report.passed = true := by
    rw [passed]
    intro none
    exact none failing (recorded ▸ List.mem_cons_self) rfl
  exact ⟨initial, recorded, Bool.eq_false_iff.mpr failed, mt failures.mp failed, json, text⟩

end ManifestAudit.Report
