import ManifestAudit.Association
import ManifestAudit.Rule.Basic

/-!
# Reports

A report lists the results of one manifest's rules and counts their outcomes.
The counts are kept beside the results; `Report.record`, the only way to add a
result, raises both together and refuses results that would set them apart. A
skipped report lists rules that were not evaluated, and stays as it is.
-/

namespace ManifestAudit

/-- One line of a report: a rule's texts, and its outcome once it has one. -/
structure Result where
  ruleId : String
  description : String
  advice : String
  outcome : Option Outcome
  deriving Repr, DecidableEq

namespace Result

/-- The result of a rule. -/
def ofRule {Note : Type} (rule : Rule Note) (outcome : Option Outcome) : Result :=
  ⟨rule.id, rule.description, rule.advice, outcome⟩

/-- Whether the result counts against the manifest. -/
def isFailure (result : Result) : Bool :=
  result.outcome.any Outcome.isFailure

end Result

/-- How many results have each outcome. -/
structure Summary where
  failed : Nat
  passed : Nat
  notApplicable : Nat
  deriving Repr, DecidableEq

namespace Summary

/-- Counts of nothing. -/
def zero : Summary :=
  ⟨0, 0, 0⟩

/-- The count of an outcome. -/
def count (summary : Summary) : Outcome → Nat
  | .failed => summary.failed
  | .passed => summary.passed
  | .notApplicable => summary.notApplicable

/-- Count one more of an outcome. -/
def increment (summary : Summary) : Outcome → Summary
  | .failed => { summary with failed := summary.failed + 1 }
  | .passed => { summary with passed := summary.passed + 1 }
  | .notApplicable => { summary with notApplicable := summary.notApplicable + 1 }

/-- The order in which outcomes are listed, failures first. -/
def order : List Outcome :=
  [.failed, .passed, .notApplicable]

/-- Each outcome's label with its count. -/
def rows (summary : Summary) : List (String × Nat) :=
  order.map fun outcome => (outcome.label, summary.count outcome)

/-- How many outcomes were counted. -/
def total (summary : Summary) : Nat :=
  order.foldl (fun total outcome => total + summary.count outcome) 0

end Summary

/-- The results for one manifest, in the order of the rules. -/
structure Report where
  name : String
  results : List Result
  skipped : Bool
  summary : Summary
  deriving Repr, DecidableEq

namespace Report

/-- A report without any results. -/
def empty (name : String) : Report :=
  ⟨name, [], false, Summary.zero⟩

/-- The report of a manifest that was not evaluated: every rule without an outcome. -/
def skippedFor {Note : Type} (rules : RuleSet Note) : Report :=
  ⟨rules.name, rules.rules.map (Result.ofRule · none), true, Summary.zero⟩

/-- The outcome of each rule that has a result; of several results the last counts. -/
def outcomes (report : Report) : List (String × Option Outcome) :=
  Association.collect (· == ·) (report.results.map fun result => (result.ruleId, result.outcome))

/-- Whether some result is about a rule. -/
def mentions (report : Report) (ruleId : String) : Bool :=
  report.results.any (·.ruleId == ruleId)

/-- Whether nothing counted against the manifest. -/
def passed (report : Report) : Bool :=
  report.summary.failed == 0

/-- The results that count against the manifest. -/
def failures (report : Report) : List Result :=
  report.results.filter Result.isFailure

/-- The exit status that tells whether the manifest passed. -/
def exitCode (report : Report) : Nat :=
  if report.passed then 0 else 1

/-- Why a result cannot be recorded. -/
inductive RecordError where
  | skippedReport (name : String)
  | noOutcome (ruleId : String)
  | alreadyEvaluated (ruleId : String)
  deriving Repr, DecidableEq

/-- The wording of a refusal to record. -/
def RecordError.message : RecordError → String
  | skippedReport name => "Cannot record outcomes on skipped report " ++ name
  | noOutcome ruleId => "Rule " ++ ruleId ++ " has no outcome"
  | alreadyEvaluated ruleId => "Rule " ++ ruleId ++ " already evaluated"

/-- Add a result at the end and count its outcome. -/
def record (report : Report) (result : Result) : Except RecordError Report :=
  if report.skipped then .error (.skippedReport report.name)
  else match result.outcome with
    | none => .error (.noOutcome result.ruleId)
    | some outcome =>
      if report.mentions result.ruleId then .error (.alreadyEvaluated result.ruleId)
      else .ok { report with
        summary := report.summary.increment outcome
        results := report.results ++ [result] }

end Report

end ManifestAudit
