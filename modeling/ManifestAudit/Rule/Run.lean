import ManifestAudit.Report.Basic

/-!
# Running a rule set

Each rule of a set is asked once, in order, about the same document and with the
same options, and its outcome is recorded. What happened on the way is kept as a
list of events, from which the log is written. A missing document is not put to
any rule.
-/

namespace ManifestAudit

/-- Something that happened while rules were run. -/
inductive Event (Note : Type) where
  | noted (note : Note)
  | decided (ruleId : String) (outcome : Outcome)

/-- A report and the events that led to it. -/
structure Run (Note : Type) where
  report : Report
  events : List (Event Note)

namespace RuleSet

variable {Note : Type}

/-- Ask one rule and record its outcome. -/
def runRule (document : Json.Value) (options : Options) (run : Run Note) (rule : Rule Note) :
    Except Report.RecordError (Run Note) := do
  let answer := rule.check document options
  let outcome := Outcome.ofVerdict answer.value
  let report ← run.report.record (Result.ofRule rule (some outcome))
  return ⟨report, run.events ++ (answer.notes.map .noted ++ [.decided rule.id outcome])⟩

/-- Run every rule. A document that was not found, or is null, makes a skipped report. -/
def run (rules : RuleSet Note) (document : Json.Value) (options : Options) (found : Bool) :
    Except Report.RecordError (Run Note) :=
  if !found || document.isNull then .ok ⟨Report.skippedFor rules, []⟩
  else rules.rules.foldlM (runRule document options) ⟨Report.empty rules.name, []⟩

end RuleSet

end ManifestAudit
