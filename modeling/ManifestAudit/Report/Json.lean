import ManifestAudit.Json.Printer
import ManifestAudit.Report.Basic

/-!
# Reports as JSON

The machine-readable form of a report: its verdict, its counts and every result.
-/

namespace ManifestAudit

/-- The counts as a JSON object. -/
def Summary.toJson (summary : Summary) : Json.Value :=
  .object [("failed", .integer summary.failed), ("passed", .integer summary.passed),
    ("not_applicable", .integer summary.notApplicable)]

/-- An outcome by its name, or null. -/
def Outcome.toJson (outcome : Option Outcome) : Json.Value :=
  match outcome with
  | none => .null
  | some outcome => .string outcome.text

/-- A result as a JSON object. -/
def Result.toJson (result : Result) : Json.Value :=
  .object [("rule_id", .string result.ruleId), ("description", .string result.description),
    ("error_message", .string result.advice), ("outcome", Outcome.toJson result.outcome)]

/-- A report as a JSON object. -/
def Report.toJson (report : Report) : Json.Value :=
  .object [("name", .string report.name), ("skipped", .boolean report.skipped),
    ("passed", .boolean report.passed), ("summary", report.summary.toJson),
    ("rules", .array (report.results.map Result.toJson))]

end ManifestAudit
