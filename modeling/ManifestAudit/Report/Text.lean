import ManifestAudit.Report.Basic
import ManifestAudit.Text.Blank
import ManifestAudit.Text.Lines

/-!
# Reports for the console

A report is laid out in lines: a title, a line for each rule, under a failing
rule the lines of its advice, and then the counts and the verdict. Advice lines
are indented, so that no advice can be taken for a line of the report itself.
-/

namespace ManifestAudit.Report

/-- The mark in front of a rule. -/
def mark (outcome : Option Outcome) : String :=
  match outcome with
  | none => "SKIP"
  | some outcome => outcome.label

/-- The lines of an advice, indented, without blanks at their ends. -/
def adviceLines (advice : String) : List String :=
  (Text.splitLines advice.toList).map fun line =>
    "       " ++ String.ofList (Text.dropEnd Text.isBlank line)

/-- The lines of one result. -/
def resultLines (result : Result) : List String :=
  let title := "[" ++ Text.padRight 4 (mark result.outcome) ++ "] " ++ result.description
  title :: if result.isFailure then adviceLines result.advice else []

/-- A row of the table of counts. -/
def tableRow (name count : String) : String :=
  Text.padRight 10 name ++ " | " ++ Text.padLeft 5 count

/-- A rule across the page. -/
def ruler (c : Char) (width : Nat) : String :=
  String.ofList (List.replicate width c)

/-- The lines behind the results: the verdict of a report, with its counts
unless it was skipped. -/
def closingLines (report : Report) : List String :=
  if report.skipped then ["Status    : SKIPPED (no " ++ report.name ++ " found)"]
  else
    let heading := tableRow "Outcome" "Count"
    let line := ruler '-' heading.length
    [heading, line] ++
      report.summary.rows.map (fun row => tableRow row.1 (toString row.2)) ++
      [line, "Status    : " ++ (if report.passed then "PASS" else "FAIL"),
        "Rules     : " ++ toString report.summary.total]

/-- The lines of a report. -/
def lines (report : Report) : List String :=
  ["Examining " ++ report.name, ruler '=' 40] ++ report.results.flatMap resultLines ++
    [ruler '-' 40] ++ report.closingLines

/-- A report for the console. -/
def text (report : Report) : String :=
  Text.joinLines report.lines

end ManifestAudit.Report
