import ManifestAudit.Proofs.Text.Lines
import ManifestAudit.Report.Text

/-!
# What the console text tells

The text of a report is a column of lines: titles, advice, a ruler, and then the verdict with
a table. An advice is free text, and may look like any of these. It is told from them by its
indentation, and its lines by the line feeds, which no line holds. So the text tells what the
report is: `text_eq_iff_told` says that two reports have one text exactly when they have the
same name, are both skipped or both not, tell the same of their results in the same order, and
have the same counts unless they are skipped.
-/

namespace ManifestAudit

/-- What the lines of a result tell of it: its outcome, its description, and the lines of the
advice if it fails. -/
@[ext]
structure Result.Told where
  outcome : Option Outcome
  description : String
  remediation : List String
  deriving DecidableEq

namespace Result

/-- The lines of the advice for a result that fails, without the blanks at their ends. -/
def remediation (result : Result) : List String :=
  if result.isFailure then
    (Text.splitLines result.advice.toList).map fun line =>
      String.ofList (Text.dropEnd Text.isBlank line)
  else []

/-- What is told of a result. -/
def told (result : Result) : Told :=
  ⟨result.outcome, result.description, result.remediation⟩

end Result

namespace Report

open Text (IsLine)

/-- The name of the report and the descriptions of its results hold no line feed. -/
structure IsLined (report : Report) : Prop where
  name : IsLine report.name
  descriptions : ∀ result ∈ report.results, IsLine result.description

/-- How far an advice is indented. -/
def indentation : String := "       "

/-- The line that a result begins with. -/
def titleLine (outcome : Option Outcome) (description : String) : String :=
  "[" ++ Text.padRight 4 (mark outcome) ++ "] " ++ description

/-- The lines that tell a result. -/
def toldLines (told : Result.Told) : List String :=
  titleLine told.outcome told.description :: told.remediation.map (indentation ++ ·)

/-- The lines of a result are those of what they tell. -/
theorem resultLines_eq_toldLines (result : Result) : resultLines result = toldLines result.told := by
  unfold resultLines toldLines Result.told Result.remediation adviceLines
  cases result.isFailure with
  | true => simp [titleLine, indentation]
  | false => simp [titleLine]

/-- The lines between the heading of a report and what stands behind the ruler. -/
theorem flatMap_resultLines (results : List Result) :
    results.flatMap resultLines = (results.map Result.told).flatMap toldLines := by
  rw [List.flatMap_map, funext resultLines_eq_toldLines]

/-- The lines of a report that are no advice. -/
def frameLines (report : Report) : List String :=
  ["Examining " ++ report.name, ruler '=' 40] ++
    report.results.map (fun result => titleLine result.outcome result.description) ++
    [ruler '-' 40] ++ report.closingLines

/-! ## Every line is one -/

/-- What holds of the four marks holds of the mark of every result. -/
theorem forall_mark (property : String → Prop)
    (each : ∀ text ∈ ["SKIP", "PASS", "FAIL", "N/A"], property text) (outcome : Option Outcome) :
    property (mark outcome) := by
  apply each
  rcases outcome with _ | (_ | _ | _) <;> decide

theorem isLine_titleLine {outcome : Option Outcome} {description : String}
    (isLine : IsLine description) : IsLine (titleLine outcome description) := by
  have marked : IsLine (mark outcome) := forall_mark IsLine (by decide) outcome
  simp only [titleLine, Text.isLine_append_iff, Text.isLine_padRight_iff]
  exact ⟨⟨⟨by decide, marked⟩, by decide⟩, isLine⟩

theorem isLine_of_mem_toldLines {result : Result} (isLine : IsLine result.description) :
    ∀ line ∈ toldLines result.told, IsLine line := by
  intro line member
  rcases List.mem_cons.mp member with rfl | member
  · exact isLine_titleLine isLine
  · obtain ⟨text, told, rfl⟩ := List.mem_map.mp member
    rw [Text.isLine_append_iff]
    refine ⟨by decide, ?_⟩
    simp only [Result.told, Result.remediation] at told
    split at told
    case isTrue =>
      obtain ⟨cut, cutMember, rfl⟩ := List.mem_map.mp told
      exact Text.isLine_dropEnd_of_mem_splitLines cutMember _
    case isFalse => cases told

theorem isLine_tableRow {name count : String} (isLine : IsLine name) (isLine' : IsLine count) :
    IsLine (tableRow name count) := by
  simp only [tableRow, Text.isLine_append_iff, Text.isLine_padRight_iff, Text.isLine_padLeft_iff]
  exact ⟨⟨isLine, by decide⟩, isLine'⟩

/-- What holds of every shape of a closing line holds of the closing lines. -/
theorem forall_mem_closingLines {report : Report} (property : String → Prop)
    (skipped : property ("Status    : SKIPPED (no " ++ report.name ++ " found)"))
    (heading : property (tableRow "Outcome" "Count"))
    (ruled : property (ruler '-' (tableRow "Outcome" "Count").length))
    (row : ∀ outcome count, property (tableRow (Outcome.label outcome) (toString (count : Nat))))
    (status : ∀ verdict ∈ ["PASS", "FAIL"], property ("Status    : " ++ verdict))
    (total : ∀ count, property ("Rules     : " ++ toString (count : Nat))) :
    ∀ line ∈ report.closingLines, property line := by
  intro line member
  unfold closingLines at member
  split at member
  case isTrue =>
    rw [List.mem_singleton.mp member]
    exact skipped
  case isFalse =>
    simp only [Summary.rows, List.map_map, List.mem_append, List.mem_cons, List.not_mem_nil,
      or_false, List.mem_map] at member
    rcases member with ((rfl | rfl) | ⟨outcome, -, rfl⟩) | rfl | rfl | rfl
    · exact heading
    · exact ruled
    · exact row outcome _
    · exact ruled
    · exact status _ (by split <;> simp)
    · exact total _

theorem isLine_of_mem_closingLines {report : Report} (isLine : IsLine report.name) :
    ∀ line ∈ report.closingLines, IsLine line := by
  apply forall_mem_closingLines
  case skipped =>
    simp only [Text.isLine_append_iff]
    exact ⟨⟨by decide, isLine⟩, by decide⟩
  case heading => decide
  case ruled => decide
  case row =>
    intro outcome count
    exact isLine_tableRow (forall_mark IsLine (by decide) (some outcome)) (Text.isLine_toString count)
  case status => decide
  case total =>
    intro count
    exact Text.isLine_append_iff.mpr ⟨by decide, Text.isLine_toString count⟩

/-- The lines of a report are lines. -/
theorem IsLined.isLine_of_mem_lines {report : Report} (lined : report.IsLined) :
    ∀ line ∈ report.lines, IsLine line := by
  intro line member
  simp only [lines, List.mem_append, List.mem_cons, List.not_mem_nil, or_false,
    List.mem_flatMap] at member
  rcases member with (((rfl | rfl) | ⟨result, listed, told⟩) | rfl) | closing
  · rw [Text.isLine_append_iff]
    exact ⟨by decide, lined.name⟩
  · decide
  · rw [resultLines_eq_toldLines] at told
    exact isLine_of_mem_toldLines (lined.descriptions result listed) line told
  · decide
  · exact isLine_of_mem_closingLines lined.name line closing

/-- The text of a report is cut into its lines. -/
theorem IsLined.linesOf_text {report : Report} (lined : report.IsLined) :
    Text.linesOf report.text = report.lines :=
  Text.linesOf_joinLines (List.cons_ne_nil _ _) lined.isLine_of_mem_lines

/-! ## Only an advice is indented -/

/-- Whether a line begins with a space. -/
def isIndented (line : String) : Bool :=
  line.toList.head? == some ' '

theorem isIndented_indentation_append (line : String) : isIndented (indentation ++ line) = true := by
  simp [isIndented, indentation]

theorem isIndented_titleLine (outcome : Option Outcome) (description : String) :
    isIndented (titleLine outcome description) = false := by
  simp [isIndented, titleLine]

theorem isIndented_ruler (width : Nat) : isIndented (ruler '-' width) = false := by
  cases width <;> simp [isIndented, ruler, List.replicate_succ]

theorem isIndented_of_mem_closingLines {report : Report} :
    ∀ line ∈ report.closingLines, isIndented line = false := by
  apply forall_mem_closingLines
  case skipped => simp [isIndented]
  case heading => decide
  case ruled => decide
  case row =>
    intro outcome count
    cases outcome <;> simp [isIndented, tableRow, Text.padRight, Outcome.label]
  case status => decide
  case total => simp [isIndented]

theorem filter_toldLines (told : Result.Told) :
    (toldLines told).filter (fun line => !isIndented line) =
      [titleLine told.outcome told.description] := by
  have advice : (told.remediation.map (indentation ++ ·)).filter (fun line => !isIndented line) =
      [] := by
    simp [isIndented_indentation_append]
  rw [toldLines, List.filter_cons_of_pos (by simp [isIndented_titleLine]), advice]

/-- The lines of a report that are not indented are those that are no advice. -/
theorem filter_lines (report : Report) :
    report.lines.filter (fun line => !isIndented line) = report.frameLines := by
  have opening : ["Examining " ++ report.name, ruler '=' 40].filter
      (fun line => !isIndented line) = ["Examining " ++ report.name, ruler '=' 40] := by
    simp [isIndented, ruler, List.replicate_succ]
  have titles : (report.results.flatMap resultLines).filter (fun line => !isIndented line) =
      report.results.map fun result => titleLine result.outcome result.description := by
    simp only [List.filter_flatMap, resultLines_eq_toldLines, filter_toldLines]
    rw [List.map_eq_flatMap]
    rfl
  have ruled : [ruler '-' 40].filter (fun line => !isIndented line) = [ruler '-' 40] := by
    simp [isIndented_ruler]
  have closing : report.closingLines.filter (fun line => !isIndented line) =
      report.closingLines := by
    simpa using isIndented_of_mem_closingLines
  rw [lines, frameLines, List.filter_append, List.filter_append, List.filter_append, opening,
    titles, ruled, closing]

/-! ## What the lines tell -/

/-- A title tells the outcome and the description. -/
theorem titleLine_inj {left right : Option Outcome} {description other : String}
    (same : titleLine left description = titleLine right other) :
    left = right ∧ description = other := by
  have width (outcome : Option Outcome) : (Text.padRight 4 (mark outcome)).length = 4 :=
    Text.length_padRight (forall_mark (·.length ≤ 4) (by decide) outcome)
  have marksDiffer : ∀ left right : Option Outcome,
      Text.padRight 4 (mark left) = Text.padRight 4 (mark right) → left = right := by
    rintro (_ | _ | _ | _) (_ | _ | _ | _) <;> decide
  simp only [titleLine, String.append_assoc, String.append_right_inj] at same
  have chars := congrArg String.toList same
  simp only [String.toList_append] at chars
  obtain ⟨marks, rest⟩ := List.append_inj chars (by simp only [String.length_toList, width])
  exact ⟨marksDiffer left right (String.toList_inj.mp marks),
    String.toList_inj.mp (List.append_cancel_left rest)⟩

/-- The lines of a result tell what is told of it, when no advice follows them. -/
theorem toldLines_append_inj {left right : Result.Told} {rest other : List String}
    (ends : ∀ line ∈ rest.head?, isIndented line = false)
    (ends' : ∀ line ∈ other.head?, isIndented line = false)
    (same : toldLines left ++ rest = toldLines right ++ other) : left = right ∧ rest = other := by
  have indented (remediation : List String) :
      ∀ line ∈ remediation.map (indentation ++ ·), isIndented line = true := by
    simp [isIndented_indentation_append]
  obtain ⟨taken, dropped⟩ := Text.takeWhile_append_of_head? (indented left.remediation) rest ends
  obtain ⟨taken', dropped'⟩ :=
    Text.takeWhile_append_of_head? (indented right.remediation) other ends'
  have titles := (List.cons.inj same).1
  have behind : left.remediation.map (indentation ++ ·) ++ rest =
      right.remediation.map (indentation ++ ·) ++ other := (List.cons.inj same).2
  have advices : left.remediation.map (indentation ++ ·) =
      right.remediation.map (indentation ++ ·) := by
    rw [← taken, behind, taken']
  have rests : rest = other := by rw [← dropped, behind, dropped']
  obtain ⟨outcomes, descriptions⟩ := titleLine_inj titles
  have remediations : left.remediation = right.remediation :=
    (List.map_inj_right fun _ _ => (String.append_right_inj _).mp).mp advices
  exact ⟨Result.Told.ext outcomes descriptions remediations, rests⟩

/-- No advice stands in front of other results or the ruler behind them. -/
theorem isIndented_head?_flatMap_toldLines (results : List Result.Told) (rest : List String) :
    ∀ line ∈ (results.flatMap toldLines ++ ruler '-' 40 :: rest).head?,
      isIndented line = false := by
  intro line first
  cases results with
  | nil =>
      cases first
      exact isIndented_ruler 40
  | cons told results =>
      cases first
      exact isIndented_titleLine told.outcome told.description

/-- The lines down to the ruler tell what is told of the results. -/
theorem flatMap_toldLines_inj {left right : List Result.Told} {rest other : List String}
    (same : left.flatMap toldLines ++ ruler '-' 40 :: rest =
      right.flatMap toldLines ++ ruler '-' 40 :: other) :
    left = right ∧ rest = other := by
  have noTitle (told : Result.Told) : ruler '-' 40 ≠ titleLine told.outcome told.description := by
    intro equal
    have heads := congrArg (fun line : String => line.toList.head?) equal
    simp [ruler, titleLine] at heads
  -- Results are taken off both fronts; the ruler is no title, so it ends the two lists together.
  induction left generalizing right with
  | nil =>
      cases right with
      | nil => exact ⟨rfl, (List.cons.inj same).2⟩
      | cons told right => exact absurd (List.cons.inj same).1 (noTitle told)
  | cons told left inductionHypothesis =>
      cases right with
      | nil => exact absurd (List.cons.inj same).1.symm (noTitle told)
      | cons told' right =>
          rw [List.flatMap_cons, List.flatMap_cons, List.append_assoc, List.append_assoc] at same
          obtain ⟨rfl, behind⟩ := toldLines_append_inj (isIndented_head?_flatMap_toldLines _ _)
            (isIndented_head?_flatMap_toldLines _ _) same
          obtain ⟨rfl, rests⟩ := inductionHypothesis behind
          exact ⟨rfl, rests⟩

/-- A row tells its count. -/
theorem tableRow_toString_inj {name : String} {left right : Nat}
    (same : tableRow name (toString left) = tableRow name (toString right)) : left = right := by
  unfold tableRow at same
  exact Text.padLeft_toString_inj ((String.append_right_inj _).mp same)

/-- The rows of the table tell the counts. -/
theorem rows_inj {left right : Summary}
    (same : left.rows.map (fun row => tableRow row.1 (toString row.2)) =
      right.rows.map (fun row => tableRow row.1 (toString row.2))) : left = right := by
  have counts : ∀ outcome ∈ Summary.order, left.count outcome = right.count outcome := by
    intro outcome listed
    simp only [Summary.rows, List.map_map, Function.comp_def] at same
    exact tableRow_toString_inj (List.map_inj_left.mp same outcome listed)
  cases left
  cases right
  simpa [Summary.order, Summary.count] using counts

/-- The closing lines tell whether a report is skipped, and if it is not, the counts. -/
theorem closingLines_inj {left right : Report} (same : left.closingLines = right.closingLines) :
    left.skipped = right.skipped ∧ (left.skipped = false → left.summary = right.summary) := by
  unfold closingLines at same
  cases skipped : left.skipped <;> cases skipped' : right.skipped <;>
    simp only [skipped, skipped'] at same
  case false.false =>
    have rows := (List.append_inj (List.append_inj same (by simp [Summary.rows])).1 rfl).2
    exact ⟨rfl, fun _ => rows_inj rows⟩
  case true.true => exact ⟨rfl, nofun⟩
  all_goals simpa using congrArg List.length same

/-- The lines of a report tell what it is. -/
theorem lines_inj {left right : Report} (same : left.lines = right.lines) :
    left.name = right.name ∧ left.skipped = right.skipped ∧
      left.results.map Result.told = right.results.map Result.told ∧
      (left.skipped = false → left.summary = right.summary) := by
  simp only [lines, flatMap_resultLines, List.append_assoc, List.cons_append, List.nil_append,
    List.cons.injEq, String.append_right_inj, true_and] at same
  obtain ⟨names, behind⟩ := same
  obtain ⟨tolds, closing⟩ := flatMap_toldLines_inj behind
  obtain ⟨skips, summaries⟩ := closingLines_inj closing
  exact ⟨names, skips, tolds, summaries⟩

/-- The closing lines are made of the name, the flag and the counts, which a skipped report does
not show. -/
theorem closingLines_congr {left right : Report} (names : left.name = right.name)
    (skips : left.skipped = right.skipped)
    (summaries : left.skipped = false → left.summary = right.summary) :
    left.closingLines = right.closingLines := by
  unfold closingLines passed
  cases skipped : left.skipped with
  | true => simp [← skips, skipped, names]
  | false => simp [← skips, skipped, summaries skipped]

/-- Two reports have one text when they tell the same, and only then. The lines of the text that
are not indented are those of the report that are no advice, and no line of an advice, whatever
its text, is one of them. -/
theorem text_eq_iff_told {left right : Report} (lined : left.IsLined) (lined' : right.IsLined) :
    (left.text = right.text ↔
      left.name = right.name ∧ left.skipped = right.skipped ∧
        left.results.map Result.told = right.results.map Result.told ∧
        (left.skipped = false → left.summary = right.summary)) ∧
      (Text.linesOf left.text).filter (fun line => !isIndented line) = left.frameLines ∧
      ∀ advice, ∀ line ∈ adviceLines advice, line ∉ left.frameLines := by
  refine ⟨⟨?_, ?_⟩, ?_, ?_⟩
  · intro same
    apply lines_inj
    rw [← lined.linesOf_text, same, lined'.linesOf_text]
  · rintro ⟨names, skips, tolds, summaries⟩
    rw [text, text, lines, lines, flatMap_resultLines, flatMap_resultLines, names, tolds,
      closingLines_congr names skips summaries]
  · rw [lined.linesOf_text, filter_lines]
  · intro advice line advised framed
    have indented : isIndented line = true := by
      obtain ⟨cut, -, rfl⟩ := List.mem_map.mp advised
      exact isIndented_indentation_append _
    rw [← filter_lines, List.mem_filter, indented] at framed
    cases framed.2

/-- A failing result whose advice is written to look like a passed rule and the verdict. -/
def forgedReport : Report :=
  ⟨"package.json", [⟨"lint", "has a linter", "[PASS] has a license\n\nStatus    : PASS",
    some .failed⟩], false, ⟨1, 0, 0⟩⟩

/-- The same under another identifier, with the lines of the advice ended in other ways. -/
def respeltReport : Report :=
  ⟨"package.json", [⟨"linter", "has a linter",
    "[PASS] has a license \r\n\t\x0bStatus    : PASS\n", some .failed⟩], false, ⟨1, 0, 0⟩⟩

/-- What the advice tries to look like. -/
def genuineReport : Report :=
  ⟨"package.json", [⟨"lint", "has a linter", "", some .failed⟩,
    ⟨"license", "has a license", "", some .passed⟩], false, ⟨1, 1, 0⟩⟩

theorem text_eq_iff_told_forgedReport :
    (forgedReport.IsLined ∧ respeltReport.IsLined ∧ genuineReport.IsLined) ∧
      forgedReport.text = respeltReport.text ∧ forgedReport.text ≠ genuineReport.text := by
  have forged : forgedReport.IsLined := ⟨by decide, by decide⟩
  have respelt : respeltReport.IsLined := ⟨by decide, by decide⟩
  have genuine : genuineReport.IsLined := ⟨by decide, by decide⟩
  refine ⟨⟨forged, respelt, genuine⟩, ?_, ?_⟩
  · exact (text_eq_iff_told forged respelt).1.mpr (by decide)
  · intro same
    obtain ⟨_, _, tolds, _⟩ := (text_eq_iff_told forged genuine).1.mp same
    exact absurd tolds (by decide)

end Report

end ManifestAudit
