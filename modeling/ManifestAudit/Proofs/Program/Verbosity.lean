import ManifestAudit.Proofs.CommandLine.Verbose
import ManifestAudit.Proofs.Program.Again

/-!
# Showing all of the log changes nothing else

What a run does and what it logs do not depend on how much of the log is shown. So a run behind
the verbose flag ends, prints and saves the same, and shows what the run without the flag shows
and the debug records besides: `run_cons_verbose`. Among these the decisions on the rules can
be told by their form, and they are the outcomes in the report.
-/

namespace ManifestAudit

/-! ## The log by its levels -/

namespace Log

/-- Of the log in short there is all but the debug records. -/
theorem text_false (entries : List Entry) :
    text false entries = text true (entries.filter (·.level ≠ .debug)) := by
  have short : Entry.isShown false = fun entry : Entry => decide (entry.level ≠ .debug) := rfl
  have whole : Entry.isShown true = fun _ => true := rfl
  rw [text, text, short, whole, List.filter_true]

end Log

/-! ## Decisions in the log -/

namespace PackageRules

open Requirement (Note)

/-- The record of a decision: the identifier of a rule and its outcome. -/
def decision (ruleId : String) (outcome : Outcome) : Log.Entry :=
  .debug (ruleId ++ ": " ++ outcome.text)

/-- Whether a record has the form of a decision on one of the rules. -/
def isDecision (entry : Log.Entry) : Bool :=
  rules.any fun rule =>
    [Outcome.passed, .failed, .notApplicable].any fun outcome =>
      entry = decision rule.id outcome

/-- The decision on a rule has the form of one. -/
theorem isDecision_decision {rule : Rule Note} (listed : rule ∈ rules) (outcome : Outcome) :
    isDecision (decision rule.id outcome) = true := by
  refine List.any_eq_true.mpr ⟨rule, listed, List.any_eq_true.mpr ⟨outcome, ?_, by simp⟩⟩
  cases outcome <;> simp

/-- No identifier of a rule begins as the other records do. -/
theorem head?_id_of_mem_rules :
    ∀ rule ∈ rules, rule.id.toList.head?.any (· ∉ ['E', 'u', 'I', 'U']) = true := by
  decide +kernel

/-- So what begins as they do is no decision. -/
theorem isDecision_eq_false_of_head? {entry : Log.Entry} {c : Char}
    (listed : c ∈ ['E', 'u', 'I', 'U']) (begins : entry.message.head? = some (.char c)) :
    isDecision entry = false := by
  refine List.any_eq_false.mpr fun rule member => ?_
  obtain ⟨first, isFirst, other⟩ :=
    (Option.any_eq_true _ _).mp (head?_id_of_mem_rules rule member)
  obtain ⟨rest, written⟩ := List.head?_eq_some_iff.mp isFirst
  rw [List.any_eq_true]
  rintro ⟨outcome, _, same⟩
  rw [of_decide_eq_true same] at begins
  simp only [decision, Log.Entry.debug, Text.ofString, Text.ofChars, written, List.cons_append,
    List.map_cons, List.head?_cons, Option.some.injEq, Text.Symbol.char.injEq] at begins
  rw [begins] at other
  exact of_decide_eq_true other listed

/-- The notes that rules leave are no decisions. -/
theorem isDecision_note (note : Note) : isDecision (.debug note.message) = false := by
  cases note with
  | notText value =>
      refine isDecision_eq_false_of_head? (c := 'I') (by decide) ?_
      simp [Log.Entry.debug, Note.message, Text.ofString, Text.ofChars]
  | notRange text error =>
      refine isDecision_eq_false_of_head? (c := 'U') (by decide) ?_
      simp [Log.Entry.debug, Note.message, Text.ofString, Text.ofChars]

/-- Nor is it where an examination looks. -/
theorem isDecision_examining (name : String) :
    isDecision (.debug (Text.ofString ("Examining " ++ name))) = false := by
  refine isDecision_eq_false_of_head? (c := 'E') (by decide) ?_
  simp [Log.Entry.debug, Text.ofString, Text.ofChars]

theorem isDecision_using (path : Text) :
    isDecision (.debug (Text.ofString "using " ++ path)) = false :=
  isDecision_eq_false_of_head? (c := 'u') (by decide) rfl

variable (document : Json.Value) (options : Options)

/-- The one decision among the records of a rule is the last of them. -/
theorem filter_isDecision_events {rule : Rule Note} (listed : rule ∈ rules) :
    ((rule.events document options).map (Examination.entryOf Note.message)).filter isDecision =
      [decision rule.id (rule.outcome document options)] := by
  have notes : ((rule.check document options).notes.map fun note =>
      Examination.entryOf Note.message (.noted note)).filter isDecision = [] := by
    rw [List.filter_eq_nil_iff]
    rintro entry member
    obtain ⟨note, _, rfl⟩ := List.mem_map.mp member
    exact Bool.eq_false_iff.mp (isDecision_note note)
  have decided : [Event.decided rule.id (rule.outcome document options)].map
      (Examination.entryOf Note.message) = [decision rule.id (rule.outcome document options)] := rfl
  rw [Rule.events, List.map_append, List.map_map, List.filter_append, decided,
    List.filter_cons_of_pos (isDecision_decision listed _), List.filter_nil]
  exact congrArg (· ++ _) notes

/-- The decisions among the records of a run are those on the rules, in order. -/
theorem filter_isDecision_run (name : String) :
    ((Run.ofRules document options name rules).events.map
        (Examination.entryOf Note.message)).filter isDecision =
      rules.map fun rule => decision rule.id (rule.outcome document options) := by
  rw [Run.ofRules, List.map_flatMap, List.filter_flatMap, List.map_eq_flatMap]
  exact List.flatMap_congr fun rule listed => filter_isDecision_events document options listed

end PackageRules

/-! ## What an examination logs -/

/-- An examination of a document that is there logs where it looks, and then what happens
while the rules are asked. -/
theorem Examination.examine_found {Note : Type} (rules : RuleSet Note) (options : Options)
    (wording : Note → Text) {tree : Files.Tree} {document : Json.Value}
    (done : Manifest.read tree (rules.manifestPath options) = .ok document)
    (present : document.isNull = false) :
    examine wording tree rules options =
      ⟨[.debug (Text.ofString ("Examining " ++ rules.name)),
          .debug (Text.ofString "using " ++ (rules.manifestPath options).text)] ++
          (Run.ofRules document options rules.name rules.rules).events.map (entryOf wording),
        .ok (Run.ofRules document options rules.name rules.rules).report⟩ := by
  have ran := RuleSet.run_found document options rules present
  unfold examine
  simp only [done, present, Bool.false_eq_true, if_false, evaluate, ran]

namespace Program

open CommandLine (Arguments asksVerbose)
open Files (Tree)
open PackageRules (decision isDecision)

/-- What a run logs, whether it is shown or not. -/
def records (argv : List String) (tree : Tree) : List Log.Entry :=
  match CommandLine.read argv with
  | .run arguments => (check arguments tree).log
  | .help | .version | .refused _ => []

/-- What a run answers to a command line that it refuses. -/
def complaint (argv : List String) : Text :=
  match CommandLine.read argv with
  | .refused error => error.text
  | .run _ | .help | .version => []

/-- A run makes a report on the manifest. -/
def Makes (argv : List String) (tree : Tree) (report : Report) : Prop :=
  ∃ arguments settings, CommandLine.read argv = .run arguments ∧
    Settings.load tree tree.currentPath = .ok settings ∧
    examined tree (merge arguments settings) = .ok report

variable {argv : List String} {tree : Tree} {settings : Settings} {report : Report}

/-- What is shown beside the result are the complaint or the records. -/
theorem run_errors (argv : List String) (tree : Tree) :
    (run argv tree).errors = complaint argv ++ Log.text (asksVerbose argv) (records argv tree) := by
  unfold run complaint records asksVerbose
  cases CommandLine.read argv with
  | run arguments => rfl
  | refused error => exact (List.append_nil _).symm
  | _ => rfl

/-- A check does not depend on how much of the log is shown. -/
theorem check_verbosely (arguments : Arguments) (tree : Tree) :
    check arguments.verbosely tree = check arguments tree := rfl

/-- So a run behind the verbose flag logs the same. -/
theorem records_cons_verbose (argv : List String) (tree : Tree) :
    records ("-v" :: argv) tree = records argv tree := by
  unfold records
  rw [CommandLine.read_cons_verbose]
  cases CommandLine.read argv with
  | run arguments => exact congrArg Checked.log (check_verbosely arguments tree)
  | _ => rfl

/-- It answers the same to a command line that it refuses. -/
theorem complaint_cons_verbose (argv : List String) :
    complaint ("-v" :: argv) = complaint argv := by
  unfold complaint
  rw [CommandLine.read_cons_verbose]
  cases CommandLine.read argv <;> rfl

/-- And all that it logs is shown. -/
theorem run_cons_verbose_errors (argv : List String) (tree : Tree) :
    (run ("-v" :: argv) tree).errors =
      complaint ("-v" :: argv) ++ Log.text true (records ("-v" :: argv) tree) := by
  rw [run_errors]
  refine congrArg (complaint ("-v" :: argv) ++ ·) ?_
  unfold records asksVerbose
  rw [CommandLine.read_cons_verbose]
  cases CommandLine.read argv <;> rfl

/-- Beside what is shown, a run behind the flag comes to the same. -/
theorem run_cons_verbose_effects (argv : List String) (tree : Tree) :
    (run ("-v" :: argv) tree).ending = (run argv tree).ending ∧
      (run ("-v" :: argv) tree).output = (run argv tree).output ∧
      (run ("-v" :: argv) tree).tree = (run argv tree).tree := by
  unfold run
  rw [CommandLine.read_cons_verbose]
  cases CommandLine.read argv <;> exact ⟨rfl, rfl, rfl⟩

/-- A report that is not skipped is on a document, and its results are the outcomes of the rules. -/
theorem exists_document_of_examined (made : examined tree settings = .ok report)
    (notSkipped : report.skipped = false) :
    ∃ document, Manifest.read tree (manifestPath tree settings) = .ok document ∧
      document.isNull = false ∧
      report.results =
        PackageRules.rules.map (·.evaluated document (optionsOf tree settings)) := by
  have result : examined tree settings = _ :=
    Examination.examine_result PackageRules.ruleSet (optionsOf tree settings)
      Requirement.Note.message tree
  rw [made, ← manifestPath] at result
  split at result
  case h_1 => cases result
  case h_2 document done =>
    cases result
    have present := RuleSet.skipped_reportOn PackageRules.ruleSet document (optionsOf tree settings)
    rw [notSkipped] at present
    refine ⟨document, done, present.symm, ?_⟩
    rw [RuleSet.reportOn, ← present]
    rfl

/-- Whatever comes of delivering a report, it is printed, and nothing is logged. -/
theorem deliver_shows (tree : Tree) (settings : Settings) (log : List Log.Entry) (report : Report) :
    Text.ofString report.text <+: (deliver tree settings log report).output ∧
      (deliver tree settings log report).log = log := by
  have printed : Text.ofString report.text <+: Text.ofString (report.text ++ "\n") := by
    simp [Text.ofString, Text.ofChars]
  unfold deliver
  cases settings.output with
  | some path =>
      dsimp only
      split
      case h_1 => exact ⟨printed, rfl⟩
      case h_2 => exact ⟨printed.trans (List.prefix_append _ _), rfl⟩
  | none =>
      cases settings.format with
      | json => exact ⟨printed.trans (List.prefix_append _ _), rfl⟩
      | text => exact ⟨printed, rfl⟩

/-- The decisions among the records of a check that makes a report are the results. -/
theorem decisions_of_examined (made : examined tree settings = .ok report)
    (notSkipped : report.skipped = false) :
    List.Forall₂
      (fun entry result => ∃ outcome,
        result.outcome = some outcome ∧ entry = decision result.ruleId outcome)
      ((examineWith tree settings).log.filter isDecision) report.results := by
  obtain ⟨document, done, present, results⟩ := exists_document_of_examined made notSkipped
  have examination := Examination.examine_found PackageRules.ruleSet (optionsOf tree settings)
    Requirement.Note.message done present
  have examining := Bool.eq_false_iff.mp
    (PackageRules.isDecision_examining PackageRules.ruleSet.name)
  have place := Bool.eq_false_iff.mp
    (PackageRules.isDecision_using (manifestPath tree settings).text)
  have decisions : (examineWith tree settings).log.filter isDecision =
      PackageRules.rules.map fun rule =>
        decision rule.id (rule.outcome document (optionsOf tree settings)) := by
    rw [examineWith_eq_deliver made, (deliver_shows ..).2, examination]
    dsimp only
    rw [List.filter_append, List.filter_cons_of_neg examining, ← manifestPath,
      List.filter_cons_of_neg place, List.filter_nil, List.nil_append]
    exact PackageRules.filter_isDecision_run document (optionsOf tree settings) _
  rw [decisions, results, List.forall₂_map_left_iff, List.forall₂_map_right_iff]
  exact List.forall₂_same.mpr fun rule _ => ⟨_, rfl, rfl⟩

/-- Behind the verbose flag a run ends, prints and saves the same. It shows all that it logs
behind its complaint, and without the flag the debug records are left out, unless the command
line asks for them itself. Where the run makes a report that is not skipped, it prints the report,
and the decisions among its records are, in order, one for each of the rules, with the outcome
that is in the report. -/
theorem run_cons_verbose (argv : List String) (tree : Tree) :
    (run ("-v" :: argv) tree).ending = (run argv tree).ending ∧
      (run ("-v" :: argv) tree).output = (run argv tree).output ∧
      (run ("-v" :: argv) tree).tree = (run argv tree).tree ∧
      (run ("-v" :: argv) tree).errors =
        complaint ("-v" :: argv) ++ Log.text true (records ("-v" :: argv) tree) ∧
      (run argv tree).errors =
        complaint ("-v" :: argv) ++ Log.text true
          (if asksVerbose argv then records ("-v" :: argv) tree
            else (records ("-v" :: argv) tree).filter (·.level ≠ .debug)) ∧
      ∀ report, Makes ("-v" :: argv) tree report → report.skipped = false →
        Text.ofString report.text <+: (run ("-v" :: argv) tree).output ∧
          report.results.map (·.ruleId) = PackageRules.rules.map (·.id) ∧
          List.Forall₂
            (fun entry result => ∃ outcome,
              result.outcome = some outcome ∧ entry = decision result.ruleId outcome)
            ((records ("-v" :: argv) tree).filter isDecision) report.results := by
  obtain ⟨ending, output, after⟩ := run_cons_verbose_effects argv tree
  refine ⟨ending, output, after, run_cons_verbose_errors argv tree, ?_, ?_⟩
  · rw [run_errors, complaint_cons_verbose, records_cons_verbose]
    cases asksVerbose argv with
    | true => rfl
    | false => rw [Log.text_false, if_neg Bool.false_ne_true]
  · rintro report ⟨arguments, settings, accepted, loaded, made⟩ notSkipped
    have checked : check arguments tree = examineWith tree (merge arguments settings) :=
      check_eq_examineWith loaded
    have logged : records ("-v" :: argv) tree =
        (examineWith tree (merge arguments settings)).log := by
      rw [records, accepted, ← checked]
    have printed : (run ("-v" :: argv) tree).output =
        (examineWith tree (merge arguments settings)).output := by
      rw [run, accepted, ← checked]
    obtain ⟨document, _, _, results⟩ := exists_document_of_examined made notSkipped
    refine ⟨?_, ?_, ?_⟩
    · rw [printed, examineWith_eq_deliver made]
      exact (deliver_shows ..).1
    · rw [results, List.map_map]
      rfl
    · rw [logged]
      exact decisions_of_examined made notSkipped

/-- A project whose manifest declares a version that is no range. -/
def mutteringProject : Tree where
  current := []
  entries :=
    [(["package.json".toUTF8.data.toList],
      .file "\x7b\"devDependencies\": \x7b\"karma\": \"latest\"\x7d\x7d".toUTF8)]

/-- Its run logs more than the decisions on the fourteen rules, and without the flag nothing of
it is shown. -/
theorem run_cons_verbose_mutteringProject :
    ∃ report, Makes ["-v"] mutteringProject report ∧ report.skipped = false ∧
      Text.ofString report.text <+: (run ["-v"] mutteringProject).output ∧
      ((records ["-v"] mutteringProject).filter isDecision).length = 14 ∧
      (records ["-v"] mutteringProject).length = 17 ∧
      (run [] mutteringProject).errors = [] := by
  have accepted : CommandLine.read ["-v"] = .run ⟨none, none, none, false, true⟩ := by
    decide +kernel
  have loaded : Settings.load mutteringProject mutteringProject.currentPath =
      .ok Settings.default := by
    decide +kernel
  have answered : (examined mutteringProject
      (merge ⟨none, none, none, false, true⟩ Settings.default)).toOption.any (fun report =>
        !report.skipped && report.results.length == 14) = true := by
    decide +kernel
  cases made : examined mutteringProject
      (merge ⟨none, none, none, false, true⟩ Settings.default) with
  | error failure =>
      rw [made] at answered
      cases answered
  | ok report =>
      rw [made] at answered
      obtain ⟨notSkipped, fourteen⟩ : report.skipped = false ∧ report.results.length = 14 := by
        simpa [Except.toOption] using answered
      have makes : Makes ["-v"] mutteringProject report := ⟨_, _, accepted, loaded, made⟩
      obtain ⟨_, _, _, _, quiet, reported⟩ := run_cons_verbose [] mutteringProject
      obtain ⟨printed, _, decisions⟩ := reported report makes notSkipped
      refine ⟨report, makes, notSkipped, printed, ?_, by decide +kernel, ?_⟩
      · rw [decisions.length_eq, fourteen]
      · rw [quiet]
        decide +kernel

/-- It is not so that every run shows what it shows behind the flag but the debug records: the
command line may ask for them itself. -/
theorem not_run_without_debug :
    ¬ ∀ (argv : List String) (tree : Tree),
      (run argv tree).errors =
        complaint ("-v" :: argv) ++ Log.text true
          ((records ("-v" :: argv) tree).filter (·.level ≠ .debug)) := by
  intro always
  exact absurd (always ["-v"] ⟨[], []⟩) (by decide +kernel)

end Program

end ManifestAudit
