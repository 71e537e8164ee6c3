import ManifestAudit.Program
import ManifestAudit.Proofs.Examination
import ManifestAudit.Proofs.PackageRules.Offence

/-!
# How a run ends

A run that comes to an exit status has either refused its input, with status 2 and no
effect at all, or made one report: it printed the report, put its JSON form where the
settings want it, and ended with a status that the manifest and the settings decide.
`check_exit` is this inversion, and `run_exit` states each of the conditions.
-/

namespace ManifestAudit.Program

open CommandLine (Arguments)
open Files (Tree)

variable {before after : Tree} {settings : Settings} {report : Report} {status : Nat}

/-- A report has been delivered: it was printed, and its JSON form went to one place. To
a file, it left every other location as it was, unless a directory is where nothing was. -/
inductive Delivered (before : Tree) (settings : Settings) (report : Report) :
    Text → Tree → Prop where
  | toFile {path : Text} {location : Files.Location} {after : Tree}
      (set : settings.output = some path)
      (located : after.locate (.ofText path) = .ok location)
      (saved : after.entry? location = some (.file (payload report).toUTF8))
      (current : after.current = before.current)
      (others : ∀ other, other ≠ location → after.entry? other = before.entry? other ∨
        before.entry? other = none ∧ after.entry? other = some .directory) :
      Delivered before settings report
        (Text.ofString (report.text ++ "\n") ++
          (Text.ofString "\nReport written to " ++ path ++ [.char '\n'])) after
  | toConsole (unset : settings.output = none) (format : settings.format = .json) :
      Delivered before settings report
        (Text.ofString (report.text ++ "\n") ++
          Text.ofString ("\nJSON Report\n" ++ payload report ++ "\n")) before
  | nowhere (unset : settings.output = none) (format : settings.format = .text) :
      Delivered before settings report (Text.ofString (report.text ++ "\n")) before

/-- A saved report was written after the directories on the way to it had been created. -/
theorem save_steps {path : Text} (saved : save before report path = (after, none)) :
    ∃ around, before.ensureDirectories (Files.Path.ofText path).parent = .ok around ∧
      around.write (Files.Path.ofText path) (payload report).toUTF8 = .ok after := by
  simp only [save] at saved
  split at saved
  case h_1 => cases saved
  case h_2 around ensured =>
    split at saved
    case h_1 => cases saved
    case h_2 written =>
      cases saved
      exact ⟨around, ensured, written⟩

/-- It is in the file, and besides there are only new directories. -/
theorem save_eq_ok {path : Text} (saved : save before report path = (after, none)) :
    after.current = before.current ∧ ∃ location, after.locate (.ofText path) = .ok location ∧
      after.entry? location = some (.file (payload report).toUTF8) ∧
      ∀ other, other ≠ location → after.entry? other = before.entry? other ∨
        before.entry? other = none ∧ after.entry? other = some .directory := by
  obtain ⟨around, ensured, written⟩ := save_steps saved
  have added := Tree.addsDirectories_of_ensureDirectories ensured
  obtain ⟨current, location, located, held, others⟩ := Tree.write_eq_ok written
  refine ⟨current.trans added.current, location, located, held, fun other different => ?_⟩
  rw [others other different]
  exact added.entries other

/-- A delivery that comes to an exit status has delivered the report. -/
theorem deliver_exit {log : List Log.Entry}
    (ended : (deliver before settings log report).ending = .exit status) :
    status = statusOf settings report ∧
      Delivered before settings report (deliver before settings log report).output
        (deliver before settings log report).tree := by
  unfold deliver at ended ⊢
  cases set : settings.output with
  | some path =>
      simp only [set] at ended ⊢
      split at ended
      case h_1 => cases ended
      case h_2 after saved =>
        cases ended
        obtain ⟨current, location, located, held, others⟩ := save_eq_ok saved
        exact ⟨rfl, .toFile set located held current others⟩
  | none =>
      cases format : settings.format with
      | json =>
          simp only [set, format] at ended ⊢
          cases ended
          exact ⟨rfl, .toConsole set format⟩
      | text =>
          simp only [set, format] at ended ⊢
          cases ended
          exact ⟨rfl, .nowhere set format⟩

/-- Whatever is delivered, the report is printed first. -/
theorem Delivered.isPrefix {output : Text}
    (delivered : Delivered before settings report output after) :
    Text.ofString report.text <+: output := by
  have printed : Text.ofString report.text <+: Text.ofString (report.text ++ "\n") := by
    simp [Text.ofString, Text.ofChars]
  cases delivered with
  | toFile => exact printed.trans (List.prefix_append _ _)
  | toConsole => exact printed.trans (List.prefix_append _ _)
  | nowhere => exact printed

/-- The path of the manifest under settings. -/
def manifestPath (tree : Tree) (settings : Settings) : Files.Path :=
  PackageRules.ruleSet.manifestPath (optionsOf tree settings)

/-- What examining the manifest under settings comes to. -/
def examined (tree : Tree) (settings : Settings) : Except Examination.Failure Report :=
  (Examination.examine Requirement.Note.message tree PackageRules.ruleSet
    (optionsOf tree settings)).result

/-- The report under settings on the document that was read. -/
def reportOn (tree : Tree) (settings : Settings) (document : Json.Value) : Report :=
  PackageRules.ruleSet.reportOn document (optionsOf tree settings)

/-- How a check examines the manifest depends on the current directory alone. -/
theorem optionsOf_eq_of_current {tree other : Tree} (same : other.current = tree.current)
    (settings : Settings) : optionsOf other settings = optionsOf tree settings := by
  simp only [optionsOf, Tree.currentPath, same]

/-- The manifest counts against the project: a rule fails on it, or it is missing and
must not be. -/
def Blamed (tree : Tree) (settings : Settings) : Prop :=
  (∃ document, Manifest.Holds tree (manifestPath tree settings) document ∧
    ∃ rule ∈ PackageRules.rules,
      rule.outcome document (optionsOf tree settings) = .failed) ∨
  Manifest.Missing tree (manifestPath tree settings) ∧ settings.failOnMissing = true

/-- The settings file is refused, or the manifest is no JSON. -/
def Refused (tree : Tree) (arguments : Arguments) : Prop :=
  (∃ error, Settings.load tree tree.currentPath = .error (.refused error)) ∨
  ∃ settings path reason, Settings.load tree tree.currentPath = .ok settings ∧
    examined tree (merge arguments settings) = .error (.manifest (.unparsable path reason))

/-- A status after a report is 0 unless it is 1. -/
theorem statusOf_eq_zero_iff : statusOf settings report = 0 ↔ ¬ statusOf settings report = 1 := by
  unfold statusOf
  split
  case isTrue => decide
  case isFalse => exact Report.exitCode_eq_zero_iff

/-- The status after the report on the document that was read is 1 exactly when the
manifest counts against the project. -/
theorem statusOf_reportOn_eq_one_iff {tree : Tree} {document : Json.Value}
    (done : Manifest.read tree (manifestPath tree settings) = .ok document) :
    statusOf settings (reportOn tree settings document) = 1 ↔ Blamed tree settings := by
  have failing := Manifest.exists_holds_and_iff_of_read
    (fun document => ∃ rule ∈ PackageRules.rules,
      rule.outcome document (optionsOf tree settings) = .failed)
    (PackageRules.not_exists_failed_null (optionsOf tree settings)) done
  rw [Blamed, failing, Manifest.missing_iff_of_read done, statusOf, reportOn,
    RuleSet.skipped_reportOn]
  cases null : document.isNull with
  | false =>
      simp [RuleSet.exitCode_reportOn_eq_one_iff, null, PackageRules.ruleSet]
  | true =>
      have passed : ¬ (PackageRules.ruleSet.reportOn document
          (optionsOf tree settings)).exitCode = 1 := by
        rw [RuleSet.exitCode_reportOn_eq_one_iff, null]
        rintro ⟨present, _⟩
        cases present
      have notFailing : ¬ ∃ rule ∈ PackageRules.rules,
          rule.outcome document (optionsOf tree settings) = .failed := by
        cases document <;> cases null
        exact PackageRules.not_exists_failed_null _
      cases settings.failOnMissing with
      | false => simp [passed, notFailing]
      | true => simp [missingStatus]

/-- An examination under settings that comes to an exit status has either found no JSON,
without effect, or delivered the report on the document that was read. -/
theorem examineWith_exit {tree : Tree}
    (ended : (examineWith tree settings).ending = .exit status) :
    (∃ path reason, examined tree settings = .error (.manifest (.unparsable path reason))) ∧
        status = errorStatus ∧ (examineWith tree settings).output = [] ∧
        (examineWith tree settings).tree = tree ∨
      ∃ document, Manifest.read tree (manifestPath tree settings) = .ok document ∧
        examined tree settings = .ok (reportOn tree settings document) ∧
        status = statusOf settings (reportOn tree settings document) ∧
        Delivered tree settings (reportOn tree settings document)
          (examineWith tree settings).output (examineWith tree settings).tree := by
  have result : examined tree settings = _ :=
    Examination.examine_result PackageRules.ruleSet (optionsOf tree settings)
      Requirement.Note.message tree
  unfold examineWith at ended ⊢
  cases done : Manifest.read tree (manifestPath tree settings) with
  | error error =>
      rw [← manifestPath, done] at result
      rw [examined] at result
      simp only [result] at ended ⊢
      cases error with
      | unparsable path reason =>
          simp only [stopped, Ending.exit.injEq] at ended
          exact .inl ⟨⟨path, reason, result⟩, ended.symm, rfl, rfl⟩
      | unreadable fault => cases ended
  | ok document =>
      rw [← manifestPath, done] at result
      rw [examined] at result
      simp only [result] at ended ⊢
      obtain ⟨statusEq, delivered⟩ := deliver_exit ended
      exact .inr ⟨document, rfl, result, statusEq, delivered⟩

/-- With settings that can be loaded, a check examines the manifest under them. -/
theorem check_eq_examineWith {tree : Tree} {arguments : Arguments}
    (loaded : Settings.load tree tree.currentPath = .ok settings) :
    check arguments tree = examineWith tree (merge arguments settings) := by
  unfold check
  rw [loaded]

/-- A check that comes to an exit status has either refused its input, without effect, or
delivered the report on the document that was read. -/
theorem check_exit {tree : Tree} {arguments : Arguments}
    (ended : (check arguments tree).ending = .exit status) :
    Refused tree arguments ∧ status = errorStatus ∧ (check arguments tree).output = [] ∧
        (check arguments tree).tree = tree ∨
      ∃ settings document, Settings.load tree tree.currentPath = .ok settings ∧
        Manifest.read tree (manifestPath tree (merge arguments settings)) = .ok document ∧
        examined tree (merge arguments settings) =
          .ok (reportOn tree (merge arguments settings) document) ∧
        status = statusOf (merge arguments settings)
          (reportOn tree (merge arguments settings) document) ∧
        Delivered tree (merge arguments settings)
          (reportOn tree (merge arguments settings) document)
          (check arguments tree).output (check arguments tree).tree := by
  unfold check at ended ⊢
  cases loaded : Settings.load tree tree.currentPath with
  | error failure =>
      simp only [loaded] at ended ⊢
      cases failure with
      | refused error =>
          cases ended
          exact .inl ⟨.inl ⟨error, loaded⟩, rfl, rfl, rfl⟩
      | unreadable fault => cases ended
      | valueless fault => cases ended
  | ok settings =>
      simp only [loaded] at ended ⊢
      rcases examineWith_exit ended with
        ⟨⟨path, reason, result⟩, statusEq, silent, untouched⟩ |
        ⟨document, done, result, statusEq, delivered⟩
      · exact .inl ⟨.inr ⟨settings, path, reason, loaded, result⟩, statusEq, silent, untouched⟩
      · exact .inr ⟨settings, document, rfl, done, result, statusEq, delivered⟩

/-- Where a report is made, nothing was refused. -/
theorem not_refused_of_examined {tree : Tree} {arguments : Arguments}
    (loaded : Settings.load tree tree.currentPath = .ok settings)
    (result : examined tree (merge arguments settings) = .ok report) :
    ¬ Refused tree arguments := by
  rintro (⟨error, refused⟩ | ⟨settings', path, reason, loaded', failed⟩)
  · rw [loaded] at refused
    cases refused
  · rw [loaded] at loaded'
    cases loaded'
    rw [result] at failed
    cases failed

/-- A run with arguments that are accepted ends as its check does. -/
theorem run_ending_eq_check {argv : List String} {arguments : Arguments} {tree : Tree}
    (accepted : CommandLine.read argv = .run arguments) :
    (run argv tree).ending = (check arguments tree).ending := by
  unfold run
  rw [accepted]

/-- The exit status of a run is 2 exactly when settings or manifest are refused, and then
nothing is printed and no file changes. Otherwise the report is printed first and
delivered, and the status is 1 when the manifest counts against the project, else 0. -/
theorem run_exit {argv : List String} {arguments : Arguments} {tree : Tree}
    (accepted : CommandLine.read argv = .run arguments)
    (ended : (run argv tree).ending = .exit status) :
    (status = 2 ↔ Refused tree arguments) ∧
    (status = 2 → (run argv tree).output = [] ∧ (run argv tree).tree = tree) ∧
    (status ≠ 2 → ∃ settings report,
      Settings.load tree tree.currentPath = .ok settings ∧
      examined tree (merge arguments settings) = .ok report ∧
      (status = 1 ↔ Blamed tree (merge arguments settings)) ∧
      (status = 0 ↔ ¬ Blamed tree (merge arguments settings)) ∧
      Text.ofString report.text <+: (run argv tree).output ∧
      Delivered tree (merge arguments settings) report
        (run argv tree).output (run argv tree).tree) := by
  simp only [run, accepted] at ended ⊢
  rcases check_exit ended with
    ⟨refused, statusEq, silent, untouched⟩ |
    ⟨settings, document, loaded, done, result, statusEq, delivered⟩
  · have isError : status = 2 := statusEq
    exact ⟨iff_of_true isError refused, fun _ => ⟨silent, untouched⟩,
      fun other => absurd isError other⟩
  · have one := statusOf_reportOn_eq_one_iff done
    have zero := statusOf_eq_zero_iff.trans (not_congr one)
    rw [← statusEq] at one zero
    have notError : status ≠ 2 := by
      rintro rfl
      have notBlamed := mt one.mpr (by decide)
      exact absurd (zero.mpr notBlamed) (by decide)
    refine ⟨iff_of_false notError (not_refused_of_examined loaded result),
      fun isError => absurd isError notError, fun _ => ?_⟩
    exact ⟨settings, _, loaded, result, one, zero, delivered.isPrefix, delivered⟩

/-- A project whose manifest declares a dependency that must go. -/
def offendingProject : Tree where
  current := []
  entries :=
    [(["package.json".toUTF8.data.toList],
      .file "\x7b\"devDependencies\": \x7b\"gfp-eslint-config\": \"1.0.0\"\x7d\x7d".toUTF8)]

/-- Its run ends with status 1, and the JSON form of the report is in the file asked for,
not behind the report. -/
theorem run_exit_offendingProject :
    CommandLine.read ["--format", "json", "--out", "r/doctor.json"] =
        .run ⟨none, some .json, some "r/doctor.json", false, false⟩ ∧
      (run ["--format", "json", "--out", "r/doctor.json"] offendingProject).ending = .exit 1 ∧
      ∃ settings report, settings.output = some (Text.ofString "r/doctor.json") ∧
        settings.format = .json ∧ Blamed offendingProject settings ∧
        Delivered offendingProject settings report
          (run ["--format", "json", "--out", "r/doctor.json"] offendingProject).output
          (run ["--format", "json", "--out", "r/doctor.json"] offendingProject).tree := by
  have accepted : CommandLine.read ["--format", "json", "--out", "r/doctor.json"] =
      .run ⟨none, some .json, some "r/doctor.json", false, false⟩ := by
    decide +kernel
  have ended : (run ["--format", "json", "--out", "r/doctor.json"] offendingProject).ending =
      .exit 1 := by
    decide +kernel
  obtain ⟨_, _, reported⟩ := run_exit accepted ended
  obtain ⟨settings, report, _, _, one, _, _, delivered⟩ := reported (by decide)
  exact ⟨accepted, ended, _, report, rfl, rfl, one.mp rfl, delivered⟩

end ManifestAudit.Program
