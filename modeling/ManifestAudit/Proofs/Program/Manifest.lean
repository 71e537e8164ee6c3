import ManifestAudit.Proofs.Program.Ending

/-!
# Which manifests break a run off

A manifest that is there is read in three stages: its bytes are decoded, the text is read
as JSON, and the document is put to the rules. The last stage never fails, and what fails
in the second is reported. Bytes that are no UTF-8 are not: they end the examination, and
with it the run, in a fault. `examination_of_file` says that nothing else does.
-/

namespace ManifestAudit.Program

open CommandLine (Arguments)
open Files (Tree)

variable {tree : Tree} {content : ByteArray} {settings : Settings}

/-- An examination has an answer: a report, or that the manifest is no JSON. -/
def Answered (path : Files.Path) (result : Except Examination.Failure Report) : Prop :=
  (∃ report, result = .ok report) ∨
    ∃ reason, result = .error (.manifest (.unparsable path reason))

/-- The result of an examination that fails on a manifest that is not UTF-8. -/
def undecodable : Except Examination.Failure Report :=
  .error (.manifest (.unreadable .undecodable))

/-- That is no answer. -/
theorem not_answered_undecodable (path : Files.Path) : ¬ Answered path undecodable := by
  rintro (⟨report, done⟩ | ⟨reason, failed⟩)
  · cases done
  · cases failed

/-- A manifest that is UTF-8 is read as a document, or is no JSON. -/
theorem read_of_valid {path : Files.Path} (file : tree.FileAt path content)
    (valid : content.IsValidUTF8) :
    (∃ document, Manifest.read tree path = .ok document) ∨
      ∃ reason, Manifest.read tree path = .error (.unparsable path reason) := by
  simp only [Manifest.read, Tree.text?_eq_of_fileAt file valid]
  cases Json.parse _ with
  | ok document => exact .inl ⟨document, rfl⟩
  | error reason => exact .inr ⟨reason, rfl⟩

section Examination

variable {options : Options}

/-- What examining the manifest for package.json comes to. -/
def examinedAt (tree : Tree) (options : Options) : Except Examination.Failure Report :=
  (Examination.examine Requirement.Note.message tree PackageRules.ruleSet options).result

/-- The examination of a manifest that is UTF-8 has an answer. -/
theorem answered_of_valid
    (file : tree.FileAt (PackageRules.ruleSet.manifestPath options) content)
    (valid : content.IsValidUTF8) :
    Answered (PackageRules.ruleSet.manifestPath options) (examinedAt tree options) := by
  unfold examinedAt
  rw [Examination.examine_result]
  rcases read_of_valid file valid with ⟨document, done⟩ | ⟨reason, failed⟩
  · rw [done]
    exact .inl ⟨_, rfl⟩
  · rw [failed]
    exact .inr ⟨reason, rfl⟩

/-- The examination of one that is not fails on it. -/
theorem examinedAt_eq_undecodable
    (file : tree.FileAt (PackageRules.ruleSet.manifestPath options) content)
    (invalid : ¬ content.IsValidUTF8) : examinedAt tree options = undecodable := by
  have failed : Manifest.read tree (PackageRules.ruleSet.manifestPath options) =
      .error (.unreadable .undecodable) := by
    rw [Manifest.read, Tree.text?_eq_undecodable_of_fileAt file invalid]
  unfold examinedAt
  rw [Examination.examine_result, failed]
  rfl

end Examination

/-- Without an output file a report is delivered whatever it is. -/
theorem deliver_ending (unset : settings.output = none) (log : List Log.Entry) (report : Report) :
    (deliver tree settings log report).ending = .exit (statusOf settings report) := by
  unfold deliver
  rw [unset]
  cases settings.format <;> rfl

/-- Where the examination has an answer and no output file is set, there is an exit status. -/
theorem exists_exit_of_answered {path : Files.Path} (unset : settings.output = none)
    (answered : Answered path (examinedAt tree (optionsOf tree settings))) :
    ∃ status, (examineWith tree settings).ending = .exit status := by
  unfold examineWith
  rcases answered with ⟨report, done⟩ | ⟨reason, failed⟩
  · rw [examinedAt] at done
    simp only [done]
    exact ⟨_, deliver_ending unset _ report⟩
  · rw [examinedAt] at failed
    simp only [failed]
    exact ⟨_, rfl⟩

/-- Where it fails on the manifest, the run breaks off. -/
theorem examineWith_ending_of_undecodable
    (failed : examinedAt tree (optionsOf tree settings) = undecodable) :
    (examineWith tree settings).ending = .fault (.file .undecodable) := by
  rw [examinedAt, undecodable] at failed
  unfold examineWith
  simp only [failed]
  rfl

/-- With settings that can be loaded, a run ends as examining the manifest does. -/
theorem run_ending {argv : List String} {arguments : Arguments}
    (accepted : CommandLine.read argv = .run arguments)
    (loaded : Settings.load tree tree.currentPath = .ok settings) :
    (run argv tree).ending = (examineWith tree (merge arguments settings)).ending := by
  rw [run_ending_eq_check accepted]
  unfold check
  rw [loaded]

/-- The examination of a manifest that is a regular file has an answer, a report or that it
is no JSON, exactly when its bytes are UTF-8; otherwise it fails on the file. A run with
settings that can be loaded and no output file has an exit status exactly when the bytes
of the manifest are UTF-8; otherwise it breaks off. -/
theorem examination_of_file {options : Options}
    (file : tree.FileAt (PackageRules.ruleSet.manifestPath options) content) :
    (Answered (PackageRules.ruleSet.manifestPath options) (examinedAt tree options) ↔
      content.IsValidUTF8) ∧
    (examinedAt tree options = undecodable ↔ ¬ content.IsValidUTF8) ∧
    ∀ argv arguments settings, CommandLine.read argv = .run arguments →
      Settings.load tree tree.currentPath = .ok settings →
      (merge arguments settings).output = none →
      optionsOf tree (merge arguments settings) = options →
      ((∃ status, (run argv tree).ending = .exit status) ↔ content.IsValidUTF8) ∧
      ((run argv tree).ending = .fault (.file .undecodable) ↔ ¬ content.IsValidUTF8) := by
  by_cases valid : content.IsValidUTF8
  · have answered := answered_of_valid file valid
    refine ⟨iff_of_true answered valid, iff_of_false ?_ (not_not_intro valid), ?_⟩
    · intro failed
      exact not_answered_undecodable _ (failed ▸ answered)
    · intro argv arguments settings accepted loaded unset asked
      subst asked
      obtain ⟨status, ended⟩ := exists_exit_of_answered unset answered
      rw [run_ending accepted loaded, ended]
      exact ⟨iff_of_true ⟨status, rfl⟩ valid, iff_of_false (by simp) (not_not_intro valid)⟩
  · have failed := examinedAt_eq_undecodable file valid
    refine ⟨iff_of_false ?_ valid, iff_of_true failed valid, ?_⟩
    · rw [failed]
      exact not_answered_undecodable _
    · intro argv arguments settings accepted loaded unset asked
      subst asked
      rw [run_ending accepted loaded, examineWith_ending_of_undecodable failed]
      exact ⟨iff_of_false (by simp) valid, iff_of_true rfl valid⟩

/-- A project with nothing but a manifest of these bytes. -/
def projectWith (content : ByteArray) : Tree where
  current := []
  entries := [(["package.json".toUTF8.data.toList], .file content)]

/-- A manifest that is cut off is no JSON, but UTF-8, so its run ends with a status. -/
theorem examination_of_file_cutOff :
    let project := projectWith "[1".toUTF8
    let path := PackageRules.ruleSet.manifestPath (optionsOf project Settings.default)
    project.FileAt path "[1".toUTF8 ∧
      Answered path (examinedAt project (optionsOf project Settings.default)) ∧
      ∃ status, (run ["-v"] project).ending = .exit status := by
  intro project path
  have file : project.FileAt path "[1".toUTF8 :=
    ⟨["package.json".toUTF8.data.toList], by decide +kernel, by decide +kernel⟩
  have valid : "[1".toUTF8.IsValidUTF8 := String.isValidUTF8 "[1"
  obtain ⟨answered, _, ends⟩ := examination_of_file file
  obtain ⟨status, _⟩ := ends ["-v"] ⟨none, none, none, false, true⟩ Settings.default
    (by decide +kernel) (by decide +kernel) rfl rfl
  exact ⟨file, answered.mpr valid, status.mpr valid⟩

/-- It is not so that the examination of every manifest has an answer: a single byte that
opens no character has none. -/
theorem not_answered_of_lone_byte :
    ¬ ∀ (tree : Tree) (options : Options) (content : ByteArray),
      tree.FileAt (PackageRules.ruleSet.manifestPath options) content →
        Answered (PackageRules.ruleSet.manifestPath options) (examinedAt tree options) := by
  intro always
  have file : (projectWith ⟨#[0xFF]⟩).FileAt
      (PackageRules.ruleSet.manifestPath Options.default) ⟨#[0xFF]⟩ :=
    ⟨["package.json".toUTF8.data.toList], by decide +kernel, by decide +kernel⟩
  have failed := examinedAt_eq_undecodable file (by decide)
  exact not_answered_undecodable _ (failed ▸ always _ _ _ file)

end ManifestAudit.Program
