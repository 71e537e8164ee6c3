import ManifestAudit.Examination
import ManifestAudit.Proofs.Files.Tree
import ManifestAudit.Proofs.Rule.Run

/-!
# What examining a manifest comes to

The one way to no report is a manifest that cannot be read: whatever was read is put to
the rules, and all of their results are recorded. `Examination.examine_result` says so,
and `RuleSet.reportOn` is the report.
-/

namespace ManifestAudit

open Files (Tree Path)

namespace Manifest

variable {tree : Tree} {path : Path} {document : Json.Value}

/-- The file at a path holds a document. -/
def Holds (tree : Tree) (path : Path) (document : Json.Value) : Prop :=
  ∃ text, tree.text? path = .ok (some text) ∧ Json.parse text = .ok document

/-- A manifest counts as missing when there is no regular file, and when the file
holds null. -/
def Missing (tree : Tree) (path : Path) : Prop :=
  ¬ tree.HasFile path ∨ Holds tree path .null

/-- A file holds one document. -/
theorem Holds.unique {other : Json.Value} (held : Holds tree path document)
    (held' : Holds tree path other) : document = other := by
  obtain ⟨text, found, parsed⟩ := held
  obtain ⟨text', found', parsed'⟩ := held'
  rw [found] at found'
  cases found'
  rw [parsed] at parsed'
  cases parsed'
  rfl

/-- What is read is what the file holds, or null where there is no file. -/
theorem holds_or_of_read (done : read tree path = .ok document) :
    Holds tree path document ∧ tree.HasFile path ∨
      document = .null ∧ ¬ tree.HasFile path := by
  unfold read at done
  split at done
  case h_1 => cases done
  case h_2 none =>
    cases done
    exact .inr ⟨rfl, Tree.not_hasFile_of_text?_eq_none none⟩
  case h_3 text found =>
    cases parsed : Json.parse text with
    | error reason => simp [parsed, Except.mapError] at done
    | ok value =>
        simp only [parsed, Except.mapError, Except.ok.injEq] at done
        subst done
        exact .inl ⟨⟨text, found, parsed⟩, Tree.hasFile_of_text?_eq_some found⟩

/-- A manifest that was read is missing exactly when it was read as null. -/
theorem missing_iff_of_read (done : read tree path = .ok document) :
    Missing tree path ↔ document.isNull = true := by
  rcases holds_or_of_read done with ⟨held, file⟩ | ⟨rfl, noFile⟩
  · constructor
    · rintro (noFile | null)
      · exact absurd file noFile
      · rw [held.unique null]
        rfl
    · intro null
      cases document <;> cases null
      exact .inr held
  · exact iff_of_true (.inl noFile) rfl

/-- What holds of no missing manifest holds of the document in the file exactly when it
holds of the document that was read. -/
theorem exists_holds_and_iff_of_read (property : Json.Value → Prop)
    (notNull : ¬ property .null) (done : read tree path = .ok document) :
    (∃ document, Holds tree path document ∧ property document) ↔ property document := by
  rcases holds_or_of_read done with ⟨held, _⟩ | ⟨rfl, noFile⟩
  · constructor
    · rintro ⟨other, held', holds⟩
      rwa [held.unique held']
    · intro holds
      exact ⟨document, held, holds⟩
  · refine iff_of_false ?_ notNull
    rintro ⟨other, ⟨text, found, _⟩, _⟩
    exact noFile (Tree.hasFile_of_text?_eq_some found)

/-- What is read depends on the text in the file alone. -/
theorem read_eq_of_text? {other : Tree} (same : other.text? path = tree.text? path) :
    read other path = read tree path := by
  rw [read, read, same]

end Manifest

section Report

variable {Note : Type} (rules : RuleSet Note) (document : Json.Value) (options : Options)

namespace RuleSet

/-- The report of a rule set on the document that was read. -/
def reportOn : Report :=
  if document.isNull then Report.skippedFor rules
  else (Run.ofRules document options rules.name rules.rules).report

/-- The report is skipped when the document is null. -/
theorem skipped_reportOn : (rules.reportOn document options).skipped = document.isNull := by
  unfold reportOn
  cases document.isNull <;> rfl

/-- A report gives exit status 1 when it is not skipped and a rule fails. -/
theorem exitCode_reportOn_eq_one_iff :
    (rules.reportOn document options).exitCode = 1 ↔
      document.isNull = false ∧
        ∃ rule ∈ rules.rules, rule.outcome document options = .failed := by
  unfold reportOn
  cases document.isNull with
  | false => simp [Run.exitCode_ofRules_eq_one_iff]
  | true => simp [Report.exitCode, Report.passed, Report.skippedFor, Summary.zero]

end RuleSet

/-- An examination gives the report on the document that is read, and no report exactly
when none is read. -/
theorem Examination.examine_result (wording : Note → Text) (tree : Tree) :
    (examine wording tree rules options).result =
      match Manifest.read tree (rules.manifestPath options) with
      | .error error => .error (.manifest error)
      | .ok document => .ok (rules.reportOn document options) := by
  unfold examine
  cases done : Manifest.read tree (rules.manifestPath options) with
  | error error => simp only [done]
  | ok document =>
      cases null : document.isNull with
      | false =>
          have ran := RuleSet.run_found document options rules null
          simp [done, null, evaluate, ran, RuleSet.reportOn]
      | true => simp [done, null, evaluate, RuleSet.run, RuleSet.reportOn]

/-- An examination depends on what is read alone. -/
theorem Examination.examine_eq_of_read (wording : Note → Text) {tree other : Tree}
    (same : Manifest.read other (rules.manifestPath options) =
      Manifest.read tree (rules.manifestPath options)) :
    examine wording other rules options = examine wording tree rules options := by
  unfold examine
  simp only [same]

end Report

end ManifestAudit
