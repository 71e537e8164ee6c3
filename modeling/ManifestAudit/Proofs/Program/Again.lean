import ManifestAudit.Proofs.Files.Growth
import ManifestAudit.Proofs.Program.Ending

/-!
# Running again

A run changes the project only where it saves its report, `run_tree`. Saved once, the
report is saved again without effect. So a second run comes to what the first one came to,
if it reads what the first one read: the settings file and the manifest must not be where
the report went, and a directory that was created for the report must not open the way to
them.
-/

namespace ManifestAudit.Program

open CommandLine (Arguments)
open Files (Path Tree)

variable {before after : Tree} {settings : Settings} {report : Report} {path : Text}

/-! ## Saving again -/

/-- Saving a report takes no directory away. -/
theorem grows_of_save (saved : save before report path = (after, none)) :
    Tree.Grows before after := by
  obtain ⟨around, ensured, written⟩ := save_steps saved
  have added := Tree.addsDirectories_of_ensureDirectories ensured
  exact .trans (.of_addsDirectories added) (Tree.grows_of_write written)

/-- A report that was saved is saved again without effect. -/
theorem save_again (saved : save before report path = (after, none)) :
    ∃ again, save after report path = (again, none) ∧
      ∀ location, again.entry? location = after.entry? location := by
  obtain ⟨around, ensured, written⟩ := save_steps saved
  have still : after.isDirectory (Path.ofText path).parent = true :=
    (Tree.grows_of_write written).isDirectory (Tree.isDirectory_of_ensureDirectories ensured)
  obtain ⟨again, rewritten, entries⟩ := Tree.write_again written
  refine ⟨again, ?_, entries⟩
  simp only [save, Tree.ensureDirectories_of_isDirectory still, rewritten]

/-- So it is delivered again without effect. -/
theorem deliver_again (set : settings.output = some path)
    (saved : save before report path = (after, none)) (log : List Log.Entry) :
    let first := deliver before settings log report
    let second := deliver after settings log report
    second.output = first.output ∧ second.log = first.log ∧ second.ending = first.ending ∧
      ∀ location, second.tree.entry? location = after.entry? location := by
  obtain ⟨again, resaved, entries⟩ := save_again saved
  simp only [deliver, set, saved, resaved]
  exact ⟨trivial, trivial, trivial, entries⟩

/-! ## What a run changes -/

/-- A delivery that comes to an exit status leaves the tree as it is, or saves the report. -/
theorem deliver_tree {log : List Log.Entry} {status : Nat}
    (ended : (deliver before settings log report).ending = .exit status) :
    (deliver before settings log report).tree = before ∨
      ∃ path, settings.output = some path ∧
        save before report path = ((deliver before settings log report).tree, none) := by
  unfold deliver at ended ⊢
  cases set : settings.output with
  | some path =>
      simp only [set] at ended ⊢
      split at ended
      case h_1 => cases ended
      case h_2 after saved => exact .inr ⟨path, rfl, by simp only [saved]⟩
  | none =>
      simp only [set] at ended ⊢
      cases settings.format <;> exact .inl rfl

/-- Where a report is made, the check delivers it. -/
theorem examineWith_eq_deliver {tree : Tree} (made : examined tree settings = .ok report) :
    examineWith tree settings =
      deliver tree settings
        (Examination.examine Requirement.Note.message tree PackageRules.ruleSet
          (optionsOf tree settings)).log report := by
  rw [examined] at made
  unfold examineWith
  simp only [made]

/-- A run that comes to an exit status leaves the tree as it is, or saves its report. -/
theorem run_tree {argv : List String} {tree : Tree} {status : Nat}
    (ended : (run argv tree).ending = .exit status) :
    (run argv tree).tree = tree ∨
      ∃ arguments settings report path, CommandLine.read argv = .run arguments ∧
        Settings.load tree tree.currentPath = .ok settings ∧
        examined tree (merge arguments settings) = .ok report ∧
        (merge arguments settings).output = some path ∧
        save tree report path = ((run argv tree).tree, none) := by
  unfold run at ended ⊢
  cases accepted : CommandLine.read argv with
  | run arguments =>
      simp only [accepted] at ended ⊢
      rcases check_exit ended with
        ⟨_, _, _, untouched⟩ | ⟨settings, document, loaded, _, made, _, _⟩
      · exact .inl untouched
      · rw [check_eq_examineWith loaded, examineWith_eq_deliver made] at ended ⊢
        rcases deliver_tree ended with untouched | ⟨path, set, saved⟩
        · exact .inl untouched
        · exact .inr ⟨arguments, settings, _, path, rfl, loaded, made, set, saved⟩
  | _ => exact .inl rfl

/-- So it takes no directory away. -/
theorem grows_of_run {argv : List String} {tree : Tree} {status : Nat}
    (ended : (run argv tree).ending = .exit status) : Tree.Grows tree (run argv tree).tree := by
  rcases run_tree ended with untouched | ⟨_, _, _, _, _, _, _, _, saved⟩
  · rw [untouched]
    exact .refl tree
  · exact grows_of_save saved

/-! ## Running again -/

/-- Settings depend on the text of their file alone. -/
theorem load_eq_of_text? {tree other : Tree} {root : Path}
    (same : other.text? (Settings.path root) = tree.text? (Settings.path root)) :
    Settings.load other root = Settings.load tree root := by
  rw [Settings.load, Settings.load, same]

/-- A check that has saved its report comes to the same again, and changes nothing more,
unless saving has disturbed the settings file or the manifest. -/
theorem check_again {arguments : Arguments}
    (loaded : Settings.load before before.currentPath = .ok settings)
    (made : examined before (merge arguments settings) = .ok report)
    (set : (merge arguments settings).output = some path)
    (saved : save before report path = (after, none))
    (settingsApart : Tree.Undisturbed before after (Path.ofText path)
      (Settings.path before.currentPath))
    (manifestApart : Tree.Undisturbed before after (Path.ofText path)
      (manifestPath before (merge arguments settings))) :
    (check arguments after).output = (check arguments before).output ∧
      (check arguments after).log = (check arguments before).log ∧
      (check arguments after).ending = (check arguments before).ending ∧
      ∀ location, (check arguments after).tree.entry? location = after.entry? location := by
  have grows := grows_of_save saved
  obtain ⟨current, location, located, _, others⟩ := save_eq_ok saved
  have loaded' : Settings.load after after.currentPath = .ok settings := by
    have root : after.currentPath = before.currentPath := by
      rw [Tree.currentPath, Tree.currentPath, current]
    rw [root, ← loaded]
    exact load_eq_of_text? (Tree.text?_of_undisturbed settingsApart grows located others)
  have examination := Examination.examine_eq_of_read PackageRules.ruleSet
    (optionsOf before (merge arguments settings)) Requirement.Note.message
    (Manifest.read_eq_of_text? (Tree.text?_of_undisturbed manifestApart grows located others))
  have made' : examined after (merge arguments settings) = .ok report := by
    rw [examined, optionsOf_eq_of_current current, examination, ← examined, made]
  rw [check_eq_examineWith loaded', examineWith_eq_deliver made',
    optionsOf_eq_of_current current, examination, check_eq_examineWith loaded,
    examineWith_eq_deliver made]
  exact deliver_again set saved _

/-- Saving the report of a run disturbs neither the settings file nor the manifest. -/
def SavesApart (argv : List String) (tree : Tree) : Prop :=
  ∀ arguments settings path, CommandLine.read argv = .run arguments →
    Settings.load tree tree.currentPath = .ok settings →
    (merge arguments settings).output = some path →
      Tree.Undisturbed tree (run argv tree).tree (Path.ofText path)
        (Settings.path tree.currentPath) ∧
      Tree.Undisturbed tree (run argv tree).tree (Path.ofText path)
        (manifestPath tree (merge arguments settings))

end ManifestAudit.Program
