import ManifestAudit.Proofs.CommandLine.Arguments
import ManifestAudit.Proofs.Files.Twin
import ManifestAudit.Proofs.Program.Ending

/-!
# What the command line overrides

A setting is overridden by the option for it, unless the value that the option takes last
is empty or the separator: such a value counts as none, and the settings file decides after
all. The flag for missing manifests is overridden wherever it is given.
`merge_eq_merge_iff` says for which settings files the same settings apply, and under the
same settings a run does not tell the files apart, `SameCheck`.
-/

namespace ManifestAudit.Program

open CommandLine (Arguments Gives Switch formatNamed? givenValue?)
open Files (Location Tree)

/-! ## The settings that apply -/

/-- Two settings differ only where an option is covered that says otherwise. -/
structure DifferOnly (covered : Switch → Prop) (first second : Settings) : Prop where
  manifestPath : first.manifestPath = second.manifestPath ∨ covered .packagePath
  format : first.format = second.format ∨ covered .format
  output : first.output = second.output ∨ covered .output
  failOnMissing : first.failOnMissing = second.failOnMissing ∨ covered .failOnMissing

/-- The command line overrides a setting: it gives the option, and if that takes a value,
the last one is neither empty nor the separator. -/
structure Overrides (argv : List String) (switch : Switch) : Prop where
  given : Gives argv switch
  notEmpty : switch.takesValue = true → givenValue? argv switch ≠ some ""
  notSeparator : switch.takesValue = true → givenValue? argv switch ≠ some "--"

variable {argv : List String} {arguments : Arguments} {settings₁ settings₂ : Settings}

/-- In an accepted command line, a setting is overridden by a value that is neither empty
nor the separator. -/
theorem overrides_iff {switch : Switch} (accepted : CommandLine.read argv = .run arguments)
    (takes : switch.takesValue = true) :
    Overrides argv switch ↔
      ∃ value, (givenValue? argv switch).filter (· ≠ "--") = some value ∧ value ≠ "" := by
  simp only [Option.filter_eq_some_iff, decide_eq_true_eq]
  constructor
  · rintro ⟨given, notEmpty, notSeparator⟩
    obtain ⟨value, last⟩ := Option.isSome_iff_exists.mp
      (CommandLine.givenValue?_isSome_of_gives accepted takes given)
    rw [last] at notEmpty notSeparator
    exact ⟨value, ⟨last, fun same => notSeparator takes (congrArg some same)⟩,
      fun same => notEmpty takes (congrArg some same)⟩
  · rintro ⟨value, ⟨last, notSeparator⟩, notEmpty⟩
    refine ⟨CommandLine.gives_of_givenValue? last, ?_, ?_⟩
    · rw [last]
      exact fun _ same => notEmpty (Option.some.inj same)
    · rw [last]
      exact fun _ same => notSeparator (Option.some.inj same)

/-- The flag for missing manifests is overridden wherever it is given. -/
theorem overrides_failOnMissing_iff :
    Overrides argv .failOnMissing ↔ Gives argv .failOnMissing :=
  ⟨Overrides.given, fun given => ⟨given, nofun, nofun⟩⟩

/-- A text is the same under two settings exactly when they are, or there is an argument
that is not empty. -/
theorem preferred_eq_preferred_iff {argument : Option String} {setting₁ setting₂ : Option Text} :
    preferred argument setting₁ = preferred argument setting₂ ↔
      setting₁ = setting₂ ∨ ∃ value, argument = some value ∧ value ≠ "" := by
  unfold preferred
  split
  case h_1 => simp
  case h_2 => simp
  case h_3 value notEmpty =>
    have different : value ≠ "" := notEmpty
    simp [different]

/-- A format is the same under two settings exactly when they are, or there is an
argument. -/
theorem getD_eq_getD_iff {argument : Option ReportFormat} {setting₁ setting₂ : ReportFormat} :
    argument.getD setting₁ = argument.getD setting₂ ↔
      setting₁ = setting₂ ∨ argument.isSome = true := by
  cases argument <;> simp

/-- The command line overrides the format exactly when it asks for one. -/
theorem overrides_format_iff (accepted : CommandLine.read argv = .run arguments) :
    Overrides argv .format ↔ arguments.format.isSome = true := by
  obtain ⟨asked, named⟩ := CommandLine.format_of_read accepted
  rw [overrides_iff accepted rfl, asked]
  constructor
  · rintro ⟨value, last, _⟩
    rw [last]
    obtain ⟨given, notSeparator⟩ := Option.filter_eq_some_iff.mp last
    exact named value given (by simpa using notSeparator)
  · intro isSome
    obtain ⟨format, found⟩ := Option.isSome_iff_exists.mp isSome
    obtain ⟨value, last, names⟩ := Option.bind_eq_some_iff.mp found
    refine ⟨value, last, ?_⟩
    rintro rfl
    cases names

/-- The same settings apply under two settings files exactly when their settings differ
only where the command line overrides them. -/
theorem merge_eq_merge_iff (accepted : CommandLine.read argv = .run arguments) :
    merge arguments settings₁ = merge arguments settings₂ ↔
      DifferOnly (Overrides argv) settings₁ settings₂ := by
  have path : preferred arguments.manifestPath settings₁.manifestPath =
        preferred arguments.manifestPath settings₂.manifestPath ↔
      settings₁.manifestPath = settings₂.manifestPath ∨ Overrides argv .packagePath := by
    rw [preferred_eq_preferred_iff, CommandLine.manifestPath_of_read accepted,
      overrides_iff accepted rfl]
  have format : arguments.format.getD settings₁.format = arguments.format.getD settings₂.format ↔
      settings₁.format = settings₂.format ∨ Overrides argv .format := by
    rw [getD_eq_getD_iff, overrides_format_iff accepted]
  have output : preferred arguments.output settings₁.output =
        preferred arguments.output settings₂.output ↔
      settings₁.output = settings₂.output ∨ Overrides argv .output := by
    rw [preferred_eq_preferred_iff, CommandLine.output_of_read accepted,
      overrides_iff accepted rfl]
  have flag : (arguments.failOnMissing || settings₁.failOnMissing) =
        (arguments.failOnMissing || settings₂.failOnMissing) ↔
      settings₁.failOnMissing = settings₂.failOnMissing ∨ Overrides argv .failOnMissing := by
    rw [overrides_failOnMissing_iff, ← CommandLine.failOnMissing_of_read accepted]
    cases arguments.failOnMissing <;> simp
  simp only [merge, Settings.mk.injEq, path, format, output, flag]
  exact ⟨fun ⟨path, format, output, flag⟩ => ⟨path, format, output, flag⟩,
    fun ⟨path, format, output, flag⟩ => ⟨path, format, output, flag⟩⟩

/-! ## Runs under the same settings -/

variable {location : Location} {content₁ content₂ : ByteArray} {first second : Tree}

/-- Trees that still differ in the one file at most: it is as it was in both, or the same
was written into it. -/
def StillTwins (location : Location) (content₁ content₂ : ByteArray) (first second : Tree) :
    Prop :=
  Tree.Twins location content₁ content₂ first second ∨
    ∃ written, Tree.Twins location written written first second

/-- Two checks come to the same, and leave trees that still differ in the one file at most. -/
structure SameCheck (location : Location) (content₁ content₂ : ByteArray)
    (first second : Checked) : Prop where
  output : second.output = first.output
  log : second.log = first.log
  ending : second.ending = first.ending
  tree : StillTwins location content₁ content₂ first.tree second.tree

/-- Saving a report comes to the same on twins. -/
theorem save_twins (twins : Tree.Twins location content₁ content₂ first second)
    (report : Report) (path : Text) :
    (save second report path).2 = (save first report path).2 ∧
      StillTwins location content₁ content₂ (save first report path).1
        (save second report path).1 := by
  unfold save Tree.ensureDirectories
  dsimp only
  -- Each operation is replaced by its two results, for the relation to be taken apart.
  have ensured := twins.ensureReversed (Files.Path.ofText path).parent.anchor
    (Files.Path.ofText path).parent.segments.reverse
  revert ensured
  generalize first.ensureReversed _ _ = ensured₁
  generalize second.ensureReversed _ _ = ensured₂
  intro ensured
  cases ensured with
  | error fault => exact ⟨rfl, .inl twins⟩
  | ok twins' =>
      dsimp only
      have written := twins'.write (Files.Path.ofText path) (payload report).toUTF8
      revert written
      generalize Tree.write _ _ _ = written₁
      generalize Tree.write _ _ _ = written₂
      rintro (written | written)
      · cases written with
        | error fault => exact ⟨rfl, .inl twins'⟩
        | ok twins'' => exact ⟨rfl, .inl twins''⟩
      · cases written with
        | error fault => exact ⟨rfl, .inl twins'⟩
        | ok twins'' => exact ⟨rfl, .inr ⟨_, twins''⟩⟩

/-- So does delivering it. -/
theorem deliver_twins (twins : Tree.Twins location content₁ content₂ first second)
    (settings : Settings) (log : List Log.Entry) (report : Report) :
    SameCheck location content₁ content₂ (deliver first settings log report)
      (deliver second settings log report) := by
  unfold deliver
  dsimp only
  cases settings.output with
  | some path =>
      dsimp only
      have saved := save_twins twins report path
      revert saved
      generalize save first report path = saved₁
      generalize save second report path = saved₂
      rintro ⟨same, trees⟩
      obtain ⟨tree₁, fault₁⟩ := saved₁
      obtain ⟨tree₂, fault₂⟩ := saved₂
      subst same
      cases fault₂ with
      | some fault => exact ⟨rfl, rfl, rfl, trees⟩
      | none => exact ⟨rfl, rfl, rfl, trees⟩
  | none =>
      cases settings.format with
      | json => exact ⟨rfl, rfl, rfl, .inl twins⟩
      | text => exact ⟨rfl, rfl, rfl, .inl twins⟩

/-- A manifest reads the same on twins, unless it is the file in which they differ and the
two contents read differently. -/
theorem read_twins (twins : Tree.Twins location content₁ content₂ first second)
    {path : Files.Path}
    (oneManifest : first.locate path = .ok location →
      Manifest.read second path = Manifest.read first path) :
    Manifest.read second path = Manifest.read first path := by
  by_cases reached : first.locate path = .ok location
  · exact oneManifest reached
  · exact Manifest.read_eq_of_text? (twins.text?_eq reached)

/-- Examining one manifest under the same settings comes to the same on twins. -/
theorem examineWith_twins (twins : Tree.Twins location content₁ content₂ first second)
    {settings : Settings}
    (sameRead : Manifest.read second (manifestPath first settings) =
      Manifest.read first (manifestPath first settings)) :
    SameCheck location content₁ content₂ (examineWith first settings)
      (examineWith second settings) := by
  have examination :=
    Examination.examine_eq_of_read PackageRules.ruleSet (optionsOf first settings)
      Requirement.Note.message sameRead
  unfold examineWith
  rw [optionsOf_eq_of_current twins.current, examination]
  dsimp only
  split
  case h_1 report _ => exact deliver_twins twins settings _ report
  all_goals exact ⟨rfl, rfl, rfl, .inl twins⟩

/-- Under two settings files that both load, the same settings apply exactly when theirs
differ only where the command line overrides them. Then a run ends the same, prints the
same and logs the same under both, and leaves the same files: the settings file as it was,
unless the run has written over it. Only a manifest that is the settings file itself must
read the same. -/
theorem run_overridden (accepted : CommandLine.read argv = .run arguments)
    (twins : Tree.Twins location content₁ content₂ first second)
    (loaded₁ : Settings.load first first.currentPath = .ok settings₁)
    (loaded₂ : Settings.load second second.currentPath = .ok settings₂) :
    (merge arguments settings₁ = merge arguments settings₂ ↔
      DifferOnly (Overrides argv) settings₁ settings₂) ∧
    (DifferOnly (Overrides argv) settings₁ settings₂ →
      (first.locate (manifestPath first (merge arguments settings₁)) = .ok location →
        Manifest.read second (manifestPath first (merge arguments settings₁)) =
          Manifest.read first (manifestPath first (merge arguments settings₁))) →
      (run argv second).ending = (run argv first).ending ∧
      (run argv second).output = (run argv first).output ∧
      (run argv second).errors = (run argv first).errors ∧
      StillTwins location content₁ content₂ (run argv first).tree (run argv second).tree) := by
  have applied : merge arguments settings₁ = merge arguments settings₂ ↔
      DifferOnly (Overrides argv) settings₁ settings₂ := merge_eq_merge_iff accepted
  refine ⟨applied, fun overridden oneManifest => ?_⟩
  have same := examineWith_twins twins (read_twins twins oneManifest)
  simp only [run, accepted, check_eq_examineWith loaded₁, check_eq_examineWith loaded₂,
    ← applied.mpr overridden]
  exact ⟨same.ending, same.output, by rw [same.log], same.tree⟩

/-- The location of the settings file in a project at the root. -/
def settingsFile : Location :=
  [".gfp-doctor.yml".toUTF8.data.toList]

/-- A project whose manifest, which declares a dependency that must go, has another name. -/
def movedProject : Tree where
  current := []
  entries :=
    [(["old.json".toUTF8.data.toList],
      .file "\x7b\"devDependencies\": \x7b\"phantomjs\": \"2.0.0\"\x7d\x7d".toUTF8)]

/-- The project with a settings file of this text. -/
def movedProjectSetting (text : String) : Tree :=
  movedProject.put settingsFile (.file text.toUTF8)

/-- Any two settings files make twins of it. -/
theorem movedProjectSetting_twins (text₁ text₂ : String) :
    Tree.Twins settingsFile text₁.toUTF8 text₂.toUTF8 (movedProjectSetting text₁)
      (movedProjectSetting text₂) :=
  .of_put (by decide +kernel) _ _

/-- Where all four settings are overridden, a settings file with all four makes no
difference to a run. -/
theorem run_overridden_movedProject :
    let argv := ["--package-path", "old.json", "--form=json", "--output", "r", "--fail-on-missing"]
    let first := movedProjectSetting ""
    let second := movedProjectSetting
      "package_path: gone.json\nformat: json\noutput: s\nfail_on_missing: yes\n"
    CommandLine.read argv = .run ⟨some "old.json", some .json, some "r", true, false⟩ ∧
      Settings.load first first.currentPath = .ok Settings.default ∧
      Settings.load second second.currentPath =
        .ok ⟨some "gone.json", .json, some "s", true⟩ ∧
      DifferOnly (Overrides argv) Settings.default ⟨some "gone.json", .json, some "s", true⟩ ∧
      (run argv second).ending = (run argv first).ending ∧
      (run argv second).output = (run argv first).output ∧
      StillTwins settingsFile "".toUTF8
        "package_path: gone.json\nformat: json\noutput: s\nfail_on_missing: yes\n".toUTF8
        (run argv first).tree (run argv second).tree := by
  intro argv first second
  have accepted : CommandLine.read argv =
      .run ⟨some "old.json", some .json, some "r", true, false⟩ := by decide +kernel
  have loaded₁ : Settings.load first first.currentPath = .ok Settings.default := by
    decide +kernel
  have loaded₂ : Settings.load second second.currentPath =
      .ok ⟨some "gone.json", .json, some "s", true⟩ := by decide +kernel
  obtain ⟨applied, same⟩ :=
    run_overridden accepted (movedProjectSetting_twins _ _) loaded₁ loaded₂
  have overridden := applied.mp (by decide +kernel)
  obtain ⟨ending, output, _, trees⟩ := same overridden
    fun reached => absurd reached (by decide +kernel)
  exact ⟨accepted, loaded₁, loaded₂, overridden, ending, output, trees⟩

/-- It is not so that a run makes no difference between settings files whose settings differ
only where the command line gives the option: an empty path is given, and the manifest is
looked for where the settings file says. -/
theorem not_run_overridden_of_given :
    ¬ ∀ (argv : List String) (arguments : Arguments) (text₁ text₂ : String)
        (settings₁ settings₂ : Settings) (location : Location) (first second : Tree),
      CommandLine.read argv = .run arguments →
      first.locate (Settings.path first.currentPath) = .ok location →
      Tree.Twins location text₁.toUTF8 text₂.toUTF8 first second →
      Settings.load first first.currentPath = .ok settings₁ →
      Settings.load second second.currentPath = .ok settings₂ →
      DifferOnly (Gives argv) settings₁ settings₂ →
        (run argv second).ending = (run argv first).ending := by
  intro always
  have classified : CommandLine.classifyAll ["--package-path", ""] =
      .ok [.option .packagePath "--package-path" none, .plain ""] := by decide +kernel
  have given : Gives ["--package-path", ""] .packagePath := ⟨_, classified, by decide⟩
  have same := always ["--package-path", ""] ⟨some "", none, none, false, false⟩ ""
    "package_path: old.json\n" Settings.default ⟨some "old.json", .text, none, false⟩
    settingsFile _ _ (by decide +kernel) (by decide +kernel) (movedProjectSetting_twins _ _)
    (by decide +kernel) (by decide +kernel) ⟨.inr given, .inl rfl, .inl rfl, .inl rfl⟩
  revert same
  decide +kernel

end ManifestAudit.Program
