import ManifestAudit.CommandLine.Usage
import ManifestAudit.Examination
import ManifestAudit.PackageRules
import ManifestAudit.Report.Json
import ManifestAudit.Report.Text

/-!
# The program

A run of the program as a function from arguments and a file tree to what is
printed, the file tree afterwards and how the run ends. Settings in arguments
override those of the settings file. A settings file that is refused, or a
manifest that is no JSON, ends the run with status 2 and nothing printed but an
error in the log.
-/

namespace ManifestAudit

/-- Why a run breaks off. -/
inductive Program.Fault where
  | file (fault : Files.Fault)
  | value (fault : Yaml.Fault)
  | record (error : Report.RecordError)
  deriving Repr, DecidableEq

/-- The wording of a fault. -/
def Program.Fault.message : Program.Fault → String
  | file fault => fault.message
  | value fault => fault.message
  | record error => error.message

/-- How a run ends: with an exit status, or broken off. -/
inductive Program.Ending where
  | exit (status : Nat)
  | fault (fault : Program.Fault)
  deriving Repr, DecidableEq

/-- What a check of a project comes to. -/
structure Program.Checked where
  output : Text
  log : List Log.Entry
  tree : Files.Tree
  ending : Program.Ending

/-- What a run comes to. -/
structure Program.Completion where
  output : Text
  errors : Text
  tree : Files.Tree
  ending : Program.Ending

namespace Program

open CommandLine (Arguments)

/-- The exit status when a manifest is missing that must not be. -/
def missingStatus : Nat := 1

/-- The exit status when arguments, settings or the manifest cannot be used. -/
def errorStatus : Nat := 2

/-- A text that an argument gives, or else the setting; an empty argument gives none. -/
def preferred (argument : Option String) (setting : Option Text) : Option Text :=
  match argument with
  | none | some "" => setting
  | some text => some text

/-- Settings as the arguments override them. -/
def merge (arguments : Arguments) (settings : Settings) : Settings :=
  { manifestPath := preferred arguments.manifestPath settings.manifestPath
    format := arguments.format.getD settings.format
    output := preferred arguments.output settings.output
    failOnMissing := arguments.failOnMissing || settings.failOnMissing }

/-- The JSON form of a report as it is written out. -/
def payload (report : Report) : String :=
  report.toJson.pretty

/-- The exit status after a report. -/
def statusOf (settings : Settings) (report : Report) : Nat :=
  if report.skipped && settings.failOnMissing then missingStatus else report.exitCode

/-- Write the JSON form of a report to a file, creating the directories on the
way. The tree is given back even if that fails half way. -/
def save (tree : Files.Tree) (report : Report) (path : Text) :
    Files.Tree × Option Files.Fault :=
  let path := Files.Path.ofText path
  match tree.ensureDirectories path.parent with
  | .error fault => (tree, some fault)
  | .ok tree =>
    match tree.write path (payload report).toUTF8 with
    | .error fault => (tree, some fault)
    | .ok tree => (tree, none)

/-- Print a report, and its JSON form to the file or behind the report, as set. -/
def deliver (tree : Files.Tree) (settings : Settings) (log : List Log.Entry) (report : Report) :
    Checked :=
  let printed := Text.ofString (report.text ++ "\n")
  let ending := .exit (statusOf settings report)
  match settings.output with
  | some path =>
    match save tree report path with
    | (tree, some fault) => ⟨printed, log, tree, .fault (.file fault)⟩
    | (tree, none) =>
      let notice := Text.ofString "\nReport written to " ++ path ++ [.char '\n']
      ⟨printed ++ notice, log, tree, ending⟩
  | none =>
    match settings.format with
    | .json =>
      let listing := Text.ofString ("\nJSON Report\n" ++ payload report ++ "\n")
      ⟨printed ++ listing, log, tree, ending⟩
    | .text => ⟨printed, log, tree, ending⟩

/-- How a check examines the manifest under settings. -/
def optionsOf (tree : Files.Tree) (settings : Settings) : Options :=
  ⟨settings.manifestPath, tree.currentPath, []⟩

/-- A check that ends before anything is printed. -/
def stopped (tree : Files.Tree) (log : List Log.Entry) (ending : Ending) : Checked :=
  ⟨[], log, tree, ending⟩

/-- Examine the manifest under the settings that apply. -/
def examineWith (tree : Files.Tree) (settings : Settings) : Checked :=
  let examination :=
    Examination.examine Requirement.Note.message tree PackageRules.ruleSet
      (optionsOf tree settings)
  let log := examination.log
  match examination.result with
  | .ok report => deliver tree settings log report
  | .error (.manifest (.unparsable path reason)) =>
    stopped tree (log ++ [.error (Manifest.unparsableMessage path reason)]) (.exit errorStatus)
  | .error (.manifest (.unreadable fault)) => stopped tree log (.fault (.file fault))
  | .error (.record error) => stopped tree log (.fault (.record error))

/-- Check the project in the current directory. -/
def check (arguments : Arguments) (tree : Files.Tree) : Checked :=
  match Settings.load tree tree.currentPath with
  | .error (.refused error) => stopped tree [.error error.message] (.exit errorStatus)
  | .error (.unreadable fault) => stopped tree [] (.fault (.file fault))
  | .error (.valueless fault) => stopped tree [] (.fault (.value fault))
  | .ok settings => examineWith tree (merge arguments settings)

/-- Run the program. -/
def run (arguments : List String) (tree : Files.Tree) : Completion :=
  match CommandLine.read arguments with
  | .help => ⟨CommandLine.help, [], tree, .exit 0⟩
  | .version => ⟨CommandLine.version, [], tree, .exit 0⟩
  | .refused error => ⟨[], error.text, tree, .exit errorStatus⟩
  | .run arguments =>
    let checked := check arguments tree
    ⟨checked.output, Log.text arguments.verbose checked.log, checked.tree, checked.ending⟩

/-- The paths that a run with these arguments uses, as far as they can be told from
the tree: first the settings file, and with its settings the manifest and the file
that the report goes to. -/
def pathsUsed (arguments : List String) (tree : Files.Tree) : List Files.Path :=
  match CommandLine.read arguments with
  | .run arguments =>
    Settings.path tree.currentPath ::
      match Settings.load tree tree.currentPath with
      | .error _ => []
      | .ok settings =>
        let settings := merge arguments settings
        PackageRules.ruleSet.manifestPath (optionsOf tree settings) ::
          (settings.output.map Files.Path.ofText).toList
  | _ => []

end Program

end ManifestAudit
