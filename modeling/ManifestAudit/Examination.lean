import ManifestAudit.Files.Tree
import ManifestAudit.Json.Reader
import ManifestAudit.Log
import ManifestAudit.Rule.Run

/-!
# Examining a manifest

A manifest is found by its path, read as JSON and put to a rule set. A manifest
that is not there, or is null, makes a skipped report and a warning.
-/

namespace ManifestAudit

/-- Why a manifest cannot be read. -/
inductive Manifest.Error where
  | unparsable (path : Files.Path) (reason : Json.ParseError)
  | unreadable (fault : Files.Fault)
  deriving Repr, DecidableEq

/-- The document in the file at a path; null where there is no regular file. -/
def Manifest.read (tree : Files.Tree) (path : Files.Path) : Except Manifest.Error Json.Value :=
  match tree.text? path with
  | .error fault => .error (.unreadable fault)
  | .ok none => .ok .null
  | .ok (some text) => (Json.parse text).mapError (.unparsable path)

/-- The wording for a manifest that is no JSON. -/
def Manifest.unparsableMessage (path : Files.Path) (reason : Json.ParseError) : Text :=
  Text.ofString "Failed to parse " ++ path.text ++ Text.ofString (": " ++ reason.message)

/-- The path of the manifest that a rule set is for. -/
def RuleSet.manifestPath {Note : Type} (rules : RuleSet Note) (options : Options) : Files.Path :=
  let given := options.manifestPath.getD []
  options.root.join (Files.Path.ofText (if given.isEmpty then rules.defaultPath else given))

/-- Why an examination ends without a report. -/
inductive Examination.Failure where
  | manifest (error : Manifest.Error)
  | record (error : Report.RecordError)
  deriving Repr, DecidableEq

/-- A report, or why there is none, and the log of the way to it. -/
structure Examination where
  log : List Log.Entry
  result : Except Examination.Failure Report

namespace Examination

variable {Note : Type}

/-- The log entry of an event; `wording` words the notes. -/
def entryOf (wording : Note → Text) : Event Note → Log.Entry
  | .noted note => .debug (wording note)
  | .decided ruleId outcome => .debug (ruleId ++ ": " ++ outcome.text)

/-- Put a document to a rule set, behind the log so far. -/
def evaluate (wording : Note → Text) (rules : RuleSet Note) (options : Options)
    (log : List Log.Entry) (document : Json.Value) (found : Bool) : Examination :=
  match rules.run document options found with
  | .error error => ⟨log, .error (.record error)⟩
  | .ok run => ⟨log ++ run.events.map (entryOf wording), .ok run.report⟩

/-- Examine the manifest of a rule set. -/
def examine (wording : Note → Text) (tree : Files.Tree) (rules : RuleSet Note)
    (options : Options) : Examination :=
  let path := rules.manifestPath options
  let log := [.debug (Text.ofString ("Examining " ++ rules.name)),
    .debug (Text.ofString "using " ++ path.text)]
  match Manifest.read tree path with
  | .error error => ⟨log, .error (.manifest error)⟩
  | .ok document =>
    if document.isNull then
      let missing :=
        Text.ofString ("ABORTING: No " ++ rules.name ++ " found in ") ++ options.root.text
      evaluate wording rules options (log ++ [.warning missing]) .null false
    else evaluate wording rules options log document true

end Examination

end ManifestAudit
