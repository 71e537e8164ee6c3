import ManifestAudit.Files.Tree
import ManifestAudit.Yaml.Parser

/-!
# Settings

What a project sets in its `.gfp-doctor.yml`: where the manifest is, how the
report is written and where to, and whether a missing manifest is a failure. Any
value is taken by its text; unknown keys are let pass.
-/

namespace ManifestAudit

/-- How a report is printed. -/
inductive ReportFormat where
  | text
  | json
  deriving Repr, DecidableEq

namespace ReportFormat

/-- The name of a format. -/
def name : ReportFormat → String
  | text => "text"
  | json => "json"

/-- All formats in the order in which they are offered. -/
def all : List ReportFormat :=
  [text, json]

/-- The format with a name. -/
def ofName? (name : Text) : Option ReportFormat :=
  all.find? fun format => Text.ofString format.name = name

end ReportFormat

/-- The settings of a run. -/
structure Settings where
  manifestPath : Option Text
  format : ReportFormat
  output : Option Text
  failOnMissing : Bool
  deriving Repr, DecidableEq

namespace Settings

/-- The settings of a project that sets nothing. -/
def default : Settings :=
  ⟨none, .text, none, false⟩

/-- The name of the settings file. -/
def fileName : String := ".gfp-doctor.yml"

/-- Why a settings file is refused. -/
inductive Error where
  | unparsable
  | notMapping
  | unsupportedFormat (name : Text)
  deriving Repr, DecidableEq

/-- The wording of a refusal. -/
def Error.message : Error → String
  | unparsable => "Failed to parse " ++ fileName
  | notMapping => fileName ++ " must contain a mapping at the root"
  | unsupportedFormat name =>
    "Unsupported format " ++ Text.quoted name ++ " in " ++ fileName ++ "; expected one of " ++
      ", ".intercalate (ReportFormat.all.map ReportFormat.name)

/-- The text of a setting without blanks around it; null and blank texts set nothing. -/
def textOf (value : Option Yaml.Value) : Option Text :=
  match value with
  | none => none
  | some value =>
    if value.isNull then none
    else
      let text := Text.trim value.plainText
      if text.isEmpty then none else some text

/-- The format that a setting names; text when it names none. -/
def formatOf (value : Option Yaml.Value) : Except Error ReportFormat :=
  match textOf value with
  | none => .ok .text
  | some name =>
    match ReportFormat.ofName? name with
    | some format => .ok format
    | none => .error (.unsupportedFormat name)

/-- The value of an entry of the settings file. -/
def setting? (entries : List (Yaml.Atom × Yaml.Value)) (name : String) : Option Yaml.Value :=
  Association.get? Yaml.Atom.same (.text name) entries

/-- The settings that a mapping makes. -/
def ofEntries (entries : List (Yaml.Atom × Yaml.Value)) : Except Error Settings :=
  match formatOf (setting? entries "format") with
  | .error error => .error error
  | .ok format => .ok
    { manifestPath := textOf (setting? entries "package_path")
      format := format
      output := textOf (setting? entries "output")
      failOnMissing := (setting? entries "fail_on_missing").any Yaml.Value.isTruthy }

/-- The settings that the content of a file makes. -/
def ofValue (value : Yaml.Value) : Except Error Settings :=
  if value.isNull then .ok default
  else
    match value.entries? with
    | some entries => ofEntries entries
    | none => .error .notMapping

/-- Why settings cannot be loaded: the file is refused, cannot be read, or holds a
scalar without a value. -/
inductive LoadError where
  | refused (error : Error)
  | unreadable (fault : Files.Fault)
  | valueless (fault : Yaml.Fault)
  deriving Repr, DecidableEq

/-- The settings file of the project at a path. -/
def path (root : Files.Path) : Files.Path :=
  root.join (Files.Path.ofText fileName)

/-- Load the settings of a project; without a settings file nothing is set. -/
def load (tree : Files.Tree) (root : Files.Path) : Except LoadError Settings :=
  match tree.text? (path root) with
  | .error fault => .error (.unreadable fault)
  | .ok none => .ok default
  | .ok (some text) =>
    match Yaml.parse text with
    | .error .malformed => .error (.refused .unparsable)
    | .error fault => .error (.valueless fault)
    | .ok value => (ofValue value).mapError .refused

end Settings

end ManifestAudit
