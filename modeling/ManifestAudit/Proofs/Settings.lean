import ManifestAudit.Proofs.Text.Pieces
import ManifestAudit.Settings
import Mathlib.Control.Monad.Basic

/-!
# Settings as a normal form

A settings file may hold any value under each of the four names, and any other name beside
them. Loading takes the values by their texts, so what is loaded is in a normal form: texts
without blanks around them that are never empty, one of the formats, and a truth value.
`Settings.toValue` writes settings down as a mapping again, and loading that mapping, or any other
that says the same under the four names, gives the settings back. `Settings.load_normalises` joins
this with the only reason for which a mapping is refused: the text under the name of the format.
-/

namespace ManifestAudit

/-- A text without blanks around it that is not empty. -/
structure Text.IsTrimmed (text : Text) : Prop where
  nonempty : text ≠ []
  first : ∀ symbol ∈ text.head?, symbol.is isBlank = false
  last : ∀ symbol ∈ text.getLast?, symbol.is isBlank = false

/-- What is left of a text without the blanks around it, if anything is left. -/
theorem Text.isTrimmed_trim {text : Text} (nonempty : trim text ≠ []) : IsTrimmed (trim text) where
  nonempty := nonempty
  first := not_accepts_of_mem_head?_dropEnds
  last := not_accepts_of_mem_getLast?_dropEnds

/-- Such a text is left as it is. -/
theorem Text.IsTrimmed.trim_eq {text : Text} (trimmed : IsTrimmed text) : trim text = text :=
  dropEnds_eq_self trimmed.first trimmed.last

namespace Settings

open Files (Path Tree)

variable {settings : Settings} {value : Yaml.Value} {entries : List (Yaml.Atom × Yaml.Value)}

/-! ## Plain values -/

/-- A value that is no more than what a setting can be: null, a text, or a truth value. -/
inductive Plain where
  | nothing
  | text (text : Text)
  | flag (flag : Bool)
  deriving DecidableEq

namespace Plain

/-- A text that may be missing, as a plain value. -/
def ofText? : Option Text → Plain
  | none => nothing
  | some symbols => text symbols

/-- The plain value that stands at the place of a value, if one does. -/
def of? (value : Yaml.Value) : Option Plain :=
  match value.shape? with
  | some (.leaf .null) => some nothing
  | some (.leaf (.text symbols)) => some (text symbols)
  | some (.leaf (.boolean value)) => some (flag value)
  | _ => none

/-- A plain value as an atom. -/
def atom : Plain → Yaml.Atom
  | nothing => .null
  | text symbols => .text symbols
  | flag value => .boolean value

end Plain

/-- A plain value is what stands at its place. -/
theorem Plain.shape?_of_of? {plain : Plain} (is : Plain.of? value = some plain) :
    value.shape? = some (.leaf plain.atom) := by
  unfold Plain.of? at is
  split at is
  case h_1 held => cases is; exact held
  case h_2 held => cases is; exact held
  case h_3 held => cases is; exact held
  case h_4 => cases is

/-- A text that is in normal form, or missing, is taken from a plain value as it is. -/
theorem textOf_of_plain {text? : Option Text} (is : Plain.of? value = some (.ofText? text?))
    (trimmed : ∀ text ∈ text?, text.IsTrimmed) : textOf (some value) = text? := by
  have held := Plain.shape?_of_of? is
  cases text? with
  | none => simp [textOf, Yaml.Value.isNull, held, Plain.ofText?, Plain.atom]
  | some text =>
      have kept := (trimmed text rfl).trim_eq
      have nonempty := (trimmed text rfl).nonempty
      simp [textOf, Yaml.Value.isNull, Yaml.Value.plainText, held, Plain.ofText?, Plain.atom,
        Yaml.Atom.plainText, kept, nonempty]

/-- A truth value is taken from a plain value as it is. -/
theorem isTruthy_of_plain {flag : Bool} (is : Plain.of? value = some (.flag flag)) :
    value.isTruthy = flag := by
  simp [Yaml.Value.isTruthy, Plain.shape?_of_of? is, Plain.atom, Yaml.Atom.isTruthy]

/-! ## Settings written down -/

/-- The names under which settings stand. -/
def names : List String :=
  ["package_path", "format", "output", "fail_on_missing"]

/-- Settings as plain values, in the order of the names. -/
def plains (settings : Settings) : List Plain :=
  [.ofText? settings.manifestPath, .text settings.format.name, .ofText? settings.output,
    .flag settings.failOnMissing]

/-- What a mapping says under the names, as far as it is plain. -/
def saying (value : Yaml.Value) : Option (List (Option Plain)) :=
  value.entries?.map fun entries =>
    names.map fun name => (setting? entries name).bind Plain.of?

/-- A mapping says settings, whatever else it holds. -/
def Says (value : Yaml.Value) (settings : Settings) : Prop :=
  saying value = some (settings.plains.map some)

/-- Settings as a mapping with nothing else in it: the mapping at the first place of the graph,
behind it the four names, and then the values. -/
def toValue (settings : Settings) : Yaml.Value where
  place := 0
  graph := #[
    some (.mapping [(⟨1, .text "package_path"⟩, 5), (⟨2, .text "format"⟩, 6),
      (⟨3, .text "output"⟩, 7), (⟨4, .text "fail_on_missing"⟩, 8)]),
    some (.leaf (.text "package_path")), some (.leaf (.text "format")),
    some (.leaf (.text "output")), some (.leaf (.text "fail_on_missing")),
    some (.leaf (Plain.ofText? settings.manifestPath).atom),
    some (.leaf (.text settings.format.name)),
    some (.leaf (Plain.ofText? settings.output).atom),
    some (.leaf (.boolean settings.failOnMissing))]

/-- The mapping says the settings. -/
theorem says_toValue (settings : Settings) : Says settings.toValue settings := by
  obtain ⟨manifestPath, format, output, failOnMissing⟩ := settings
  cases manifestPath <;> cases output <;> rfl

/-! ## Loading -/

/-- Settings in normal form. -/
structure IsNormal (settings : Settings) : Prop where
  manifestPath : ∀ text ∈ settings.manifestPath, text.IsTrimmed
  format : settings.format.name = "text" ∨ settings.format.name = "json"
  output : ∀ text ∈ settings.output, text.IsTrimmed

/-- What is taken from a value is trimmed. -/
theorem isTrimmed_of_mem_textOf {value? : Option Yaml.Value} :
    ∀ text ∈ textOf value?, text.IsTrimmed := by
  intro text taken
  unfold textOf at taken
  split at taken
  case h_1 => cases taken
  case h_2 value =>
    split at taken
    case isTrue => cases taken
    case isFalse =>
      dsimp only at taken
      split at taken
      case isTrue => cases taken
      case isFalse nonempty =>
        cases taken
        exact Text.isTrimmed_trim (by simpa using nonempty)

/-- The settings that a mapping makes are in normal form. -/
theorem isNormal_of_ofEntries (made : ofEntries entries = .ok settings) : settings.IsNormal := by
  unfold ofEntries at made
  split at made
  case h_1 => cases made
  case h_2 format _ =>
    cases made
    refine ⟨isTrimmed_of_mem_textOf, ?_, isTrimmed_of_mem_textOf⟩
    cases format
    · exact .inl rfl
    · exact .inr rfl

/-- The name of a format is that format's. -/
theorem ofName?_name (format : ReportFormat) :
    ReportFormat.ofName? format.name = some format := by
  cases format <;> decide

/-- The settings that a mapping makes are those of its entries. -/
theorem ofValue_of_entries? (mapping : value.entries? = some entries) :
    ofValue value = ofEntries entries := by
  have notNull : value.isNull = false := by
    unfold Yaml.Value.entries? at mapping
    split at mapping
    case h_1 held => simp [Yaml.Value.isNull, held]
    case h_2 => cases mapping
  simp [ofValue, notNull, mapping]

/-- A mapping that says settings in normal form makes them. -/
theorem ofValue_of_says (matching : Says value settings) (normal : settings.IsNormal) :
    ofValue value = .ok settings := by
  obtain ⟨entries, mapping, said⟩ := Option.map_eq_some_iff.mp matching
  simp only [names, plains, List.map_cons, List.map_nil, List.cons.injEq, and_true,
    Option.bind_eq_some_iff] at said
  obtain ⟨⟨path, pathHeld, pathIs⟩, ⟨format, formatHeld, formatIs⟩, ⟨output, outputHeld, outputIs⟩,
    flag, flagHeld, flagIs⟩ := said
  have named : (settings.format.name : Text).IsTrimmed := by
    cases settings.format <;> exact ⟨by decide, by decide, by decide⟩
  have formatted : formatOf (some format) = .ok settings.format := by
    have taken : textOf (some format) = some (settings.format.name : Text) :=
      textOf_of_plain formatIs (by simpa using named)
    simp only [formatOf, taken, ofName?_name]
  rw [ofValue_of_entries? mapping, ofEntries, pathHeld, formatHeld, outputHeld, flagHeld, formatted,
    textOf_of_plain pathIs normal.manifestPath, textOf_of_plain outputIs normal.output,
    Option.any_some, isTruthy_of_plain flagIs]

/-- A text that names no format. -/
def NamesNoFormat (name : Text) : Prop :=
  name ≠ [] ∧ name ≠ Text.ofString "text" ∧ name ≠ Text.ofString "json"

/-- The format with a name is missing exactly when the name is neither of the two. -/
theorem ofName?_eq_none_iff {name : Text} :
    ReportFormat.ofName? name = none ↔
      name ≠ Text.ofString "text" ∧ name ≠ Text.ofString "json" := by
  have listed (format : ReportFormat) : format ∈ ReportFormat.all := by
    cases format <;> decide
  rw [ReportFormat.ofName?, List.find?_eq_none]
  simp only [decide_eq_true_eq]
  constructor
  · intro none
    exact ⟨Ne.symm (none .text (listed _)), Ne.symm (none .json (listed _))⟩
  · rintro ⟨notText, notJson⟩ format _
    cases format
    · exact notText.symm
    · exact notJson.symm

/-- A mapping is refused exactly when the text under the name of the format names none. -/
theorem ofEntries_eq_error_iff {error : Error} :
    ofEntries entries = .error error ↔
      ∃ format, setting? entries "format" = some format ∧ format.isNull = false ∧
        NamesNoFormat (Text.trim format.plainText) ∧
        error = .unsupportedFormat (Text.trim format.plainText) := by
  have refused : ofEntries entries = .error error ↔
      formatOf (setting? entries "format") = .error error := by
    unfold ofEntries
    cases formatOf (setting? entries "format") <;> simp
  rw [refused]
  cases held : setting? entries "format" with
  | none => simp [formatOf, textOf]
  | some format =>
      cases null : format.isNull with
      | true => simp [formatOf, textOf, null]
      | false =>
          by_cases empty : Text.trim format.plainText = []
          · simp [formatOf, textOf, null, empty, NamesNoFormat]
          · cases found : ReportFormat.ofName? (Text.trim format.plainText) with
            | none =>
                have names := ofName?_eq_none_iff.mp found
                simpa [formatOf, textOf, null, empty, found, NamesNoFormat, names] using eq_comm
            | some known =>
                have named : ¬ NamesNoFormat (Text.trim format.plainText) := by
                  rintro ⟨_, names⟩
                  rw [ofName?_eq_none_iff.mpr names] at found
                  cases found
                simp [formatOf, textOf, null, empty, found, named]

/-- The settings file of a project is there and holds a value. -/
def Holds (tree : Tree) (root : Path) (value : Yaml.Value) : Prop :=
  ∃ text, tree.text? (path root) = .ok (some text) ∧ Yaml.parse text = .ok value

/-- What loading comes to is what the value makes. -/
theorem load_of_holds {tree : Tree} {root : Path} (holds : Holds tree root value) :
    load tree root = (ofValue value).mapError .refused := by
  obtain ⟨text, read, parsed⟩ := holds
  simp only [load, read, parsed]

/-- The settings that are loaded from a mapping are in normal form, and they are loaded again
from themselves written down as a mapping, and from every file that says the same. The mapping
is refused exactly when the value of the format, which is neither missing nor null, has a text
that is not blank and names no format; nothing else that it holds matters. -/
theorem load_normalises {tree : Tree} {root : Path} (holds : Holds tree root value)
    (mapping : value.entries? = some entries) :
    (∀ settings, load tree root = .ok settings →
      settings.IsNormal ∧ ofValue settings.toValue = .ok settings ∧
        ∀ other place again, Holds other place again → Says again settings →
          load other place = .ok settings) ∧
    ∀ error, load tree root = .error error ↔
      ∃ format, setting? entries "format" = some format ∧ format.isNull = false ∧
        NamesNoFormat (Text.trim format.plainText) ∧
        error = .refused (.unsupportedFormat (Text.trim format.plainText)) := by
  rw [load_of_holds holds, ofValue_of_entries? mapping]
  constructor
  · intro settings loaded
    have made : ofEntries entries = .ok settings := by
      cases result : ofEntries entries with
      | error error => simp [result, Except.mapError] at loaded
      | ok made => simpa [result, Except.mapError] using loaded
    have normal := isNormal_of_ofEntries made
    refine ⟨normal, ofValue_of_says (says_toValue settings) normal, ?_⟩
    intro other place again holdsAgain matching
    rw [load_of_holds holdsAgain, ofValue_of_says matching normal]
    rfl
  · intro error
    have refused : (ofEntries entries).mapError LoadError.refused = .error error ↔
        ∃ refusal, ofEntries entries = .error refusal ∧ error = .refused refusal := by
      cases ofEntries entries <;> simp [Except.mapError, eq_comm]
    rw [refused]
    constructor
    · rintro ⟨refusal, failed, rfl⟩
      obtain ⟨format, held, notNull, names, rfl⟩ := ofEntries_eq_error_iff.mp failed
      exact ⟨format, held, notNull, names, rfl⟩
    · rintro ⟨format, held, notNull, names, rfl⟩
      exact ⟨_, ofEntries_eq_error_iff.mpr ⟨format, held, notNull, names, rfl⟩, rfl⟩

/-- What can be told of the value that a text is read as can be told of what the file holds. -/
theorem exists_holds {tree : Tree} {root : Path} {text : String} {α : Type}
    {describe : Yaml.Value → Option α} {description : α}
    (read : tree.text? (path root) = .ok (some text))
    (described : (Yaml.parse text).toOption.bind describe = some description) :
    ∃ value, Holds tree root value ∧ describe value = some description := by
  obtain ⟨value, parsed, described⟩ := Option.bind_eq_some_iff.mp described
  cases result : Yaml.parse text with
  | error fault => simp [result, Except.toOption] at parsed
  | ok value' =>
      have same : value' = value := by simpa [result, Except.toOption] using parsed
      exact ⟨value, ⟨text, read, same ▸ result⟩, described⟩

/-- A project with nothing but a settings file. -/
def projectHolding (text : String) : Tree where
  current := []
  entries := [([".gfp-doctor.yml".toUTF8.data.toList], .file text.toUTF8)]

/-- A settings file with blanks around the format, a day for the output and a list for the last
value. -/
def spaciousText : String :=
  "format: ' json '\noutput: 2020-01-02\nfail_on_missing: [0]\n"

/-- A settings file that says the same plainly. -/
def plainText : String :=
  "package_path: ~\nformat: json\noutput: '2020-01-02'\nfail_on_missing: yes\n"

/-- Both make the same settings, which are in normal form. -/
theorem load_normalises_spaciousText :
    let settings : Settings := ⟨none, .json, some "2020-01-02", true⟩
    let spacious := projectHolding spaciousText
    let plain := projectHolding plainText
    load spacious spacious.currentPath = .ok settings ∧ settings.IsNormal ∧
      ofValue settings.toValue = .ok settings ∧ load plain plain.currentPath = .ok settings := by
  intro settings spacious plain
  have loaded : load spacious spacious.currentPath = .ok settings := by decide +kernel
  have read : spacious.text? (path spacious.currentPath) = .ok (some spaciousText) := by
    decide +kernel
  have readAgain : plain.text? (path plain.currentPath) = .ok (some plainText) := by
    decide +kernel
  have isMapping : (Yaml.parse spaciousText).toOption.bind
      (fun value => some value.entries?.isSome) = some true := by
    decide +kernel
  have saysAgain : (Yaml.parse plainText).toOption.bind saying =
      some (settings.plains.map some) := by
    decide +kernel
  obtain ⟨value, holds, isMapping⟩ := exists_holds read isMapping
  obtain ⟨again, holdsAgain, matching⟩ := exists_holds readAgain saysAgain
  obtain ⟨entries, mapping⟩ := Option.isSome_iff_exists.mp (Option.some.inj isMapping)
  obtain ⟨normal, written, reloaded⟩ := (load_normalises holds mapping).1 settings loaded
  exact ⟨loaded, normal, written, reloaded plain plain.currentPath again holdsAgain matching⟩

end Settings

end ManifestAudit
