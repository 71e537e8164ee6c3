import ManifestAudit.Proofs.Json.RoundTrip
import ManifestAudit.Proofs.Program.Ending

/-!
# What is read from the file of a report

The JSON form of a report is recoverable, whatever its texts and outcomes are, and so the file
that a report is written to is plain ASCII and is read as the same JSON form, `deliver_readable`.
Reading unifies line ends, but no carriage return is ever written. The report gets there exactly
where a file can be written, `exists_save_iff`.
-/

namespace ManifestAudit

open Files (Tree)
open Json (Recoverable)

/-! ## The JSON form -/

/-- Counts can be read back. -/
theorem Summary.recoverable_toJson (summary : Summary) : Recoverable summary.toJson := by
  refine .ofNames [("failed", .integer summary.failed),
    ("passed", .integer summary.passed), ("not_applicable", .integer summary.notApplicable)]
    (by simp) ?_
  simp only [List.forall_mem_cons]
  exact ⟨.integer _, .integer _, .integer _, nofun⟩

/-- So can an outcome. -/
theorem Outcome.recoverable_toJson (outcome : Option Outcome) :
    Recoverable (Outcome.toJson outcome) := by
  cases outcome with
  | none => exact .null
  | some outcome => exact .ofString _

/-- So can a result. -/
theorem Result.recoverable_toJson (result : Result) : Recoverable result.toJson := by
  refine .ofNames [("rule_id", .string result.ruleId),
    ("description", .string result.description), ("error_message", .string result.advice),
    ("outcome", Outcome.toJson result.outcome)] (by simp) ?_
  simp only [List.forall_mem_cons]
  exact ⟨.ofString _, .ofString _, .ofString _, Outcome.recoverable_toJson _, nofun⟩

/-- So can a report with any results. -/
theorem Report.recoverable_toJson (report : Report) : Recoverable report.toJson := by
  have results : Recoverable (.array (report.results.map Result.toJson)) := by
    refine .array fun item listed => ?_
    obtain ⟨result, _, rfl⟩ := List.mem_map.mp listed
    exact result.recoverable_toJson
  refine .ofNames [("name", .string report.name),
    ("skipped", .boolean report.skipped), ("passed", .boolean report.passed),
    ("summary", report.summary.toJson), ("rules", .array (report.results.map Result.toJson))]
    (by simp) ?_
  simp only [List.forall_mem_cons]
  exact ⟨.ofString _, .boolean _, .boolean _, report.summary.recoverable_toJson, results, nofun⟩

/-! ## Files of text -/

/-- The bytes of a text in ASCII are the codes of its characters. -/
theorem lt_of_mem_toUTF8 {text : String} (ascii : ∀ c ∈ text.toList, c.toNat < 0x80) :
    ∀ byte ∈ text.toUTF8.data.toList, byte < 0x80 := by
  intro byte member
  have bytes : text.toUTF8.data.toList = text.toList.flatMap String.utf8EncodeChar := by
    rw [String.toUTF8_eq_toByteArray, ← String.utf8Encode_toList]
    exact List.toList_data_toByteArray
  rw [bytes, List.mem_flatMap] at member
  obtain ⟨c, listed, encoded⟩ := member
  have below := ascii c listed
  have single : c.val.toNat ≤ 0x7F := Nat.le_of_lt_succ below
  simp only [String.utf8EncodeChar, if_pos single, List.mem_singleton] at encoded
  rw [encoded, UInt8.lt_iff_toNat_lt, UInt8.toNat_ofNat']
  exact Nat.lt_of_le_of_lt (Nat.mod_le _ _) below

/-- A text without carriage returns is read from a file as it was written. -/
theorem text?_of_fileAt_toUTF8 {tree : Tree} {path : Files.Path} {text : String}
    (file : tree.FileAt path text.toUTF8) (free : '\r' ∉ text.toList) :
    tree.text? path = .ok (some text) := by
  have same : String.fromUTF8 text.toUTF8 text.isValidUTF8 = text := rfl
  rw [Tree.text?_eq_of_fileAt file text.isValidUTF8, same, Text.unifyNewlines_eq_self free,
    String.ofList_toList]

namespace Program

variable {tree : Tree} {settings : Settings} {path : Text}

/-- The JSON form of a report is written out in plain characters. -/
theorem isPlain_of_mem_payload (report : Report) :
    ∀ c ∈ (payload report).toList, Json.IsPlain c := by
  rw [payload, Json.Value.pretty, String.toList_ofList]
  exact report.recoverable_toJson.isPlain 0

/-! ## The file -/

/-- A file can be written at a path: the directories on the way to it can be created, and it
does not lead to a directory itself. -/
def Writable (tree : Tree) (path : Files.Path) : Prop :=
  ∃ around location, tree.ensureDirectories path.parent = .ok around ∧
    around.locate path = .ok location ∧ around.entry? location ≠ some .directory

/-- Content is written exactly where something other than a directory may be. -/
theorem exists_write_eq_ok_iff {path : Files.Path} (content : ByteArray) :
    (∃ after, tree.write path content = .ok after) ↔
      ∃ location, tree.locate path = .ok location ∧
        tree.entry? location ≠ some .directory := by
  unfold Tree.write
  cases located : tree.locate path with
  | error fault => simp
  | ok location =>
      cases held : tree.entry? location with
      | none => simp [held]
      | some entry => cases entry <;> simp [held]

/-- A report is saved exactly where a file can be written. -/
theorem exists_save_iff {report : Report} :
    (∃ after, save tree report path = (after, none)) ↔ Writable tree (.ofText path) := by
  constructor
  · rintro ⟨after, saved⟩
    obtain ⟨around, ensured, written⟩ := save_steps saved
    obtain ⟨location, located, free⟩ := (exists_write_eq_ok_iff _).mp ⟨after, written⟩
    exact ⟨around, location, ensured, located, free⟩
  · rintro ⟨around, location, ensured, located, free⟩
    obtain ⟨after, written⟩ :=
      (exists_write_eq_ok_iff (payload report).toUTF8).mpr ⟨location, located, free⟩
    refine ⟨after, ?_⟩
    simp only [save, ensured, written]

/-- What was written for a report is read as its JSON form. -/
theorem read_of_fileAt_payload {path : Files.Path} {report : Report}
    (file : tree.FileAt path (payload report).toUTF8) :
    Manifest.read tree path = .ok report.toJson := by
  have free : '\r' ∉ (payload report).toList := fun listed =>
    absurd (isPlain_of_mem_payload report _ listed) (by decide)
  rw [Manifest.read, text?_of_fileAt_toUTF8 file free]
  simp only [payload, report.recoverable_toJson.parse_pretty, Except.mapError]

/-- Whatever is in a report, its JSON form is put into the file where one can be written, in
ASCII only, and is what the file is read as afterwards. -/
theorem deliver_readable (set : settings.output = some path)
    (writable : Writable tree (.ofText path)) (log : List Log.Entry) (report : Report) :
    (deliver tree settings log report).ending = .exit (statusOf settings report) ∧
      ∃ content,
        (deliver tree settings log report).tree.FileAt (.ofText path) content ∧
        (∀ byte ∈ content.data.toList, byte < 0x80) ∧
        Manifest.read (deliver tree settings log report).tree (.ofText path) =
          .ok report.toJson := by
  obtain ⟨after, saved⟩ := exists_save_iff.mpr writable
  obtain ⟨_, location, located, held, _⟩ := save_eq_ok saved
  have file : after.FileAt (.ofText path) (payload report).toUTF8 := ⟨location, located, held⟩
  have delivered : (deliver tree settings log report).tree = after ∧
      (deliver tree settings log report).ending = .exit (statusOf settings report) := by
    simp only [deliver, set, saved, and_self]
  obtain ⟨rfl, ending⟩ := delivered
  have ascii : ∀ c ∈ (payload report).toList, c.toNat < 0x80 := fun c listed =>
    (isPlain_of_mem_payload report c listed).toNat_lt
  exact ⟨ending, _, file, lt_of_mem_toUTF8 ascii, read_of_fileAt_payload file⟩

/-- A report whose texts hold quotes, control characters, all kinds of line ends and a character
outside the first plane, and one of whose results has no outcome. -/
def motleyReport : Report where
  name := "\"quoted\" \\ \r\n"
  results := [⟨"one", "\x00\x08\x0c\t\x7f", "first\rsecond\u2028third 😀", some .failed⟩,
    ⟨"two", "", "é", none⟩]
  skipped := false
  summary := ⟨1, 0, 0⟩

/-- It comes back from a file in a directory that was not there before. -/
theorem deliver_readable_motleyReport :
    (deliver offendingProject ⟨none, .text, some "r/doctor.json", false⟩ [] motleyReport).ending =
        .exit 1 ∧
      ∃ content,
        (deliver offendingProject ⟨none, .text, some "r/doctor.json", false⟩ []
          motleyReport).tree.FileAt (.ofText (Text.ofString "r/doctor.json")) content ∧
        (∀ byte ∈ content.data.toList, byte < 0x80) ∧
        Manifest.read (deliver offendingProject ⟨none, .text, some "r/doctor.json", false⟩ []
          motleyReport).tree (.ofText (Text.ofString "r/doctor.json")) =
            .ok motleyReport.toJson := by
  have created : (save offendingProject motleyReport "r/doctor.json").2 = none := by
    decide +kernel
  exact deliver_readable rfl (exists_save_iff.mp ⟨_, Prod.ext rfl created⟩) [] motleyReport

end Program

end ManifestAudit
