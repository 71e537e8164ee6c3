import ManifestAudit.Proofs.Program.Ending
import ManifestAudit.Proofs.Yaml.Parser

/-!
# Which settings files break a run off

A settings file that is there is read in three stages: its bytes are decoded, the text is
read as YAML, and the value is taken as settings. A text that is malformed and a value that
is no mapping or names no format are refused, and the run ends with status 2. Bytes that are
no UTF-8 and a text in which something has no value are not: they end the run in a fault.
`loading_of_file` says that nothing else does.
-/

namespace ManifestAudit.Settings

open Files (Tree)

variable {tree : Tree} {root : Files.Path} {content : ByteArray}

/-- Loading settings has an answer: the settings, or that the file is refused. -/
def Answered (result : Except LoadError Settings) : Prop :=
  (∃ settings, result = .ok settings) ∨ ∃ error, result = .error (.refused error)

/-- Settings that cannot be loaded are an answer only if the file is refused. -/
theorem answered_error_iff {error : LoadError} :
    Answered (.error error) ↔ ∃ refusal, error = .refused refusal := by
  constructor
  · rintro (⟨settings, loaded⟩ | ⟨refusal, refused⟩)
    · cases loaded
    · exact ⟨refusal, Except.error.inj refused⟩
  · rintro ⟨refusal, rfl⟩
    exact .inr ⟨refusal, rfl⟩

/-- The characters of a file that is UTF-8, its line ends unified. -/
def charactersOf (content : ByteArray) (valid : content.IsValidUTF8) : List Char :=
  Text.unifyNewlines (String.fromUTF8 content valid).toList

/-- What loading settings from a file of this content may come to: an answer, or one of two
faults, each for its reason. -/
inductive LoadsTo (content : ByteArray) : Except LoadError Settings → Prop where
  | answered {result : Except LoadError Settings} (answer : Answered result) :
      LoadsTo content result
  /-- The bytes are not UTF-8. -/
  | undecodable (invalid : ¬ content.IsValidUTF8) :
      LoadsTo content (.error (.unreadable .undecodable))
  /-- Something in the text has no value. -/
  | valueless {fault : Yaml.Fault} (valid : content.IsValidUTF8) (sound : fault ≠ .malformed)
      (reason : Yaml.Unvalued (charactersOf content valid) fault) :
      LoadsTo content (.error (.valueless fault))

/-- A file that is not UTF-8 is not decoded. -/
theorem load_of_not_valid (file : tree.FileAt (path root) content)
    (invalid : ¬ content.IsValidUTF8) :
    load tree root = .error (.unreadable .undecodable) := by
  unfold load
  rw [Tree.text?_eq_undecodable_of_fileAt file invalid]

/-- A file that is UTF-8 has an answer, unless something in it has no value. -/
theorem load_of_valid (file : tree.FileAt (path root) content) (valid : content.IsValidUTF8) :
    Answered (load tree root) ∨ ∃ fault, load tree root = .error (.valueless fault) ∧
      fault ≠ .malformed ∧ Yaml.Unvalued (charactersOf content valid) fault := by
  unfold load
  rw [Tree.text?_eq_of_fileAt file valid]
  dsimp only
  split
  case h_1 => exact .inl (.inr ⟨.unparsable, rfl⟩)
  case h_2 fault sound refused =>
    rcases Yaml.unvalued_of_parse refused with malformed | reason
    · exact absurd malformed sound
    · rw [String.toList_ofList] at reason
      exact .inr ⟨fault, rfl, sound, reason⟩
  case h_3 value read =>
    cases ofValue value with
    | ok settings => exact .inl (.inl ⟨settings, rfl⟩)
    | error refusal => exact .inl (.inr ⟨refusal, rfl⟩)

/-- The file is not decoded exactly when it is not UTF-8. -/
theorem load_eq_undecodable_iff (file : tree.FileAt (path root) content) :
    load tree root = .error (.unreadable .undecodable) ↔ ¬ content.IsValidUTF8 := by
  refine ⟨fun failed valid => ?_, load_of_not_valid file⟩
  rcases load_of_valid file valid with answer | ⟨fault, failed', _⟩
  · rw [failed, answered_error_iff] at answer
    obtain ⟨refusal, refused⟩ := answer
    cases refused
  · cases failed.symm.trans failed'

/-- Whatever the file holds, loading from it comes to one of these. -/
theorem loadsTo_of_file (file : tree.FileAt (path root) content) :
    LoadsTo content (load tree root) := by
  by_cases valid : content.IsValidUTF8
  · rcases load_of_valid file valid with answer | ⟨fault, failed, sound, reason⟩
    · exact .answered answer
    · rw [failed]
      exact .valueless valid sound reason
  · rw [load_of_not_valid file valid]
    exact .undecodable valid

end ManifestAudit.Settings

namespace ManifestAudit.Program

open CommandLine (Arguments)
open Files (Tree)
open Settings (LoadError)

variable {tree : Tree} {root : Files.Path} {content : ByteArray} {error : LoadError}

/-- How a run ends whose settings cannot be loaded. -/
def endingOf : LoadError → Ending
  | .refused _ => .exit errorStatus
  | .unreadable fault => .fault (.file fault)
  | .valueless fault => .fault (.value fault)

/-- It ends with status 2 exactly when that is an answer. -/
theorem endingOf_eq_exit_iff :
    endingOf error = .exit errorStatus ↔ Settings.Answered (.error error) := by
  rw [Settings.answered_error_iff]
  cases error <;> simp [endingOf]

/-- A run ends on the error on which loading its settings fails. -/
theorem run_ending_of_load_eq_error {argv : List String} {arguments : Arguments}
    (accepted : CommandLine.read argv = .run arguments)
    (failed : Settings.load tree tree.currentPath = .error error) :
    (run argv tree).ending = endingOf error := by
  rw [run_ending_eq_check accepted]
  unfold check
  rw [failed]
  cases error <;> rfl

/-- A project with nothing but a settings file of these bytes. -/
def projectSetting (content : ByteArray) : Tree where
  current := []
  entries := [([".gfp-doctor.yml".toUTF8.data.toList], .file content)]

end ManifestAudit.Program
