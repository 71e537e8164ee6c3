import ManifestAudit.Proofs.Files.Tree

/-!
# Paths while a tree grows

Creating directories and writing files takes no directory away. `Grows` says that much of
two trees, and it is enough for a path that leads somewhere to lead there still; what led
nowhere for want of a directory may lead somewhere afterwards. What a path reads stays the
same unless that happens or the file is written, `text?_of_undisturbed`. An operation that
has been done once is done again without effect: directories are created once, and the same
content is written over itself.
-/

namespace ManifestAudit.Files.Tree

variable {before after : Tree} {path : Path}

/-- Every directory is still a directory. -/
structure Grows (before after : Tree) : Prop where
  current : after.current = before.current
  directories : ∀ location, before.entry? location = some .directory →
    after.entry? location = some .directory

namespace Grows

theorem refl (tree : Tree) : Grows tree tree :=
  ⟨rfl, fun _ held => held⟩

theorem trans {middle : Tree} (earlier : Grows before middle) (later : Grows middle after) :
    Grows before after where
  current := later.current.trans earlier.current
  directories location held := later.directories location (earlier.directories location held)

/-- Trees that gain directories grow. -/
theorem of_addsDirectories (adds : AddsDirectories before after) : Grows before after where
  current := adds.current
  directories := by
    intro location held
    rcases adds.entries location with kept | ⟨empty, _⟩
    · rwa [kept]
    · rw [empty] at held
      cases held

/-- So do trees in which one location changes that was no directory. -/
theorem of_others {location : Location} (current : after.current = before.current)
    (notDirectory : before.entry? location ≠ some .directory)
    (others : ∀ other, other ≠ location → after.entry? other = before.entry? other) :
    Grows before after where
  current := current
  directories := by
    intro other held
    have different : other ≠ location := by
      rintro rfl
      exact notDirectory held
    rwa [others other different]

/-- A walk ends as before, unless it ended where a directory was wanting. -/
theorem walk_eq (grows : Grows before after) {here : Location} {names : List Name}
    (found : before.walk here names ≠ .error .missing)
    (entered : before.walk here names ≠ .error .notDirectory) :
    after.walk here names = before.walk here names := by
  induction names generalizing here with
  | nil => rfl
  | cons name names inductionHypothesis =>
      rw [walk] at found entered
      rw [walk, walk]
      cases held : before.entry? here with
      | none => simp [held] at found
      | some entry =>
          cases entry with
          | file content => simp [held] at entered
          | directory =>
              simp only [held] at found entered
              simp only [grows.directories here held]
              split
              case isTrue upwards =>
                rw [if_pos upwards] at found entered
                exact inductionHypothesis found entered
              case isFalse onwards =>
                rw [if_neg onwards] at found entered
                split
                case isTrue => rfl
                case isFalse fits =>
                  rw [if_neg fits] at found entered
                  exact inductionHypothesis found entered

/-- A path leads where it led, unless it led nowhere for want of a directory. -/
theorem locate_eq (grows : Grows before after) (found : before.locate path ≠ .error .missing)
    (entered : before.locate path ≠ .error .notDirectory) :
    after.locate path = before.locate path := by
  unfold locate at found entered ⊢
  split
  case h_1 written names wording segments =>
    simp only [wording, segments] at found entered
    split
    case isTrue => rfl
    case isFalse noNul =>
      rw [if_neg noNul] at found entered
      split
      case isTrue => rfl
      case isFalse short =>
        rw [if_neg short] at found entered
        rw [startOf, grows.current]
        exact grows.walk_eq found entered
  case h_2 => rfl

/-- A path that leads to a location leads there still. -/
theorem locate_ok (grows : Grows before after) {location : Location}
    (located : before.locate path = .ok location) : after.locate path = .ok location := by
  rw [grows.locate_eq (by simp [located]) (by simp [located]), located]

/-- A path that leads to a directory leads to one still. -/
theorem isDirectory (grows : Grows before after) (directory : before.isDirectory path = true) :
    after.isDirectory path = true := by
  unfold Tree.isDirectory at directory ⊢
  cases located : before.locate path with
  | error fault => simp [located] at directory
  | ok location =>
      simp only [located, decide_eq_true_eq] at directory
      simp only [grows.locate_ok located, grows.directories location directory, decide_true]

end Grows

/-! ## Reading -/

/-- A path reads as none exactly when it does not lead too far and leads to no regular
file. -/
theorem content?_eq_none_iff {tree : Tree} :
    tree.content? path = .ok none ↔
      tree.locate path ≠ .error .nameTooLong ∧ ¬ tree.HasFile path := by
  constructor
  · intro held
    refine ⟨fun long => ?_, not_hasFile_of_content?_eq_none held⟩
    simp [content?, long] at held
  · rintro ⟨short, noFile⟩
    cases held : tree.content? path with
    | error fault =>
        unfold content? at held
        split at held
        case h_1 long => exact absurd long short
        case h_2 => cases held
        case h_3 => split at held <;> cases held
    | ok content =>
        cases content with
        | none => rfl
        | some content => exact absurd (hasFile_of_content?_eq_some held) noFile

/-- Writing to one path does not disturb another: it does not lead to what was written, and
if it led nowhere for want of a directory, it still leads to no file and not too far. -/
structure Undisturbed (before after : Tree) (written path : Path) : Prop where
  apart : ∀ location, after.locate written = .ok location → after.locate path ≠ .ok location
  found : after.HasFile path → ∃ location, before.locate path = .ok location
  reached : after.locate path = .error .nameTooLong → before.locate path = .error .nameTooLong

/-- A path that led somewhere is disturbed only by writing there. -/
theorem undisturbed_of_locate {written : Path} {location : Location} (grows : Grows before after)
    (led : before.locate path = .ok location) (apart : after.locate written ≠ .ok location) :
    Undisturbed before after written path := by
  have still := grows.locate_ok led
  refine ⟨fun other reached leads => ?_, fun _ => ⟨location, led⟩, fun long => ?_⟩
  · rw [still] at leads
    cases leads
    exact apart reached
  · rw [still] at long
    cases long

/-- A path that is not disturbed reads as before. -/
theorem text?_of_undisturbed {written : Path} {location : Location}
    (undisturbed : Undisturbed before after written path) (grows : Grows before after)
    (located : after.locate written = .ok location)
    (others : ∀ other, other ≠ location → after.entry? other = before.entry? other ∨
      before.entry? other = none ∧ after.entry? other = some .directory) :
    after.text? path = before.text? path := by
  have content : after.content? path = before.content? path := by
    cases led : before.locate path with
    | ok other =>
        have still := grows.locate_ok led
        have different : other ≠ location := by
          rintro rfl
          exact undisturbed.apart other located still
        simp only [content?, led, still]
        rcases others other different with kept | ⟨empty, directory⟩
        · rw [kept]
        · simp only [empty, directory]
    | error fault =>
        -- Only a path that leads too far fails to read; any other one that leads nowhere
        -- reads as none, so there it does not matter where it fails afterwards.
        by_cases long : fault = .nameTooLong
        · subst long
          have still : after.locate path = before.locate path :=
            grows.locate_eq (by simp [led]) (by simp [led])
          simp only [content?, still, led]
        · have before_none : before.content? path = .ok none := by
            refine content?_eq_none_iff.mpr ⟨by simpa [led] using long, ?_⟩
            rintro ⟨other, content, found, _⟩
            cases led.symm.trans found
          have after_none : after.content? path = .ok none := by
            refine content?_eq_none_iff.mpr ⟨fun tooLong => ?_, fun file => ?_⟩
            · have tooLong' := undisturbed.reached tooLong
              rw [led] at tooLong'
              exact long (Except.error.inj tooLong')
            · obtain ⟨other, found⟩ := undisturbed.found file
              cases led.symm.trans found
          rw [before_none, after_none]
  rw [text?, text?, content]

/-! ## Doing it again -/

/-- A directory that was ensured is there. -/
theorem isDirectory_of_ensureDirectory (ensured : before.ensureDirectory path = .ok after) :
    after.isDirectory path = true := by
  unfold ensureDirectory at ensured
  split at ensured
  case h_1 made =>
    cases ensured
    unfold makeDirectory at made
    split at made
    case h_1 => cases made
    case h_2 location located =>
      split at made
      case h_1 => cases made
      case h_2 empty =>
        cases made
        have notDirectory : before.entry? location ≠ some .directory := by simp [empty]
        simp [isDirectory, locate_put notDirectory located, entry?_put_self notDirectory]
  case h_2 => cases ensured
  case h_3 =>
    split at ensured
    case isTrue there =>
      cases ensured
      exact there
    case isFalse => cases ensured

/-- So is one that was ensured with those on the way to it. -/
theorem isDirectory_of_ensureDirectories (ensured : before.ensureDirectories path = .ok after) :
    after.isDirectory path = true := by
  have whole (anchor : Anchor) (segments : List Text)
      (ensured : before.ensureReversed anchor segments = .ok after) :
      after.isDirectory ⟨anchor, segments.reverse⟩ = true := by
    cases segments with
    | nil => exact isDirectory_of_ensureDirectory ensured
    | cons segment others =>
        rw [ensureReversed] at ensured
        split at ensured
        case h_1 =>
          split at ensured
          case h_1 => exact isDirectory_of_ensureDirectory ensured
          case h_2 => cases ensured
        case h_2 => exact isDirectory_of_ensureDirectory ensured
  simpa using whole path.anchor path.segments.reverse ensured

/-- A directory that is there is ensured without effect. -/
theorem ensureDirectory_of_isDirectory {tree : Tree} (there : tree.isDirectory path = true) :
    tree.ensureDirectory path = .ok tree := by
  have refused : tree.makeDirectory path = .error .alreadyExists := by
    unfold isDirectory at there
    unfold makeDirectory
    cases located : tree.locate path with
    | error fault => simp [located] at there
    | ok location =>
        simp only [located, decide_eq_true_eq] at there
        simp only [there]
  simp only [ensureDirectory, refused, there, if_true]

/-- So are those on the way to it. -/
theorem ensureDirectories_of_isDirectory {tree : Tree} (there : tree.isDirectory path = true) :
    tree.ensureDirectories path = .ok tree := by
  have whole (anchor : Anchor) (segments : List Text)
      (there : tree.isDirectory ⟨anchor, segments.reverse⟩ = true) :
      tree.ensureReversed anchor segments = .ok tree := by
    cases segments with
    | nil => exact ensureDirectory_of_isDirectory there
    | cons segment others => simp only [ensureReversed, ensureDirectory_of_isDirectory there]
  exact whole path.anchor path.segments.reverse (by simpa using there)

/-- Writing a file takes no directory away. -/
theorem grows_of_write {content : ByteArray} (written : before.write path content = .ok after) :
    Grows before after := by
  unfold write at written
  split at written
  case h_1 => cases written
  case h_2 location located =>
    split at written
    case h_1 => cases written
    case h_2 notDirectory =>
      cases written
      exact .of_others rfl notDirectory fun _ different => entry?_put_of_ne different _

/-- A content is written over itself without effect. -/
theorem write_again {content : ByteArray} (written : before.write path content = .ok after) :
    ∃ again, after.write path content = .ok again ∧
      ∀ location, again.entry? location = after.entry? location := by
  obtain ⟨_, location, located, held, _⟩ := write_eq_ok written
  refine ⟨after.put location (.file content), ?_, fun other => ?_⟩
  · simp only [write, located, held]
  · by_cases same : other = location
    · subst same
      rw [entry?_put_self (by simp [held]), held]
    · exact entry?_put_of_ne same _

end ManifestAudit.Files.Tree
