import ManifestAudit.Files.Tree

/-!
# What file operations leave alone

Creating directories puts directories where nothing was, and writing a file changes the
one location that its path leads to. `AddsDirectories` is the first of these facts as a
relation between trees, kept by every operation that creates directories;
`write_eq_ok` is the second. Reading changes nothing, and tells whether there is a file; a
file is read exactly when its bytes are UTF-8.
-/

namespace ManifestAudit.Files.Tree

variable {tree after : Tree} {location : Location} {path : Path}

/-- Putting an entry at one location leaves every other location as it was. -/
theorem entry?_put_of_ne {other : Location} (different : other ≠ location) (entry : Entry) :
    entry? (tree.put location entry) other = tree.entry? other := by
  have kept : ((tree.put location entry).entries.find? (·.1 == other)) =
      tree.entries.find? (·.1 == other) := by
    rw [put, List.find?_cons_of_neg (by simpa using different.symm), List.find?_filter]
    congr 1
    funext held
    by_cases same : held.1 = other <;> simp [same, different]
  simp only [ entry?, kept]
  rfl

/-- An ancestor of the current directory is a directory. -/
theorem isPrefixOf_current_eq_false (notDirectory : tree.entry? location ≠ some .directory) :
    location.isPrefixOf tree.current = false := by
  cases ancestor : location.isPrefixOf tree.current with
  | false => rfl
  | true => simp [ entry?, ancestor] at notDirectory

/-- What was not a directory holds what is put there. -/
theorem entry?_put_self (notDirectory : tree.entry? location ≠ some .directory) (entry : Entry) :
    entry? (tree.put location entry) location = some entry := by
  have notAncestor := isPrefixOf_current_eq_false notDirectory
  simp [ entry?, put, notAncestor]

/-- A tree holds all that another one holds, and besides only new directories. -/
structure AddsDirectories (before after : Tree) : Prop where
  current : after.current = before.current
  entries : ∀ location, after.entry? location = before.entry? location ∨
    before.entry? location = none ∧ after.entry? location = some .directory

namespace AddsDirectories

theorem refl (tree : Tree) : AddsDirectories tree tree :=
  ⟨rfl, fun _ => .inl rfl⟩

theorem trans {first middle last : Tree} (earlier : AddsDirectories first middle)
    (later : AddsDirectories middle last) : AddsDirectories first last where
  current := later.current.trans earlier.current
  entries := by
    intro location
    rcases later.entries location with kept | ⟨empty, created⟩
    · rw [kept]
      exact earlier.entries location
    · rcases earlier.entries location with kept | ⟨_, created'⟩
      · exact .inr ⟨kept ▸ empty, created⟩
      · rw [created'] at empty
        cases empty

end AddsDirectories

/-- Creating a directory adds directories. -/
theorem addsDirectories_of_makeDirectory (made : tree.makeDirectory path = .ok after) :
    AddsDirectories tree after := by
  unfold makeDirectory at made
  split at made
  case h_1 => cases made
  case h_2 location located =>
    split at made
    case h_1 => cases made
    case h_2 empty =>
      cases made
      have notDirectory : tree.entry? location ≠ some .directory := by simp [empty]
      refine ⟨rfl, fun other => ?_⟩
      by_cases same : other = location
      · subst other
        exact .inr ⟨empty, entry?_put_self notDirectory _⟩
      · exact .inl (entry?_put_of_ne same _)

/-- So does creating one unless it is there. -/
theorem addsDirectories_of_ensureDirectory (ensured : tree.ensureDirectory path = .ok after) :
    AddsDirectories tree after := by
  unfold ensureDirectory at ensured
  split at ensured
  case h_1 made =>
    cases ensured
    exact addsDirectories_of_makeDirectory made
  case h_2 => cases ensured
  case h_3 =>
    split at ensured
    case isTrue =>
      cases ensured
      exact .refl tree
    case isFalse => cases ensured

/-- So does creating one with those on the way to it. -/
theorem addsDirectories_of_ensureReversed {anchor : Anchor} {segments : List Text}
    (ensured : tree.ensureReversed anchor segments = .ok after) :
    AddsDirectories tree after := by
  induction segments generalizing after with
  | nil => exact addsDirectories_of_ensureDirectory ensured
  | cons segment before inductionHypothesis =>
      rw [ensureReversed] at ensured
      split at ensured
      case h_1 =>
        split at ensured
        case h_1 around ensuredAround =>
          exact (inductionHypothesis ensuredAround).trans
            (addsDirectories_of_ensureDirectory ensured)
        case h_2 => cases ensured
      case h_2 => exact addsDirectories_of_ensureDirectory ensured

/-- A walk through directories does not see what becomes of a location that is none. -/
theorem walk_put {here there : Location} {names : List Name} {entry : Entry}
    (notDirectory : tree.entry? location ≠ some .directory)
    (walked : tree.walk here names = .ok there) :
    (tree.put location entry).walk here names = .ok there := by
  induction names generalizing here with
  | nil => exact walked
  | cons name names inductionHypothesis =>
      rw [walk] at walked ⊢
      cases held : tree.entry? here with
      | none => simp [held] at walked
      | some inside =>
          cases inside with
          | file content => simp [held] at walked
          | directory =>
              have elsewhere : here ≠ location := by
                rintro rfl
                exact notDirectory held
              rw [ entry?_put_of_ne elsewhere, held]
              simp only [held] at walked ⊢
              by_cases upwards : name = upward
              · simp only [if_pos upwards] at walked ⊢
                exact inductionHypothesis walked
              · by_cases long : nameLimit < name.length
                · simp [if_neg upwards, if_pos long] at walked
                · simp only [if_neg upwards, if_neg long] at walked ⊢
                  exact inductionHypothesis walked

/-- Nor does a path that leads there. -/
theorem locate_put {there : Location} {entry : Entry}
    (notDirectory : tree.entry? location ≠ some .directory)
    (located : tree.locate path = .ok there) :
    (tree.put location entry).locate path = .ok there := by
  unfold locate at located ⊢
  cases wording : Name.ofText? path.text with
  | none => simp [wording] at located
  | some written =>
      cases segments : path.segments.mapM Name.ofText? with
      | none => simp [wording, segments] at located
      | some names =>
          simp only [wording, segments] at located ⊢
          by_cases nul : written.contains 0
          · simp only [if_pos nul] at located
            cases located
          · by_cases long : pathLimit ≤ written.length
            · simp only [if_neg nul, if_pos long] at located
              cases located
            · simp only [if_neg nul, if_neg long] at located ⊢
              exact walk_put notDirectory located

/-- Creating a directory with those on the way to it adds directories. -/
theorem addsDirectories_of_ensureDirectories
    (ensured : tree.ensureDirectories path = .ok after) : AddsDirectories tree after :=
  addsDirectories_of_ensureReversed ensured

/-- A written file is where its path leads to, and nothing else has changed. -/
theorem write_eq_ok {content : ByteArray} (written : tree.write path content = .ok after) :
    after.current = tree.current ∧ ∃ location, after.locate path = .ok location ∧
      after.entry? location = some (.file content) ∧
      ∀ other, other ≠ location → after.entry? other = tree.entry? other := by
  unfold write at written
  split at written
  case h_1 => cases written
  case h_2 location located =>
    split at written
    case h_1 => cases written
    case h_2 notDirectory =>
      cases written
      exact ⟨rfl, location, locate_put notDirectory located,
        entry?_put_self notDirectory _, fun _ different => entry?_put_of_ne different _⟩

/-- A regular file is at a path. -/
def HasFile (tree : Tree) (path : Path) : Prop :=
  ∃ location content, tree.locate path = .ok location ∧
    tree.entry? location = some (.file content)

/-- Where there is content, there is a regular file. -/
theorem hasFile_of_content?_eq_some {content : ByteArray}
    (held : tree.content? path = .ok (some content)) : tree.HasFile path := by
  unfold content? at held
  split at held
  case h_1 => cases held
  case h_2 => cases held
  case h_3 location located =>
    split at held
    case h_1 content file => exact ⟨location, content, located, file⟩
    case h_2 => cases held

/-- Where there is none, there is no regular file. -/
theorem not_hasFile_of_content?_eq_none (held : tree.content? path = .ok none) :
    ¬ tree.HasFile path := by
  rintro ⟨location, content, located, file⟩
  simp [content?, located, file] at held

/-- Where there is text, there is a regular file. -/
theorem hasFile_of_text?_eq_some {text : String} (held : tree.text? path = .ok (some text)) :
    tree.HasFile path := by
  unfold text? at held
  split at held
  case h_1 => cases held
  case h_2 => cases held
  case h_3 content file => exact hasFile_of_content?_eq_some file

/-- Where there is none, there is no regular file. -/
theorem not_hasFile_of_text?_eq_none (held : tree.text? path = .ok none) :
    ¬ tree.HasFile path := by
  unfold text? at held
  split at held
  case h_1 => cases held
  case h_2 empty => exact not_hasFile_of_content?_eq_none empty
  case h_3 => split at held <;> cases held

/-- A regular file with this content is at a path. -/
def FileAt (tree : Tree) (path : Path) (content : ByteArray) : Prop :=
  ∃ location, tree.locate path = .ok location ∧ tree.entry? location = some (.file content)

/-- The content of a file is found at its path. -/
theorem content?_eq_of_fileAt {content : ByteArray} (file : tree.FileAt path content) :
    tree.content? path = .ok (some content) := by
  obtain ⟨location, located, held⟩ := file
  simp only [content?, located, held]

/-- A file that is UTF-8 is read, its line ends unified. -/
theorem text?_eq_of_fileAt {content : ByteArray} (file : tree.FileAt path content)
    (valid : content.IsValidUTF8) :
    tree.text? path =
      .ok (some (String.ofList (Text.unifyNewlines (String.fromUTF8 content valid).toList))) := by
  simp only [text?, content?_eq_of_fileAt file, String.fromUTF8?, dif_pos valid]

/-- A file that is not UTF-8 cannot be read. -/
theorem text?_eq_undecodable_of_fileAt {content : ByteArray} (file : tree.FileAt path content)
    (invalid : ¬ content.IsValidUTF8) : tree.text? path = .error .undecodable := by
  simp only [text?, content?_eq_of_fileAt file, String.fromUTF8?, dif_neg invalid]

end ManifestAudit.Files.Tree
