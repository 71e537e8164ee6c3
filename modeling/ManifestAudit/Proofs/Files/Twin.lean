import ManifestAudit.Proofs.Files.Tree

/-!
# Trees that differ in one file

Two trees that are the same but for the content of one file lead every path to the same
place, and no operation tells them apart unless it reads that file. Creating directories
and writing a file fail on both for the same reason or succeed on both, and leave trees
that again differ in that file at most. `Twins` is the relation.
-/

namespace ManifestAudit.Files.Tree

/-- Two trees that are the same but for a file, and what the file holds in each. -/
structure Twins (location : Location) (firstContent secondContent : ByteArray)
    (first second : Tree) : Prop where
  current : second.current = first.current
  firstFile : first.entry? location = some (.file firstContent)
  secondFile : second.entry? location = some (.file secondContent)
  elsewhere : ∀ other, other ≠ location → second.entry? other = first.entry? other

/-- What an operation comes to on twins: twins again, or one fault. -/
inductive TwinResults (location : Location) (firstContent secondContent : ByteArray) :
    Except Fault Tree → Except Fault Tree → Prop where
  | ok {first second : Tree} (twins : Twins location firstContent secondContent first second) :
      TwinResults location firstContent secondContent (.ok first) (.ok second)
  | error (fault : Fault) :
      TwinResults location firstContent secondContent (.error fault) (.error fault)

namespace Twins

variable {location : Location} {firstContent secondContent : ByteArray} {first second : Tree}

/-- A walk through one is the same walk through the other. -/
theorem walk_eq (twins : Twins location firstContent secondContent first second)
    (here : Location) (names : List Name) : second.walk here names = first.walk here names := by
  induction names generalizing here with
  | nil => rfl
  | cons name names inductionHypothesis =>
      rw [walk, walk]
      by_cases same : here = location
      · subst same
        simp only [twins.firstFile, twins.secondFile]
      · simp only [twins.elsewhere here same, inductionHypothesis]

/-- A path leads to the same place in both. -/
theorem locate_eq (twins : Twins location firstContent secondContent first second)
    (path : Path) : second.locate path = first.locate path := by
  simp only [locate, startOf, twins.current, twins.walk_eq]

/-- A path leads to a directory in both or in neither. -/
theorem isDirectory_eq (twins : Twins location firstContent secondContent first second)
    (path : Path) : second.isDirectory path = first.isDirectory path := by
  unfold isDirectory
  rw [twins.locate_eq]
  cases first.locate path with
  | error fault => rfl
  | ok other =>
      by_cases same : other = location
      · subst same
        simp [twins.firstFile, twins.secondFile]
      · simp only [twins.elsewhere other same]

/-- A path that does not lead to the file reads the same in both. -/
theorem text?_eq (twins : Twins location firstContent secondContent first second) {path : Path}
    (apart : first.locate path ≠ .ok location) : second.text? path = first.text? path := by
  have content : second.content? path = first.content? path := by
    unfold content?
    rw [twins.locate_eq]
    cases located : first.locate path with
    | error fault => cases fault <;> rfl
    | ok other =>
        have different : other ≠ location := by
          rintro rfl
          exact apart located
        simp only [twins.elsewhere other different]
  rw [text?, text?, content]

/-- Two contents of a file make twins. -/
theorem of_put {tree : Tree} (notDirectory : tree.entry? location ≠ some .directory)
    (firstContent secondContent : ByteArray) :
    Twins location firstContent secondContent (tree.put location (.file firstContent))
      (tree.put location (.file secondContent)) where
  current := rfl
  firstFile := entry?_put_self notDirectory _
  secondFile := entry?_put_self notDirectory _
  elsewhere := by
    intro other different
    rw [entry?_put_of_ne different, entry?_put_of_ne different]

/-- Putting the same entry elsewhere, where no directory is, keeps twins. -/
theorem put (twins : Twins location firstContent secondContent first second) {other : Location}
    (different : other ≠ location) (notDirectory : first.entry? other ≠ some .directory)
    (entry : Entry) :
    Twins location firstContent secondContent (first.put other entry) (second.put other entry) where
  current := twins.current
  firstFile := by rw [entry?_put_of_ne different.symm, twins.firstFile]
  secondFile := by rw [entry?_put_of_ne different.symm, twins.secondFile]
  elsewhere := by
    intro third apart
    by_cases same : third = other
    · subst same
      have notDirectory' : second.entry? third ≠ some .directory := by
        rwa [twins.elsewhere third apart]
      rw [entry?_put_self notDirectory, entry?_put_self notDirectory']
    · rw [entry?_put_of_ne same, entry?_put_of_ne same, twins.elsewhere third apart]

/-- Putting one content into the file keeps twins, which then hold the same there. -/
theorem putFile (twins : Twins location firstContent secondContent first second)
    (content : ByteArray) :
    Twins location content content (first.put location (.file content))
      (second.put location (.file content)) where
  current := twins.current
  firstFile := entry?_put_self (by simp [twins.firstFile]) _
  secondFile := entry?_put_self (by simp [twins.secondFile]) _
  elsewhere := by
    intro other different
    rw [entry?_put_of_ne different, entry?_put_of_ne different, twins.elsewhere other different]

/-- Creating a directory comes to the same on twins. -/
theorem makeDirectory (twins : Twins location firstContent secondContent first second)
    (path : Path) :
    TwinResults location firstContent secondContent (first.makeDirectory path)
      (second.makeDirectory path) := by
  unfold Tree.makeDirectory
  rw [twins.locate_eq]
  cases first.locate path with
  | error fault => exact .error fault
  | ok other =>
      by_cases same : other = location
      · subst same
        simp only [twins.firstFile, twins.secondFile]
        exact .error _
      · simp only [twins.elsewhere other same]
        cases held : first.entry? other with
        | some entry => exact .error _
        | none => exact .ok (twins.put same (by simp [held]) _)

/-- So does creating one unless it is there. -/
theorem ensureDirectory (twins : Twins location firstContent secondContent first second)
    (path : Path) :
    TwinResults location firstContent secondContent (first.ensureDirectory path)
      (second.ensureDirectory path) := by
  unfold Tree.ensureDirectory
  generalize madeFirst : first.makeDirectory path = firstResult
  generalize madeSecond : second.makeDirectory path = secondResult
  have made := twins.makeDirectory path
  rw [madeFirst, madeSecond] at made
  cases made with
  | ok twins' => exact .ok twins'
  | error fault =>
      cases fault with
      | missing => exact .error _
      | _ =>
          simp only [twins.isDirectory_eq]
          split
          · exact .ok twins
          · exact .error _

/-- So does creating one with those on the way to it. -/
theorem ensureReversed (twins : Twins location firstContent secondContent first second)
    (anchor : Anchor) (segments : List Text) :
    TwinResults location firstContent secondContent (first.ensureReversed anchor segments)
      (second.ensureReversed anchor segments) := by
  induction segments with
  | nil => exact twins.ensureDirectory _
  | cons segment before inductionHypothesis =>
      rw [Tree.ensureReversed, Tree.ensureReversed]
      generalize ensuredFirst : first.ensureDirectory _ = firstResult
      generalize ensuredSecond : second.ensureDirectory _ = secondResult
      have ensured := twins.ensureDirectory ⟨anchor, (segment :: before).reverse⟩
      rw [ensuredFirst, ensuredSecond] at ensured
      cases ensured with
      | ok twins' => exact .ok twins'
      | error fault =>
          cases fault with
          | missing =>
              generalize aroundFirst : first.ensureReversed anchor before = firstAround
              generalize aroundSecond : second.ensureReversed anchor before = secondAround
              rw [aroundFirst, aroundSecond] at inductionHypothesis
              cases inductionHypothesis with
              | ok twins' => exact twins'.ensureDirectory _
              | error fault => exact .error fault
          | _ => exact .error _

/-- Writing a file comes to the same on twins. If it is the one in which they differ, they
differ no more. -/
theorem write (twins : Twins location firstContent secondContent first second) (path : Path)
    (content : ByteArray) :
    TwinResults location firstContent secondContent (first.write path content)
        (second.write path content) ∨
      TwinResults location content content (first.write path content)
        (second.write path content) := by
  unfold Tree.write
  rw [twins.locate_eq]
  cases first.locate path with
  | error fault => exact .inl (.error fault)
  | ok other =>
      by_cases same : other = location
      · subst same
        simp only [twins.firstFile, twins.secondFile]
        exact .inr (.ok (twins.putFile content))
      · simp only [twins.elsewhere other same]
        cases held : first.entry? other with
        | none => exact .inl (.ok (twins.put same (by simp [held]) _))
        | some entry =>
            cases entry with
            | file _ => exact .inl (.ok (twins.put same (by simp [held]) _))
            | directory => exact .inl (.error _)

end Twins

end ManifestAudit.Files.Tree
