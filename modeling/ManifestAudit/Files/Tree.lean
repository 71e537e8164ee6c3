import ManifestAudit.Files.Name
import ManifestAudit.Files.Path
import ManifestAudit.Text.Lines

/-!
# File trees

The files that a run can see and change, as a value: which locations hold
files, which are directories, and which directory is the current one. Reading
and writing by path follow the rules of a file system, in which every segment
but the last must lead through a directory.
-/

namespace ManifestAudit.Files

/-- A place in the tree: the names that lead there from the root. -/
abbrev Location := List Name

/-- What a location holds. -/
inductive Entry where
  | file (content : ByteArray)
  | directory

/-- Entries are compared by kind, and files by their bytes. -/
instance : DecidableEq Entry
  | .file left, .file right =>
    if same : left.data = right.data then isTrue (congrArg Entry.file (ByteArray.ext same))
    else isFalse fun equal => same (congrArg ByteArray.data (Entry.file.inj equal))
  | .file _, .directory => isFalse Entry.noConfusion
  | .directory, .file _ => isFalse Entry.noConfusion
  | .directory, .directory => isTrue rfl

/-- Why a file operation fails. -/
inductive Fault where
  | missing
  | notDirectory
  | isDirectory
  | alreadyExists
  | nameTooLong
  | embeddedNul
  | unencodable
  | undecodable
  deriving Repr, DecidableEq

/-- The wording of a fault. -/
def Fault.message : Fault → String
  | missing => "no such file or directory"
  | notDirectory => "not a directory"
  | isDirectory => "is a directory"
  | alreadyExists => "file exists"
  | nameTooLong => "file name too long"
  | embeddedNul => "embedded null byte"
  | unencodable => "file name cannot be encoded"
  | undecodable => "file is not UTF-8"

/-- A file tree with a current directory. The root and the current directory
are directories whether or not they are listed. -/
structure Tree where
  current : Location
  entries : List (Location × Entry)

namespace Tree

/-- What a location holds, if anything. -/
def entry? (tree : Tree) (location : Location) : Option Entry :=
  if location.isPrefixOf tree.current then some .directory
  else (tree.entries.find? (·.1 == location)).map Prod.snd

/-- Put an entry at a location, in place of what it held. -/
def put (tree : Tree) (location : Location) (entry : Entry) : Tree :=
  { tree with entries := (location, entry) :: tree.entries.filter (·.1 != location) }

/-- The current directory as a path. -/
def currentPath (tree : Tree) : Path :=
  ⟨.root, tree.current.map Name.text⟩

/-- The greatest number of bytes in a name. -/
def nameLimit : Nat := 255

/-- The number of bytes that no path reaches. -/
def pathLimit : Nat := 4096

/-- The name that leads to the directory around a location. -/
def upward : Name := "..".toUTF8.data.toList

/-- Follow names from a location. What a name is looked up in must be a directory;
the location reached need not hold anything. -/
def walk (tree : Tree) (here : Location) : List Name → Except Fault Location
  | [] => .ok here
  | name :: names =>
    match tree.entry? here with
    | none => .error .missing
    | some (.file _) => .error .notDirectory
    | some .directory =>
      if name = upward then walk tree here.dropLast names
      else if nameLimit < name.length then .error .nameTooLong
      else walk tree (here ++ [name]) names

/-- The locations met on the way of names from a location, the last included,
whether or not they hold anything. -/
def along (here : Location) : List Name → List Location
  | [] => [here]
  | name :: names =>
    here :: if name = upward then along here.dropLast names else along (here ++ [name]) names

/-- Where the segments of a path are followed from. -/
def startOf (tree : Tree) (path : Path) : Location :=
  if path.isAbsolute then [] else tree.current

/-- The locations that decide what a path leads to. -/
def locationsOf (tree : Tree) (path : Path) : List Location :=
  match path.segments.mapM Name.ofText? with
  | some names => along (tree.startOf path) names
  | none => []

/-- The location that a path leads to. -/
def locate (tree : Tree) (path : Path) : Except Fault Location :=
  match Name.ofText? path.text, path.segments.mapM Name.ofText? with
  | some written, some names =>
    if written.contains 0 then .error .embeddedNul
    else if pathLimit ≤ written.length then .error .nameTooLong
    else tree.walk (tree.startOf path) names
  | _, _ => .error .unencodable

/-- The content of the regular file at a path. A path that leads to no regular
file reads as none. -/
def content? (tree : Tree) (path : Path) : Except Fault (Option ByteArray) :=
  match tree.locate path with
  | .error .nameTooLong => .error .nameTooLong
  | .error _ => .ok none
  | .ok location =>
    match tree.entry? location with
    | some (.file content) => .ok (some content)
    | _ => .ok none

/-- The text of the regular file at a path, its line ends unified. -/
def text? (tree : Tree) (path : Path) : Except Fault (Option String) :=
  match tree.content? path with
  | .error fault => .error fault
  | .ok none => .ok none
  | .ok (some content) =>
    match String.fromUTF8? content with
    | none => .error .undecodable
    | some text => .ok (some (String.ofList (Text.unifyNewlines text.toList)))

/-- Whether a path leads to a directory. -/
def isDirectory (tree : Tree) (path : Path) : Bool :=
  match tree.locate path with
  | .ok location => tree.entry? location = some .directory
  | .error _ => false

/-- Create one directory; nothing may be there yet. -/
def makeDirectory (tree : Tree) (path : Path) : Except Fault Tree :=
  match tree.locate path with
  | .error fault => .error fault
  | .ok location =>
    match tree.entry? location with
    | some _ => .error .alreadyExists
    | none => .ok (tree.put location .directory)

/-- Create one directory unless it is there already. -/
def ensureDirectory (tree : Tree) (path : Path) : Except Fault Tree :=
  match tree.makeDirectory path with
  | .ok tree => .ok tree
  | .error .missing => .error .missing
  | .error fault => if tree.isDirectory path then .ok tree else .error fault

/-- Create the directory that the reversed segments lead to, and the missing ones
on the way to it. -/
def ensureReversed (tree : Tree) (anchor : Anchor) : List Text → Except Fault Tree
  | [] => tree.ensureDirectory ⟨anchor, []⟩
  | segment :: before =>
    let path : Path := ⟨anchor, (segment :: before).reverse⟩
    match tree.ensureDirectory path with
    | .error .missing =>
      match ensureReversed tree anchor before with
      | .ok tree => tree.ensureDirectory path
      | .error fault => .error fault
    | done => done

/-- Create a directory and the missing ones on the way to it. -/
def ensureDirectories (tree : Tree) (path : Path) : Except Fault Tree :=
  ensureReversed tree path.anchor path.segments.reverse

/-- Put content into the file at a path, in place of what it held. -/
def write (tree : Tree) (path : Path) (content : ByteArray) : Except Fault Tree :=
  match tree.locate path with
  | .error fault => .error fault
  | .ok location =>
    match tree.entry? location with
    | some .directory => .error .isDirectory
    | _ => .ok (tree.put location (.file content))

/-- What a tree holds that another does not hold in the same place. -/
def changesFrom (after before : Tree) : List (Location × Entry) :=
  after.entries.filter fun (location, entry) => before.entry? location ≠ some entry

end Tree

end ManifestAudit.Files
