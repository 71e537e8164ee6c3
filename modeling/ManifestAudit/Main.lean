import ManifestAudit.Program

/-!
# The executable

Shows `Program.run` the files that it uses and puts into effect what it answers.
Nothing is decided here.
-/

namespace ManifestAudit.Main

/-- A location as the file system is asked for it. -/
def pathText (location : Files.Location) : String :=
  (Files.Path.mk .root (location.map Files.Name.text)).text.legible

/-- What the file system holds at a location. -/
def observe (location : Files.Location) : IO (Option Files.Entry) := do
  let path := (← IO.currentDir) / pathText location
  match ← path.metadata.toBaseIO with
  | .error _ => return none
  | .ok found =>
    match found.type with
    | .dir => return some .directory
    | .file => return some (.file (← IO.FS.readBinFile path))
    | _ => return none

/-- Add to a tree what the file system holds on the way of a path. -/
def observeAlong (tree : Files.Tree) (path : Files.Path) : IO Files.Tree :=
  (tree.locationsOf path).foldlM (fun tree location => do
    match ← observe location with
    | some entry => return tree.put location entry
    | none => return tree) tree

/-- The part of the file system that a run uses. The settings file is observed
first, since it tells which files are used beside it. -/
def snapshot (arguments : List String) : IO Files.Tree := do
  let here := Files.Path.ofText (← IO.currentDir).toString
  let start : Files.Tree := ⟨here.segments.filterMap Files.Name.ofText?, []⟩
  let settled ← (Program.pathsUsed arguments start).foldlM observeAlong start
  (Program.pathsUsed arguments settled).foldlM observeAlong settled

/-- Bring one entry of a tree into the file system. -/
def store (location : Files.Location) (entry : Files.Entry) : IO Unit := do
  let path := pathText location
  match entry with
  | .directory => IO.FS.createDirAll path
  | .file content => IO.FS.writeBinFile path content

/-- Bring what changed into the file system, directories before files. -/
def storeChanges (before after : Files.Tree) : IO Unit := do
  let (directories, files) := (after.changesFrom before).partition (·.2 = .directory)
  (directories ++ files).forM fun (location, entry) => store location entry

end ManifestAudit.Main

open ManifestAudit in
/-- Check the project in the current directory as the arguments say. -/
def main (arguments : List String) : IO UInt32 := do
  let before ← Main.snapshot arguments
  let completion := Program.run arguments before
  IO.print completion.output.legible
  IO.eprint completion.errors.legible
  Main.storeChanges before completion.tree
  match completion.ending with
  | .exit status => return status.toUInt32
  | .fault fault =>
    IO.eprintln ("gfp-doctor: " ++ fault.message)
    return 1
