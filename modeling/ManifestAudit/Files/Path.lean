import ManifestAudit.Text.Pieces
import ManifestAudit.Text.Symbol

/-!
# Paths

A path is a list of segments, from the current directory or from the root. Empty
and `.` segments vanish when a path is read; `..` stays, since what it leads to
depends on the files.
-/

namespace ManifestAudit.Files

/-- Where a path starts. Exactly two leading slashes are told apart from one. -/
inductive Anchor where
  | current
  | root
  | doubleRoot
  deriving Repr, DecidableEq

/-- The leading slashes of a path. -/
def Anchor.text : Anchor → String
  | current => ""
  | root => "/"
  | doubleRoot => "//"

/-- The anchor that a number of leading slashes stands for. -/
def Anchor.ofSlashes : Nat → Anchor
  | 0 => current
  | 2 => doubleRoot
  | _ => root

/-- A path. -/
structure Path where
  anchor : Anchor
  segments : List Text
  deriving Repr, DecidableEq

namespace Path

/-- The symbol between the segments of a path. -/
def slash : Text.Symbol := .char '/'

/-- Read a path. -/
def ofText (text : Text) : Path :=
  { anchor := Anchor.ofSlashes (text.takeWhile (· == slash)).length
    segments := (Text.split slash text).filter fun piece => piece ≠ [] ∧ piece ≠ [.char '.'] }

/-- Write a path. The empty relative path is the current directory. -/
def text (path : Path) : Text :=
  if path.anchor = .current ∧ path.segments = [] then [.char '.']
  else Text.ofString path.anchor.text ++ List.intercalate [slash] path.segments

/-- Whether a path starts at the root. -/
def isAbsolute (path : Path) : Bool :=
  path.anchor ≠ .current

/-- A path seen from another; an absolute path stands for itself. -/
def join (base path : Path) : Path :=
  if path.isAbsolute then path else ⟨base.anchor, base.segments ++ path.segments⟩

/-- A path without its last segment. -/
def parent (path : Path) : Path :=
  ⟨path.anchor, path.segments.dropLast⟩

end Path

end ManifestAudit.Files
