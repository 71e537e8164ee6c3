import ManifestAudit.Text.Symbol

/-!
# Log

What a run reports beside its result. Debug entries are for troubleshooting and
shown on request only.
-/

namespace ManifestAudit.Log

/-- How grave an entry is. -/
inductive Level where
  | debug
  | warning
  | error
  deriving Repr, DecidableEq

/-- The name of a level in the log. -/
def Level.text : Level → String
  | debug => "DEBUG"
  | warning => "WARNING"
  | error => "ERROR"

/-- One entry of the log. -/
structure Entry where
  level : Level
  message : Text
  deriving Repr, DecidableEq

namespace Entry

/-- A debug entry. -/
def debug (message : Text) : Entry :=
  ⟨.debug, message⟩

/-- A warning. -/
def warning (message : Text) : Entry :=
  ⟨.warning, message⟩

/-- An error entry. -/
def error (message : Text) : Entry :=
  ⟨.error, message⟩

/-- Whether the entry is shown. -/
def isShown (verbose : Bool) (entry : Entry) : Bool :=
  verbose || entry.level ≠ .debug

/-- The line that shows the entry. -/
def line (entry : Entry) : Text :=
  Text.ofString ("[gfp-doctor] " ++ entry.level.text ++ " ") ++ entry.message

end Entry

/-- The shown entries, each on a line of its own. -/
def text (verbose : Bool) (entries : List Entry) : Text :=
  (entries.filter (Entry.isShown verbose)).flatMap fun entry => entry.line ++ [.char '\n']

/-- The name of the channel that a part of the program logs to. -/
def channel (part : Option String) : String :=
  match part with
  | none | some "" => "gfp_doctor"
  | some part => "gfp_doctor." ++ part

end ManifestAudit.Log
