import ManifestAudit.Yaml.Fault

/-!
# Tokens

What a YAML text is made of once its layout has been understood: indentation
appears as the starts and ends of block collections, and a simple key as a key
token in front of it.
-/

namespace ManifestAudit.Yaml

/-- A line that instructs the reader of the next document. -/
inductive Directive where
  | version (major minor : Nat)
  | handle (name expansion : String)
  | other
  deriving Repr, DecidableEq

/-- A token. A `broken` token stands where a text could not be scanned further. -/
inductive Token where
  | directive (directive : Directive)
  | documentStart
  | documentEnd
  | blockSequenceStart
  | blockMappingStart
  | blockEnd
  | flowSequenceStart
  | flowSequenceEnd
  | flowMappingStart
  | flowMappingEnd
  | blockEntry
  | flowEntry
  | key
  | value
  | alias (name : String)
  | anchor (name : String)
  | tag (handle : Option String) (suffix : String)
  | scalar (text : Text) (plain : Bool)
  | broken (fault : Fault)
  deriving Repr, DecidableEq

end ManifestAudit.Yaml
