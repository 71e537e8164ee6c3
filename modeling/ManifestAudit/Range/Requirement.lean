import ManifestAudit.Json.Value
import ManifestAudit.Range.Parser
import ManifestAudit.Rule.Basic

/-!
# Requirements

A requirement is a range as a manifest declares it: any value at all. One that is
no text, or no range, admits nothing and lies above nothing; it leaves a note
where that is worth a line in the log.
-/

namespace ManifestAudit

/-- Why a text is not a version. -/
inductive Version.ParseError where
  | invalid (text : String)
  deriving Repr, DecidableEq

/-- The wording of a version error. -/
def Version.ParseError.message : Version.ParseError → String
  | .invalid text => "Invalid Version: " ++ text

/-- Read a version, or tell that a text is none. -/
def Version.parse (text : String) : Except Version.ParseError Version :=
  match Version.parse? text with
  | some version => .ok version
  | none => .error (.invalid text)

namespace Requirement

/-- What is noted about a requirement that cannot be used. -/
inductive Note where
  | notText (value : Json.Value)
  | notRange (text : Text) (error : Range.ParseError)

/-- The wording of a note. -/
def Note.message : Note → Text
  | notText value => Text.ofString ("Ignoring non-text version range " ++ value.display)
  | notRange text error =>
    Text.ofString ("Unparseable version range " ++ Text.quoted text ++ ": ") ++ error.message

/-- Whether a requirement admits a version. -/
def admits (requirement : Json.Value) (version : Version) : Noted Note Bool :=
  match requirement with
  | .string text =>
    match Range.parse text with
    | .ok range => .silent (range.admits version)
    | .error _ => .silent false
  | value => ⟨false, [.notText value]⟩

/-- Whether everything a requirement allows is above a version. -/
def isAbove (requirement : Json.Value) (version : Version) : Noted Note Bool :=
  match requirement with
  | .string text =>
    match Range.parse text with
    | .ok range => .silent (range.isAbove version)
    | .error error => ⟨false, [.notRange text error]⟩
  | value => ⟨false, [.notText value]⟩

/-- Whether a requirement admits the version that a text names; a text that names
none is not admitted. -/
def admitsText (requirement : Json.Value) (version : String) : Bool :=
  match Version.parse? version with
  | some version => (admits requirement version).value
  | none => false

/-- Whether alternatives lie wholly above the version that a text names. The text
is read only when there is a bound to compare it with. -/
def alternativesAbove (version : String) :
    List Alternative → Except Version.ParseError Bool
  | [] => .ok true
  | alternative :: alternatives =>
    match alternative.lowerBound? with
    | none => .ok false
    | some bound =>
      match Version.parse version with
      | .error error => .error error
      | .ok parsed =>
        if bound.isAbove parsed then alternativesAbove version alternatives else .ok false

/-- Whether everything a requirement allows is above the version that a text names. -/
def isAboveText (requirement : Json.Value) (version : String) :
    Except Version.ParseError Bool :=
  match requirement with
  | .string text =>
    match Range.parse text with
    | .ok range => alternativesAbove version range.alternatives
    | .error _ => .ok false
  | _ => .ok false

end Requirement

end ManifestAudit
