import ManifestAudit.Files.Path
import ManifestAudit.Outcome

/-!
# Rules and rule sets

A rule says what is checked and how to mend it. Its check answers with a verdict
and may leave notes for the log; the type of the notes is a parameter, so that a
set of rules says itself what it notes. A rule set holds its rules in order and
no identifier twice, which `RuleSet.ofRules` sees to.
-/

namespace ManifestAudit

/-- A value together with the notes left on the way to it. -/
structure Noted (Note α : Type) where
  value : α
  notes : List Note

namespace Noted

variable {Note α β : Type}

/-- A value that left no notes. -/
def silent (value : α) : Noted Note α :=
  ⟨value, []⟩

/-- Change the value and keep the notes. -/
def map (change : α → β) (noted : Noted Note α) : Noted Note β :=
  ⟨change noted.value, noted.notes⟩

end Noted

/-- What a check may know beside the document. -/
structure Options where
  manifestPath : Option Text
  root : Files.Path
  extra : Json.Members

/-- Options with nothing set, seen from the current directory. -/
def Options.default : Options :=
  ⟨none, Files.Path.ofText "", []⟩

/-- A rule: what is checked, how to mend it, and the check itself. -/
structure Rule (Note : Type) where
  id : String
  description : String
  advice : String
  check : Json.Value → Options → Noted Note Verdict

/-- The outcome of a rule for a document. -/
def Rule.outcome {Note : Type} (rule : Rule Note) (document : Json.Value) (options : Options) :
    Outcome :=
  Outcome.ofVerdict (rule.check document options).value

/-- The first text that has occurred before in a list, where `seen` occurred before it. -/
def firstRepeated? (seen : List String) : List String → Option String
  | [] => none
  | id :: ids => if seen.contains id then some id else firstRepeated? (id :: seen) ids

/-- Rules for one kind of manifest, in order. -/
structure RuleSet (Note : Type) where
  name : String
  rules : List (Rule Note)
  defaultPath : String
  distinct : firstRepeated? [] (rules.map Rule.id) = none

/-- Why rules make no rule set. -/
inductive RuleSet.Error where
  /-- An identifier occurs again in the set of the given name. -/
  | duplicate (id name : String)
  deriving Repr, DecidableEq

/-- The wording of a rule set error. -/
def RuleSet.Error.message : RuleSet.Error → String
  | .duplicate id name => "Duplicate rule id " ++ Text.quoted id ++ " in " ++ name

/-- Make a rule set. Without a path of its own the manifest is looked for under
the name of the set. -/
def RuleSet.ofRules {Note : Type} (name : String) (rules : List (Rule Note))
    (defaultPath : String) : Except RuleSet.Error (RuleSet Note) :=
  match distinct : firstRepeated? [] (rules.map Rule.id) with
  | some id => .error (.duplicate id name)
  | none => .ok ⟨name, rules, if defaultPath.isEmpty then name else defaultPath, distinct⟩

end ManifestAudit
