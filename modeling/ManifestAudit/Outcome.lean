import ManifestAudit.Json.Value

/-!
# Outcomes

A rule passes, fails or does not apply. A check answers with a verdict, which is
an outcome or any other value; `Outcome.ofVerdict` reads it. Only the value
`true` passes and only the null value is taken as having no opinion, so that a
careless check fails rather than passes.
-/

namespace ManifestAudit

/-- The result of one rule. -/
inductive Outcome where
  | passed
  | failed
  | notApplicable
  deriving Repr, DecidableEq

/-- What a check answers. -/
inductive Verdict where
  | outcome (outcome : Outcome)
  | value (value : Json.Value)

namespace Outcome

/-- The name of an outcome in records. -/
def text : Outcome → String
  | passed => "passed"
  | failed => "failed"
  | notApplicable => "not-applicable"

/-- The short mark of an outcome in tables. -/
def label : Outcome → String
  | passed => "PASS"
  | failed => "FAIL"
  | notApplicable => "N/A"

/-- Whether the outcome counts against the manifest. -/
def isFailure : Outcome → Bool
  | failed => true
  | passed | notApplicable => false

/-- The outcome with a given name. -/
def ofText? (text : String) : Option Outcome :=
  [passed, failed, notApplicable].find? (·.text == text)

/-- Read a verdict. -/
def ofVerdict : Verdict → Outcome
  | .outcome outcome => outcome
  | .value (.boolean true) => passed
  | .value .null => notApplicable
  | .value _ => failed

end Outcome

end ManifestAudit
