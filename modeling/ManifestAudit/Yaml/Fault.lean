import ManifestAudit.Text.Quoted

/-!
# Faults of YAML texts

Most texts that cannot be used are malformed. A few are well formed and still
have no value: a scalar whose tag or shape promises a number or a date that it
does not spell.
-/

namespace ManifestAudit.Yaml

/-- Why a date or a time does not exist. -/
inductive MomentFault where
  | year (year : Nat)
  | month
  | day
  | hour
  | minute
  | second
  /-- An offset from universal time, in seconds, of a day or more. -/
  | offset (seconds : Int)
  deriving Repr, DecidableEq

/-- Why a text has no value. -/
inductive Fault where
  | malformed
  | codeTooLarge (code : Nat)
  | notInteger (base : Nat) (text : Text)
  | notNumber (text : Text)
  | emptyNumber
  | numberTooLarge
  | notBoolean (text : Text)
  | notTimestamp (text : Text)
  /-- A mapping stands where the text of a date or a time is read. -/
  | timestampOfMapping
  | noMoment (fault : MomentFault)
  deriving Repr, DecidableEq

/-- Show a span of time by its whole days and the seconds beyond them. -/
def spanText (seconds : Int) : String :=
  let days := Int.fdiv seconds 86400
  let rest := Int.fmod seconds 86400
  let parts := (if days = 0 then [] else ["days=" ++ toString days]) ++
    (if rest = 0 then [] else ["seconds=" ++ toString rest])
  "datetime.timedelta(" ++ (if parts.isEmpty then "0" else ", ".intercalate parts) ++ ")"

/-- The wording for a date or a time that does not exist. -/
def MomentFault.message : MomentFault → String
  | year number => "year " ++ toString number ++ " is out of range"
  | month => "month must be in 1..12"
  | day => "day is out of range for month"
  | hour => "hour must be in 0..23"
  | minute => "minute must be in 0..59"
  | second => "second must be in 0..59"
  | offset span =>
    "offset must be a timedelta strictly between -timedelta(hours=24) and " ++
      "timedelta(hours=24), not " ++ spanText span ++ "."

/-- How much of a text that is no integer is shown, its quote included. -/
def shownWidth : Nat := 200

/-- The wording of a fault. -/
def Fault.message : Fault → String
  | malformed => "malformed document"
  | codeTooLarge _ => "chr() arg not in range(0x110000)"
  | notInteger base text =>
    "invalid literal for int() with base " ++ toString base ++ ": " ++
      String.ofList ((Text.quoted text).toList.take shownWidth)
  | notNumber text => "could not convert string to float: " ++ Text.quoted text
  | emptyNumber => "a number without digits"
  | numberTooLarge => "a number too large for a float"
  | notBoolean text => "no truth value: " ++ Text.quoted text
  | notTimestamp text => "no timestamp: " ++ Text.quoted text
  | timestampOfMapping => "no timestamp: a mapping"
  | noMoment fault => fault.message

end ManifestAudit.Yaml
