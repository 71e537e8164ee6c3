import ManifestAudit.Settings

/-!
# Command line arguments

The options of the program and how they are read. An option may be given by any
beginning of its long name that no other option shares, with its value attached
behind an equals sign or as the next argument, and short flags may be run
together. All arguments are told apart before the first takes effect; what is no
option, and no value of one, is reported at the end.
-/

namespace ManifestAudit.CommandLine

/-- An option. -/
inductive Switch where
  | help
  | packagePath
  | format
  | output
  | failOnMissing
  | verbose
  | version
  deriving Repr, DecidableEq

namespace Switch

/-- The names of all options, in the order in which they are tried. -/
def names : List (String × Switch) :=
  [("-h", help), ("--help", help), ("--package-path", packagePath), ("--format", format),
    ("--out", output), ("--output", output), ("--fail-on-missing", failOnMissing),
    ("-v", verbose), ("--verbose", verbose), ("--version", version)]

/-- The option with exactly a name. -/
def ofName? (name : String) : Option Switch :=
  names.lookup name

/-- Whether an option takes a value. -/
def takesValue : Switch → Bool
  | packagePath | format | output => true
  | help | failOnMissing | verbose | version => false

/-- All names of an option, as errors cite them. -/
def citation (switch : Switch) : String :=
  "/".intercalate ((names.filter (·.2 == switch)).map Prod.fst)

end Switch

/-- What the arguments ask for. -/
structure Arguments where
  manifestPath : Option String
  format : Option ReportFormat
  output : Option String
  failOnMissing : Bool
  verbose : Bool
  deriving Repr, DecidableEq

/-- Arguments that ask for nothing. -/
def Arguments.none : Arguments :=
  ⟨Option.none, Option.none, Option.none, false, false⟩

/-- Why arguments are refused. -/
inductive UsageError where
  | ambiguous (argument : String) (candidates : List String)
  | missingValue (switch : Switch)
  | ignoredValue (switch : Switch) (value : String)
  | invalidFormat (value : String)
  | unrecognized (arguments : List String)
  deriving Repr, DecidableEq

/-- The wording of a refusal. -/
def UsageError.message : UsageError → String
  | ambiguous argument candidates =>
    "ambiguous option: " ++ argument ++ " could match " ++ ", ".intercalate candidates
  | missingValue switch => "argument " ++ switch.citation ++ ": expected one argument"
  | ignoredValue switch value =>
    "argument " ++ switch.citation ++ ": ignored explicit argument " ++ Text.quoted value
  | invalidFormat value =>
    "argument " ++ Switch.format.citation ++ ": invalid choice: " ++ Text.quoted value ++
      " (choose from " ++
      ", ".intercalate (ReportFormat.all.map fun format => Text.quoted format.name) ++ ")"
  | unrecognized arguments => "unrecognized arguments: " ++ " ".intercalate arguments

/-- An argument by its looks. -/
inductive Argument where
  /-- No option; it can be the value of one. -/
  | plain (text : String)
  /-- An option under one of its names, perhaps with a value attached. -/
  | option (switch : Switch) (name : String) (attached : Option String)
  /-- Like an option, but none of the program's, or the separator of arguments. -/
  | stray (text : String)
  deriving Repr, DecidableEq

/-- Cut a text at its first equals sign. -/
def splitEquals (text : String) : String × Option String :=
  let chars := text.toList
  match chars.dropWhile (· != '=') with
  | [] => (text, none)
  | _ :: value => (String.ofList (chars.takeWhile (· != '=')), some (String.ofList value))

/-- Whether a text is a minus sign with a number: digits, with a point before the
last of them perhaps. A line feed at its end does not count. -/
def isNegativeNumber (text : String) : Bool :=
  let chars := text.toList
  let chars := if chars.getLast? = some '\n' then chars.dropLast else chars
  match chars with
  | '-' :: digits =>
    match digits.dropWhile Text.isDecimal with
    | [] => !digits.isEmpty
    | '.' :: fraction => !fraction.isEmpty && fraction.all Text.isDecimal
    | _ => false
  | _ => false

/-- The options that an argument may mean: those whose long name it begins, or
the short flag that it starts with. -/
def candidates (text : String) : List (Switch × String × Option String) :=
  match text.toList with
  | '-' :: '-' :: _ =>
    let (name, attached) := splitEquals text
    (Switch.names.filter fun entry => name.toList.isPrefixOf entry.1.toList).map fun entry =>
      (entry.2, entry.1, attached)
  | '-' :: flag :: attached =>
    (Switch.names.filter fun entry => entry.1.toList == ['-', flag]).map fun entry =>
      (entry.2, entry.1, some (String.ofList attached))
  | _ => []

/-- An argument that looks like an option and is none. Negative numbers and what
holds a space do not look like one after all. -/
def leftover (text : String) : Argument :=
  if isNegativeNumber text || text.toList.contains ' ' then .plain text else .stray text

/-- Tell what an argument is by its looks. -/
def classify (text : String) : Except UsageError Argument :=
  match text.toList with
  | '-' :: _ :: _ =>
    match Switch.ofName? text with
    | some switch => .ok (.option switch text none)
    | none =>
      let (name, attached) := splitEquals text
      match attached, Switch.ofName? name with
      | some value, some switch => .ok (.option switch name (some value))
      | _, _ =>
        match candidates text with
        | [] => .ok (leftover text)
        | [(switch, name, attached)] => .ok (.option switch name attached)
        | several => .error (.ambiguous text (several.map (·.2.1)))
  | _ => .ok (.plain text)

/-- Tell what each argument is. Behind the separator `--` there are no options. -/
def classifyAll : List String → Except UsageError (List Argument)
  | [] => .ok []
  | text :: texts =>
    if text = "--" then .ok (.stray text :: texts.map .plain)
    else
      match classify text with
      | .error error => .error error
      | .ok argument => (classifyAll texts).map (argument :: ·)

/-- Whether a name is that of a short flag. -/
def isShort (name : String) : Bool :=
  match name.toList with
  | ['-', flag] => flag != '-'
  | _ => false

/-- The flags that are run together: one that is given and those in the text
attached to it. -/
def cluster (switch : Switch) : List Char → Except UsageError (List Switch)
  | [] => .ok [switch]
  | attached@(flag :: rest) =>
    match Switch.ofName? (String.ofList ['-', flag]) with
    | none => .error (.ignoredValue switch (String.ofList attached))
    | some next => (cluster next rest).map (switch :: ·)

/-- The flags that one argument gives. A long name, and a flag with an equals
sign and nothing behind it, cannot have anything attached. -/
def flags (switch : Switch) (name : String) (attached : Option String) :
    Except UsageError (List Switch) :=
  match attached with
  | none => .ok [switch]
  | some text =>
    if isShort name && !text.isEmpty then cluster switch text.toList
    else .error (.ignoredValue switch text)

/-- What becomes of a command line. -/
inductive Request where
  | run (arguments : Arguments)
  | help
  | version
  | refused (error : UsageError)
  deriving Repr, DecidableEq

/-- How far a command line has been read: the arguments so far, or an end before
its time. -/
abbrev Progress := Except Request Arguments

/-- Set a flag. Asking for help or for the version ends everything. -/
def setFlag (arguments : Arguments) : Switch → Progress
  | .help => .error .help
  | .version => .error .version
  | .failOnMissing => .ok { arguments with failOnMissing := true }
  | .verbose => .ok { arguments with verbose := true }
  | .packagePath | .format | .output => .ok arguments

/-- Set the value of an option. The separator `--` as an attached value takes back
what was set. -/
def setValue (arguments : Arguments) (switch : Switch) (value : String) : Progress :=
  let given := if value = "--" then none else some value
  match switch with
  | .packagePath => .ok { arguments with manifestPath := given }
  | .output => .ok { arguments with output := given }
  | .format =>
    match given with
    | none => .ok { arguments with format := none }
    | some name =>
      match ReportFormat.ofName? name with
      | some format => .ok { arguments with format := some format }
      | none => .error (.refused (.invalidFormat name))
  | .help | .version | .failOnMissing | .verbose => .ok arguments

/-- Set the flags of one argument. -/
def setFlags (arguments : Arguments) (switch : Switch) (name : String)
    (attached : Option String) : Progress :=
  match flags switch name attached with
  | .error error => .error (.refused error)
  | .ok switches => switches.foldlM setFlag arguments

/-- Read classified arguments from left to right; `unrecognized` are those that
had no use so far. -/
def readFrom (arguments : Arguments) (unrecognized : List String) : List Argument → Request
  | [] => if unrecognized.isEmpty then .run arguments else .refused (.unrecognized unrecognized)
  | .plain text :: rest => readFrom arguments (unrecognized ++ [text]) rest
  | .stray text :: rest => readFrom arguments (unrecognized ++ [text]) rest
  | .option switch name attached :: rest =>
    if switch.takesValue then
      match attached, rest with
      | some value, rest =>
        match setValue arguments switch value with
        | .error request => request
        | .ok arguments => readFrom arguments unrecognized rest
      | none, .plain value :: rest =>
        match setValue arguments switch value with
        | .error request => request
        | .ok arguments => readFrom arguments unrecognized rest
      | none, _ => .refused (.missingValue switch)
    else
      match setFlags arguments switch name attached with
      | .error request => request
      | .ok arguments => readFrom arguments unrecognized rest

/-- Read a command line. -/
def read (arguments : List String) : Request :=
  match classifyAll arguments with
  | .error error => .refused error
  | .ok classified => readFrom Arguments.none [] classified

end ManifestAudit.CommandLine
