import ManifestAudit.Yaml.Token.Property
import ManifestAudit.Yaml.Token.Scalar

/-!
# The tokens of a text

Tokens are scanned one after another, while indentation and the places of
possible simple keys are kept track of. That a scalar or collection was a key is
known only at the colon behind it; the key token, and the start of the mapping
if it begins there, are then put in front of it.
-/

namespace ManifestAudit.Yaml

/-- Something that may turn out to be a simple key. -/
structure KeyCandidate where
  /-- The number of flow collections around it. -/
  level : Nat
  /-- The number of tokens in front of it. -/
  token : Nat
  /-- Whether its indentation leaves it no choice. -/
  required : Bool
  index : Nat
  line : Nat
  column : Nat
  deriving Repr

/-- The state of a scan. -/
structure Scan where
  cursor : Cursor
  /-- The tokens so far, the last first. -/
  tokens : List Token
  /-- The number of tokens so far. -/
  count : Nat
  flowLevel : Nat
  indent : Int
  outerIndents : List Int
  keyAllowed : Bool
  candidates : List KeyCandidate

namespace Scan

/-- The state at the start of a text. -/
def start (text : List Char) : Scan :=
  ⟨Cursor.start text, [], 0, 0, -1, [], true, []⟩

/-- Whether the scan is within a flow collection. -/
def inFlow (scan : Scan) : Bool :=
  scan.flowLevel != 0

/-- Add a token. -/
def emit (scan : Scan) (token : Token) : Scan :=
  { scan with tokens := token :: scan.tokens, count := scan.count + 1 }

/-- Add a token and move over the characters that write it. -/
def emitOver (scan : Scan) (token : Token) (width : Nat) : Scan :=
  { scan.emit token with cursor := scan.cursor.advanceBy width }

/-- Put a token behind the first `before` tokens. -/
def insert (scan : Scan) (before : Nat) (token : Token) : Scan :=
  let behind := scan.count - before
  { scan with
    tokens := scan.tokens.take behind ++ token :: scan.tokens.drop behind
    count := scan.count + 1 }

/-- Move over spaces, comments and empty lines. A new line outside flow
collections allows a simple key. -/
def skipGapFrom : Nat → Scan → Scan
  | 0, scan => scan
  | fuel + 1, scan =>
    let cursor := scan.cursor.skipComment
    match cursor.lineBreak? with
    | none => { scan with cursor := cursor }
    | some (_, cursor) =>
      skipGapFrom fuel
        { scan with cursor := cursor, keyAllowed := scan.keyAllowed || !scan.inFlow }

/-- Move to the next token. A byte order mark may stand at the very start. -/
def skipGap (scan : Scan) : Scan :=
  let cursor := scan.cursor
  let cursor := if cursor.index = 0 ∧ cursor.peek = '\uFEFF' then cursor.advance else cursor
  skipGapFrom (cursor.rest.length + 1) { scan with cursor := cursor }

/-- Whether a candidate is out of reach: a simple key stands on one line and is
not long. -/
def isStale (scan : Scan) (candidate : KeyCandidate) : Bool :=
  candidate.line != scan.cursor.line || 1024 < scan.cursor.index - candidate.index

/-- Forget candidates that are out of reach. -/
def dropStale (scan : Scan) : Except Fault Scan :=
  if scan.candidates.any fun candidate => scan.isStale candidate && candidate.required then
    .error .malformed
  else .ok { scan with candidates := scan.candidates.filter (!scan.isStale ·) }

/-- Forget the candidate of the present level. -/
def dropCandidate (scan : Scan) : Except Fault Scan :=
  if scan.candidates.any fun candidate =>
      candidate.level == scan.flowLevel && candidate.required then
    .error .malformed
  else .ok { scan with candidates := scan.candidates.filter (·.level != scan.flowLevel) }

/-- Note that what starts here may be a simple key. -/
def noteCandidate (scan : Scan) : Except Fault Scan :=
  if scan.keyAllowed then do
    let scan ← scan.dropCandidate
    let cursor := scan.cursor
    let candidate : KeyCandidate :=
      { level := scan.flowLevel
        token := scan.count
        required := !scan.inFlow && scan.indent == cursor.column
        index := cursor.index
        line := cursor.line
        column := cursor.column }
    return { scan with candidates := candidate :: scan.candidates }
  else return scan

/-- End the block collections that are indented deeper than a column. -/
def closeBlocks (column : Int) : List Int → Scan → Scan
  | [], scan => scan
  | outer :: outers, scan =>
    if column < scan.indent then
      closeBlocks column outers { scan.emit .blockEnd with indent := outer, outerIndents := outers }
    else scan

/-- End the block collections that are indented deeper than a column; flow
collections are not subject to indentation. -/
def unwind (scan : Scan) (column : Int) : Scan :=
  if scan.inFlow then scan else closeBlocks column scan.outerIndents scan

/-- Start a block collection at a column unless one is indented that far; the
start is put behind the first `before` tokens. -/
def openBlock (scan : Scan) (column before : Nat) (token : Token) : Scan :=
  if scan.indent < column then
    { scan.insert before token with
      indent := column
      outerIndents := scan.indent :: scan.outerIndents }
  else scan

/-- Before a new document or a directive: end all blocks and allow no key. -/
def reset (scan : Scan) : Except Fault Scan := do
  let scan ← (scan.unwind (-1)).dropCandidate
  return { scan with keyAllowed := false }

/-- A directive line. -/
def directive (scan : Scan) : Except Fault Scan := do
  let scan ← scan.reset
  let (token, cursor) ← Property.directive scan.cursor
  return { scan.emit token with cursor := cursor }

/-- The mark of a document's start or end. -/
def separator (scan : Scan) (token : Token) : Except Fault Scan := do
  let scan ← scan.reset
  return scan.emitOver token 3

/-- The start of a flow collection. -/
def openFlow (scan : Scan) (token : Token) : Except Fault Scan := do
  let scan ← scan.noteCandidate
  return { scan.emitOver token 1 with flowLevel := scan.flowLevel + 1, keyAllowed := true }

/-- The end of a flow collection. -/
def closeFlow (scan : Scan) (token : Token) : Except Fault Scan := do
  let scan ← scan.dropCandidate
  return { scan.emitOver token 1 with flowLevel := scan.flowLevel - 1, keyAllowed := false }

/-- A comma in a flow collection. -/
def flowEntry (scan : Scan) : Except Fault Scan := do
  let scan ← { scan with keyAllowed := true }.dropCandidate
  return scan.emitOver .flowEntry 1

/-- The dash of a block sequence. -/
def blockEntry (scan : Scan) : Except Fault Scan :=
  if !scan.inFlow && !scan.keyAllowed then .error .malformed
  else do
    let scan := if scan.inFlow then scan
      else scan.openBlock scan.cursor.column scan.count .blockSequenceStart
    let scan ← { scan with keyAllowed := true }.dropCandidate
    return scan.emitOver .blockEntry 1

/-- The question mark of an explicit key. -/
def explicitKey (scan : Scan) : Except Fault Scan :=
  if !scan.inFlow && !scan.keyAllowed then .error .malformed
  else do
    let scan := if scan.inFlow then scan
      else scan.openBlock scan.cursor.column scan.count .blockMappingStart
    let scan ← { scan with keyAllowed := !scan.inFlow }.dropCandidate
    return scan.emitOver .key 1

/-- The colon before a value. A candidate of this level is the value's key. -/
def value (scan : Scan) : Except Fault Scan :=
  match scan.candidates.find? (·.level == scan.flowLevel) with
  | some candidate =>
    let scan := scan.insert candidate.token .key
    let scan := if scan.inFlow then scan
      else scan.openBlock candidate.column candidate.token .blockMappingStart
    let scan := { scan with
      keyAllowed := false
      candidates := scan.candidates.filter (·.level != scan.flowLevel) }
    .ok (scan.emitOver .value 1)
  | none =>
    if !scan.inFlow && !scan.keyAllowed then .error .malformed
    else do
      let scan := if scan.inFlow then scan
        else scan.openBlock scan.cursor.column scan.count .blockMappingStart
      let scan ← { scan with keyAllowed := !scan.inFlow }.dropCandidate
      return scan.emitOver .value 1

/-- An anchor, an alias or a tag, which may start a simple key. -/
def property (scan : Scan) (read : Cursor → Except Fault (Token × Cursor)) :
    Except Fault Scan := do
  let scan ← scan.noteCandidate
  let (token, cursor) ← read scan.cursor
  return { scan.emit token with cursor := cursor, keyAllowed := false }

/-- An anchor or alias; `token` makes the token of its name. -/
def anchor (scan : Scan) (token : String → Token) : Except Fault Scan :=
  scan.property fun cursor => do
    let (name, cursor) ← Property.anchorName cursor.advance
    return (token name, cursor)

/-- A scalar in quotes. -/
def quotedScalar (scan : Scan) : Except Fault Scan :=
  scan.property fun cursor => do
    let (text, cursor) ← Scalar.quoted cursor
    return (.scalar text false, cursor)

/-- A block scalar. -/
def blockScalar (scan : Scan) (folded : Bool) : Except Fault Scan := do
  let scan ← { scan with keyAllowed := true }.dropCandidate
  let (text, cursor) ← Scalar.block folded scan.indent scan.cursor
  return { scan.emit (.scalar (Text.ofChars text) false) with cursor := cursor }

/-- A plain scalar. If it ends behind the end of a line, a key may follow. -/
def plainScalar (scan : Scan) : Except Fault Scan := do
  let scan ← scan.noteCandidate
  let (text, crossed, cursor) := Scalar.plain scan.inFlow (scan.indent + 1) scan.cursor
  return { scan.emit (.scalar (Text.ofChars text) true) with
    cursor := cursor
    keyAllowed := crossed }

/-- The characters that have a meaning of their own at the start of a token. -/
def indicators : List Char :=
  "-?:,[]\x7b\x7d#&*!|>'\"%@`".toList

/-- Whether a plain scalar may start here. -/
def startsPlain (scan : Scan) : Bool :=
  let c := scan.cursor.peek
  !(isGapOrEnd c || indicators.contains c) ||
    (!isGapOrEnd (scan.cursor.peekAt 1) && (c == '-' || (!scan.inFlow && (c == '?' || c == ':'))))

/-- Scan the token that starts at the cursor, which is not at the end. -/
def token (scan : Scan) : Except Fault Scan :=
  let cursor := scan.cursor
  let c := cursor.peek
  let atMargin := cursor.column == 0
  let gapFollows := isGapOrEnd (cursor.peekAt 1)
  if c == '%' && atMargin then scan.directive
  else if atMargin && cursor.marks '-' then scan.separator .documentStart
  else if atMargin && cursor.marks '.' then scan.separator .documentEnd
  else if c == '[' then scan.openFlow .flowSequenceStart
  else if c == '\x7b' then scan.openFlow .flowMappingStart
  else if c == ']' then scan.closeFlow .flowSequenceEnd
  else if c == '\x7d' then scan.closeFlow .flowMappingEnd
  else if c == ',' then scan.flowEntry
  else if c == '-' && gapFollows then scan.blockEntry
  else if c == '?' && (scan.inFlow || gapFollows) then scan.explicitKey
  else if c == ':' && (scan.inFlow || gapFollows) then scan.value
  else if c == '*' then scan.anchor .alias
  else if c == '&' then scan.anchor .anchor
  else if c == '!' then scan.property Property.tag
  else if c == '|' && !scan.inFlow then scan.blockScalar false
  else if c == '>' && !scan.inFlow then scan.blockScalar true
  else if c == '\'' || c == '"' then scan.quotedScalar
  else if scan.startsPlain then scan.plainScalar
  else .error .malformed

/-- One step of a scan: to the next token and over it. At the end of the text
all blocks are ended, and the answer is marked as complete. -/
def step (scan : Scan) : Except Fault (Scan × Bool) := do
  let scan ← scan.skipGap.dropStale
  if scan.cursor.peek == endMark then
    let scan ← (scan.unwind (-1)).dropCandidate
    return (scan, true)
  else
    let scan ← (scan.unwind scan.cursor.column).token
    return (scan, false)

/-- The tokens that were certain when a scan failed: those before the first that
could still have become a simple key. -/
def certain (scan : Scan) : List Token :=
  let candidates := scan.candidates.filter (!scan.isStale ·)
  let certain := candidates.foldl (fun count candidate => min count candidate.token) scan.count
  (scan.tokens.drop (scan.count - certain)).reverse

/-- Scan to the end, or to the first fault, which is then the last token. -/
def finish : Nat → Scan → List Token
  | 0, scan => scan.certain ++ [.broken .malformed]
  | fuel + 1, scan =>
    match scan.step with
    | .error fault => scan.certain ++ [.broken fault]
    | .ok (scan, true) => scan.tokens.reverse
    | .ok (scan, false) => finish fuel scan

end Scan

/-- The tokens of a text of admissible characters. -/
def tokens (text : List Char) : List Token :=
  Scan.finish (text.length + 1) (Scan.start text)

end ManifestAudit.Yaml
