import ManifestAudit.Text.Hex
import ManifestAudit.Yaml.Cursor
import ManifestAudit.Yaml.Fault

/-!
# Scanning scalars

The four ways to write a scalar: in quotes of either kind, plainly, or as an
indented block. All of them may run over several lines, whose breaks are folded
by rules of their own. Loops are bounded by the characters left.
-/

namespace ManifestAudit.Yaml.Scalar

/-- Scanned characters and the place behind them. -/
abbrev Scanned := List Char × Cursor

/-- A scanned text, which may hold what an escape writes, and the place behind it. -/
abbrev ScannedText := Text × Cursor

/-! ## Quoted scalars -/

/-- The character of an escape of a single letter. -/
def escaped? : Char → Option Char
  | '0' => some '\x00'
  | 'a' => some '\x07'
  | 'b' => some '\x08'
  | 't' => some '\x09'
  | '\t' => some '\x09'
  | 'n' => some '\x0A'
  | 'v' => some '\x0B'
  | 'f' => some '\x0C'
  | 'r' => some '\x0D'
  | 'e' => some '\x1B'
  | ' ' => some ' '
  | '"' => some '"'
  | '\\' => some '\\'
  | '/' => some '/'
  | 'N' => some '\x85'
  | '_' => some '\xA0'
  | 'L' => some '\u2028'
  | 'P' => some '\u2029'
  | _ => none

/-- How many hexadecimal digits follow the letter of a code escape. -/
def codeWidth? : Char → Option Nat
  | 'x' => some 2
  | 'u' => some 4
  | 'U' => some 8
  | _ => none

/-- The symbol of a code escape. Each escape writes one symbol, so that a pair of
surrogates written one after the other stays a pair. -/
def codeEscape (code : Nat) : Except Fault Text.Symbol :=
  if 0x110000 ≤ code then .error (.codeTooLarge code) else .ok (Text.Symbol.ofCode code)

/-- The breaks of the empty lines in a quoted scalar, up to the start of the next
text. A document separator may not stand within quotes. -/
def quotedBreaks : Nat → Cursor → Except Fault Scanned
  | 0, _ => .error .malformed
  | fuel + 1, cursor =>
    if cursor.atSeparator then .error .malformed
    else
      let cursor := cursor.skip fun c => c == ' ' || c == '\t'
      match cursor.lineBreak? with
      | none => .ok ([], cursor)
      | some (c, cursor) => do
        let (breaks, cursor) ← quotedBreaks fuel cursor
        return (c :: breaks, cursor)

/-- The blanks between two words of a quoted scalar. A single line break is a
space; of several, the first is dropped. -/
def quotedGap (fuel : Nat) (cursor : Cursor) : Except Fault Scanned := do
  let (blanks, cursor) := cursor.take fun c => c == ' ' || c == '\t'
  if cursor.peek == endMark then .error .malformed
  else
    match cursor.lineBreak? with
    | none => return (blanks, cursor)
    | some (c, cursor) =>
      let (breaks, cursor) ← quotedBreaks fuel cursor
      if c ≠ '\n' then return (c :: breaks, cursor)
      else if breaks.isEmpty then return ([' '], cursor)
      else return (breaks, cursor)

/-- An escape in double quotes, from the character behind the backslash on. A
line break is dropped with the indentation of the next line. -/
def quotedEscape (fuel : Nat) (cursor : Cursor) : Except Fault ScannedText :=
  let letter := cursor.peek
  match escaped? letter, codeWidth? letter with
  | some c, _ => .ok ([.char c], cursor.advance)
  | none, some width =>
    match Text.takeHex? width cursor.advance.rest with
    | none => .error .malformed
    | some (code, _) => do
      let symbol ← codeEscape code
      return ([symbol], cursor.advanceBy (width + 1))
  | none, none =>
    match cursor.lineBreak? with
    | none => .error .malformed
    | some (_, cursor) => do
      let (breaks, cursor) ← quotedBreaks fuel cursor
      return (Text.ofChars breaks, cursor)

/-- The word of a quoted scalar that starts here, up to a blank or the closing quote. -/
def quotedWord (double : Bool) : Nat → Cursor → Except Fault ScannedText
  | 0, _ => .error .malformed
  | fuel + 1, cursor => do
    let (run, cursor) := cursor.take fun c =>
      !(c == '\'' || c == '"' || c == '\\' || isGapOrEnd c)
    let run := Text.ofChars run
    let c := cursor.peek
    if !double && c == '\'' && cursor.peekAt 1 == '\'' then
      let (more, cursor) ← quotedWord double fuel (cursor.advanceBy 2)
      return (run ++ .char '\'' :: more, cursor)
    else if (double && c == '\'') || (!double && (c == '"' || c == '\\')) then
      let (more, cursor) ← quotedWord double fuel cursor.advance
      return (run ++ .char c :: more, cursor)
    else if double && c == '\\' then
      let (text, cursor) ← quotedEscape fuel cursor.advance
      let (more, cursor) ← quotedWord double fuel cursor
      return (run ++ text ++ more, cursor)
    else return (run, cursor)

/-- The words of a quoted scalar up to its closing quote. -/
def quotedWords (double : Bool) (quote : Char) : Nat → Cursor → Except Fault ScannedText
  | 0, _ => .error .malformed
  | fuel + 1, cursor =>
    if cursor.peek == quote then .ok ([], cursor.advance)
    else do
      let (gap, cursor) ← quotedGap fuel cursor
      let (word, cursor) ← quotedWord double fuel cursor
      let (more, cursor) ← quotedWords double quote fuel cursor
      return (Text.ofChars gap ++ word ++ more, cursor)

/-- A quoted scalar, from its opening quote on. -/
def quoted (cursor : Cursor) : Except Fault ScannedText := do
  let quote := cursor.peek
  let double := quote == '"'
  let fuel := cursor.rest.length + 1
  let (word, cursor) ← quotedWord double fuel cursor.advance
  let (more, cursor) ← quotedWords double quote fuel cursor
  return (word ++ more, cursor)

/-! ## Plain scalars -/

/-- The word of a plain scalar at the start of a text. A colon ends it before a
gap; in a flow collection the brackets, commas and question marks end it too. -/
def plainWord (flow : Bool) : List Char → List Char
  | [] => []
  | c :: rest =>
    let next := rest.headD endMark
    let afterColon := isGapOrEnd next || flow && ",[]\x7b\x7d".toList.contains next
    if isGapOrEnd c || (c == ':' && afterColon) || (flow && ",?[]\x7b\x7d".toList.contains c) then []
    else c :: plainWord flow rest

/-- The breaks of the empty lines in a plain scalar up to the next text, and
none at all if a document separator comes first. -/
def plainBreaks : Nat → Cursor → Option (List Char) × Cursor
  | 0, cursor => (some [], cursor)
  | fuel + 1, cursor =>
    let cursor := cursor.skipSpaces
    match cursor.lineBreak? with
    | none => (some [], cursor)
    | some (c, cursor) =>
      if cursor.atSeparator then (none, cursor)
      else
        let (breaks, cursor) := plainBreaks fuel cursor
        (breaks.map (c :: ·), cursor)

/-- What lies between two words of a plain scalar. -/
structure PlainGap where
  /-- The text that joins the words, empty if no further word can follow. -/
  text : List Char
  /-- Whether the gap runs over the end of a line. -/
  crossed : Bool
  cursor : Cursor

/-- The gap behind a word of a plain scalar. Line breaks are folded as in quotes. -/
def plainGap (cursor : Cursor) : PlainGap :=
  let (spaces, cursor) := cursor.take (· == ' ')
  match cursor.lineBreak? with
  | none => ⟨spaces, false, cursor⟩
  | some (c, cursor) =>
    if cursor.atSeparator then ⟨[], true, cursor⟩
    else
      match plainBreaks (cursor.rest.length + 1) cursor with
      | (none, cursor) => ⟨[], true, cursor⟩
      | (some breaks, cursor) =>
        if c ≠ '\n' then ⟨c :: breaks, true, cursor⟩
        else if breaks.isEmpty then ⟨[' '], true, cursor⟩
        else ⟨breaks, true, cursor⟩

/-- The words of a plain scalar that follow a gap, up to one that is indented
less than `indent`. The flag in the answer tells whether the scan ended behind the
end of a line. -/
def plainWords (flow : Bool) (indent : Int) : Nat → PlainGap → List Char × Bool × Cursor
  | 0, gap => ([], gap.crossed, gap.cursor)
  | fuel + 1, gap =>
    let word := if gap.cursor.peek == '#' then [] else plainWord flow gap.cursor.rest
    if word.isEmpty then ([], gap.crossed, gap.cursor)
    else
      let next := plainGap (gap.cursor.advanceBy word.length)
      if next.text.isEmpty || next.cursor.peek == '#' ||
          (!flow && decide ((next.cursor.column : Int) < indent)) then
        (gap.text ++ word, next.crossed, next.cursor)
      else
        let (more, crossed, cursor) := plainWords flow indent fuel next
        (gap.text ++ word ++ more, crossed, cursor)

/-- A plain scalar. The flag tells whether the scan ended behind the end of a line. -/
def plain (flow : Bool) (indent : Int) (cursor : Cursor) : List Char × Bool × Cursor :=
  plainWords flow indent (cursor.rest.length + 1) ⟨[], false, cursor⟩

/-! ## Block scalars -/

/-- What becomes of the line breaks at the end of a block scalar. -/
inductive Chomping where
  | strip
  | clip
  | keep
  deriving DecidableEq

/-- The chomping that a character asks for. -/
def Chomping.ofChar? : Char → Option Chomping
  | '+' => some .keep
  | '-' => some .strip
  | _ => none

/-- The header of a block scalar: chomping and indentation in either order. -/
structure Header where
  chomping : Chomping
  increment : Option Nat

/-- A digit from one to nine at the cursor. Zero is refused. -/
def increment (cursor : Cursor) : Except Fault (Option Nat × Cursor) :=
  let c := cursor.peek
  if c == '0' then .error .malformed
  else if '1' ≤ c ∧ c ≤ '9' then .ok (some (c.toNat - '0'.toNat), cursor.advance)
  else .ok (none, cursor)

/-- Scan the header of a block scalar. -/
def header (cursor : Cursor) : Except Fault (Header × Cursor) := do
  let (header, cursor) ← match Chomping.ofChar? cursor.peek with
    | some chomping => do
      let (increment, cursor) ← increment cursor.advance
      pure ((⟨chomping, increment⟩ : Header), cursor)
    | none => do
      let (increment, cursor) ← increment cursor
      match increment, Chomping.ofChar? cursor.peek with
      | some _, some chomping => pure ((⟨chomping, increment⟩ : Header), cursor.advance)
      | _, _ => pure ((⟨.clip, increment⟩ : Header), cursor)
  if isSpaceOrEnd cursor.peek then
    let cursor := cursor.skipComment
    if isLineEnd cursor.peek then return (header, cursor.skipBreak) else .error .malformed
  else .error .malformed

/-- Leading empty lines of a block scalar: their breaks, and the greatest column
that their spaces reach. -/
def blockIndentation : Nat → Nat → Cursor → List Char × Nat × Cursor
  | 0, widest, cursor => ([], widest, cursor)
  | fuel + 1, widest, cursor =>
    let cursor := cursor.skipSpaces
    let widest := max widest cursor.column
    match cursor.lineBreak? with
    | none => ([], widest, cursor)
    | some (c, cursor) =>
      let (breaks, widest, cursor) := blockIndentation fuel widest cursor
      (c :: breaks, widest, cursor)

/-- Move over at most as many spaces as lead up to a column. -/
def skipIndentation : Nat → Nat → Cursor → Cursor
  | 0, _, cursor => cursor
  | fuel + 1, indent, cursor =>
    if cursor.column < indent ∧ cursor.peek = ' ' then skipIndentation fuel indent cursor.advance
    else cursor

/-- The breaks of empty lines in a block scalar. -/
def blockBreaks (indent : Nat) : Nat → Cursor → Scanned
  | 0, cursor => ([], cursor)
  | fuel + 1, cursor =>
    let cursor := skipIndentation indent indent cursor
    match cursor.lineBreak? with
    | none => ([], cursor)
    | some (c, cursor) =>
      let (breaks, cursor) := blockBreaks indent fuel cursor
      (c :: breaks, cursor)

/-- The lines of a block scalar, behind the breaks of the empty lines before
them. The answer ends with the break of the last line and the breaks of the empty
lines behind it, which are left to chomping. -/
def blockLines (folded : Bool) (indent : Nat) :
    Nat → List Char → Cursor → List Char × List Char × List Char × Cursor
  | 0, breaks, cursor => ([], [], breaks, cursor)
  | fuel + 1, breaks, cursor =>
    if cursor.column = indent ∧ cursor.peek ≠ endMark then
      let isText (c : Char) : Bool := !(c == ' ' || c == '\t')
      let startsText := isText cursor.peek
      let (line, cursor) := cursor.take (!isLineEnd ·)
      let (lineBreak, cursor) := match cursor.lineBreak? with
        | some (c, cursor) => ([c], cursor)
        | none => ([], cursor)
      let (following, cursor) := blockBreaks indent fuel cursor
      if cursor.column = indent ∧ cursor.peek ≠ endMark then
        let joint :=
          if folded && lineBreak == ['\n'] && startsText && isText cursor.peek then
            if following.isEmpty then [' '] else []
          else lineBreak
        let (more, lastBreak, tail, cursor) := blockLines folded indent fuel following cursor
        (breaks ++ line ++ joint ++ more, lastBreak, tail, cursor)
      else (breaks ++ line, lineBreak, following, cursor)
    else ([], [], breaks, cursor)

/-- A block scalar, from its indicator on, in a collection indented by `parent`. -/
def block (folded : Bool) (parent : Int) (cursor : Cursor) : Except Fault Scanned := do
  let (header, cursor) ← header cursor.advance
  let fuel := cursor.rest.length + 1
  let least := max (parent + 1) 1
  let (breaks, indent, cursor) := match header.increment with
    | none =>
      let (breaks, widest, cursor) := blockIndentation fuel 0 cursor
      (breaks, max least.toNat widest, cursor)
    | some increment =>
      let indent := (least + increment - 1).toNat
      let (breaks, cursor) := blockBreaks indent fuel cursor
      (breaks, indent, cursor)
  let (text, lastBreak, tail, cursor) := blockLines folded indent fuel breaks cursor
  match header.chomping with
  | .strip => return (text, cursor)
  | .clip => return (text ++ lastBreak, cursor)
  | .keep => return (text ++ lastBreak ++ tail, cursor)

end ManifestAudit.Yaml.Scalar
