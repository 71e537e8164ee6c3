/-!
# Cursors

A place in a YAML text: what is left of it, and the position in characters,
lines and columns, which the layout rules ask for. The NUL character stands for
the end; a text that holds one is refused before it is scanned.
-/

namespace ManifestAudit.Yaml

/-- The character that stands for the end of a text. -/
def endMark : Char := '\x00'

/-- A character that ends a line. -/
def isBreak (c : Char) : Bool :=
  c == '\n' || c == '\r' || c == '\x85' || c == '\u2028' || c == '\u2029'

/-- The end of a line or of the text. -/
def isLineEnd (c : Char) : Bool :=
  c == endMark || isBreak c

/-- A space, or the end of a line or of the text. -/
def isSpaceOrEnd (c : Char) : Bool :=
  c == ' ' || isLineEnd c

/-- A space or tab, or the end of a line or of the text. -/
def isGapOrEnd (c : Char) : Bool :=
  c == '\t' || isSpaceOrEnd c

/-- A character that a text may hold. -/
def isAdmissible (c : Char) : Bool :=
  let code := c.toNat
  code == 0x09 || code == 0x0A || code == 0x0D || (0x20 ≤ code && code ≤ 0x7E) ||
    code == 0x85 || (0xA0 ≤ code && code ≤ 0xD7FF) || (0xE000 ≤ code && code ≤ 0xFFFD) ||
    0x10000 ≤ code

/-- A place in a text. Lines and columns count from zero. -/
structure Cursor where
  rest : List Char
  index : Nat
  line : Nat
  column : Nat
  deriving Repr

namespace Cursor

/-- The start of a text. -/
def start (text : List Char) : Cursor :=
  ⟨text, 0, 0, 0⟩

/-- The character at the cursor. -/
def peek (cursor : Cursor) : Char :=
  cursor.rest.headD endMark

/-- The character some places behind the cursor. -/
def peekAt (cursor : Cursor) (distance : Nat) : Char :=
  cursor.rest.getD distance endMark

/-- Move over one character. A carriage return before a line feed does not end
the line by itself, and a byte order mark takes no column. -/
def advance (cursor : Cursor) : Cursor :=
  match cursor.rest with
  | [] => cursor
  | c :: rest =>
    if isBreak c && !(c == '\r' && rest.headD endMark == '\n') then
      ⟨rest, cursor.index + 1, cursor.line + 1, 0⟩
    else if c == '\uFEFF' then ⟨rest, cursor.index + 1, cursor.line, cursor.column⟩
    else ⟨rest, cursor.index + 1, cursor.line, cursor.column + 1⟩

/-- Move over several characters. -/
def advanceBy (cursor : Cursor) : Nat → Cursor
  | 0 => cursor
  | count + 1 => advanceBy cursor.advance count

/-- Move over the characters of a class, and give them too. -/
def take (cursor : Cursor) (accepts : Char → Bool) : List Char × Cursor :=
  let taken := cursor.rest.takeWhile accepts
  (taken, cursor.advanceBy taken.length)

/-- Move over the characters of a class. -/
def skip (cursor : Cursor) (accepts : Char → Bool) : Cursor :=
  (cursor.take accepts).2

/-- Move over spaces. -/
def skipSpaces (cursor : Cursor) : Cursor :=
  cursor.skip (· == ' ')

/-- Move over spaces and a comment to the end of the line. -/
def skipComment (cursor : Cursor) : Cursor :=
  let cursor := cursor.skipSpaces
  if cursor.peek == '#' then cursor.skip (!isLineEnd ·) else cursor

/-- Move over a line break, if there is one, and give the character it counts
as: the separators of lines and paragraphs stand for themselves, all others for
a line feed. -/
def lineBreak? (cursor : Cursor) : Option (Char × Cursor) :=
  let c := cursor.peek
  if c == '\r' && cursor.peekAt 1 == '\n' then some ('\n', cursor.advanceBy 2)
  else if c == '\u2028' || c == '\u2029' then some (c, cursor.advance)
  else if isBreak c then some ('\n', cursor.advance)
  else none

/-- Move over a line break if there is one. -/
def skipBreak (cursor : Cursor) : Cursor :=
  match cursor.lineBreak? with
  | some (_, cursor) => cursor
  | none => cursor

/-- Whether three equal characters with a gap behind them stand here. -/
def marks (cursor : Cursor) (c : Char) : Bool :=
  cursor.peek == c && cursor.peekAt 1 == c && cursor.peekAt 2 == c &&
    isGapOrEnd (cursor.peekAt 3)

/-- Whether the start or the end of a document is marked here. -/
def atSeparator (cursor : Cursor) : Bool :=
  cursor.marks '-' || cursor.marks '.'

end Cursor

end ManifestAudit.Yaml
