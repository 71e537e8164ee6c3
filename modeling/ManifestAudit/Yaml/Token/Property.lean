import ManifestAudit.Text.Digit
import ManifestAudit.Text.Hex
import ManifestAudit.Yaml.Cursor
import ManifestAudit.Yaml.Token

/-!
# Scanning properties and directives

Anchors, aliases and tags, and the directive lines before a document. Each
function starts at the indicator and gives the token and the place behind it.
-/

namespace ManifestAudit.Yaml.Property

/-- A character of a name. -/
def isNameChar (c : Char) : Bool :=
  Text.isAsciiDigit c || Text.isAsciiLetter c || c == '-' || c == '_'

/-- A character of a tag's text. -/
def isUriChar (c : Char) : Bool :=
  Text.isAsciiDigit c || Text.isAsciiLetter c || "-;/?:@&=+$,_.!~*'()[]%".toList.contains c

/-- A nonempty name. -/
def name (cursor : Cursor) : Except Fault (String × Cursor) :=
  match cursor.take isNameChar with
  | ([], _) => .error .malformed
  | (chars, cursor) => .ok (String.ofList chars, cursor)

/-- The name of an anchor or alias, behind its indicator. -/
def anchorName (cursor : Cursor) : Except Fault (String × Cursor) := do
  let (name, cursor) ← name cursor
  let next := cursor.peek
  if isGapOrEnd next || "?:,]\x7d%@`".toList.contains next then return (name, cursor)
  else .error .malformed

/-- Percent escapes, as the bytes that they write. -/
def percentBytes : Nat → Cursor → Except Fault (List UInt8 × Cursor)
  | 0, cursor => .ok ([], cursor)
  | fuel + 1, cursor =>
    if cursor.peek == '%' then
      match Text.takeHex? 2 cursor.advance.rest with
      | none => .error .malformed
      | some (code, _) => do
        let (bytes, cursor) ← percentBytes fuel (cursor.advanceBy 3)
        return (UInt8.ofNat code :: bytes, cursor)
    else .ok ([], cursor)

/-- The characters of a tag's text from here on; escaped ones are UTF-8. -/
def uriChars : Nat → Cursor → Except Fault (List Char × Cursor)
  | 0, cursor => .ok ([], cursor)
  | fuel + 1, cursor =>
    if cursor.peek == '%' then do
      let (bytes, cursor) ← percentBytes (cursor.rest.length + 1) cursor
      match String.fromUTF8? (ByteArray.mk bytes.toArray) with
      | none => .error .malformed
      | some text =>
        let (more, cursor) ← uriChars fuel cursor
        return (text.toList ++ more, cursor)
    else if isUriChar cursor.peek then do
      let (more, cursor') ← uriChars fuel cursor.advance
      return (cursor.peek :: more, cursor')
    else .ok ([], cursor)

/-- The nonempty text of a tag. -/
def uri (cursor : Cursor) : Except Fault (String × Cursor) :=
  if isUriChar cursor.peek then do
    let (chars, cursor) ← uriChars (cursor.rest.length + 1) cursor
    return (String.ofList chars, cursor)
  else .error .malformed

/-- The handle of a tag: an exclamation mark, or a name between two. -/
def handle (cursor : Cursor) : Except Fault (String × Cursor) :=
  if cursor.peek != '!' then .error .malformed
  else if cursor.peekAt 1 == ' ' then .ok ("!", cursor.advance)
  else
    let (chars, cursor) := cursor.advance.take isNameChar
    if cursor.peek == '!' then .ok (String.ofList ('!' :: chars ++ ['!']), cursor.advance)
    else .error .malformed

/-- Whether a second exclamation mark stands in the word behind the first. -/
def hasHandle (cursor : Cursor) : Bool :=
  (cursor.advance.rest.takeWhile (!isSpaceOrEnd ·)).contains '!'

/-- A tag: in angle brackets, by a handle, or the exclamation mark alone. -/
def tag (cursor : Cursor) : Except Fault (Token × Cursor) := do
  let next := cursor.peekAt 1
  let (token, cursor) ←
    if next == '<' then do
      let (suffix, cursor) ← uri (cursor.advanceBy 2)
      if cursor.peek == '>' then pure (Token.tag none suffix, cursor.advance)
      else .error .malformed
    else if isGapOrEnd next then pure (Token.tag none "!", cursor.advance)
    else do
      let (handle, cursor) ← if hasHandle cursor then handle cursor else pure ("!", cursor.advance)
      let (suffix, cursor) ← uri cursor
      pure (Token.tag (some handle) suffix, cursor)
  if isSpaceOrEnd cursor.peek then return (token, cursor) else .error .malformed

/-- A nonempty run of digits. -/
def directiveNumber (cursor : Cursor) : Except Fault (Nat × Cursor) :=
  match cursor.take Text.isAsciiDigit with
  | ([], _) => .error .malformed
  | (digits, cursor) => .ok (Text.decimalNumber digits, cursor)

/-- The version that a version directive names. -/
def versionDirective (cursor : Cursor) : Except Fault (Directive × Cursor) := do
  let (major, cursor) ← directiveNumber cursor.skipSpaces
  if cursor.peek != '.' then .error .malformed
  else
    let (minor, cursor) ← directiveNumber cursor.advance
    if isSpaceOrEnd cursor.peek then return (.version major minor, cursor) else .error .malformed

/-- The handle that a tag directive explains, and its explanation. -/
def handleDirective (cursor : Cursor) : Except Fault (Directive × Cursor) := do
  let (handle, cursor) ← handle cursor.skipSpaces
  if cursor.peek != ' ' then .error .malformed
  else
    let (expansion, cursor) ← uri cursor.skipSpaces
    if isSpaceOrEnd cursor.peek then return (.handle handle expansion, cursor)
    else .error .malformed

/-- A directive with the rest of its line. -/
def directive (cursor : Cursor) : Except Fault (Token × Cursor) := do
  let (name, cursor) ← name cursor.advance
  if !isSpaceOrEnd cursor.peek then .error .malformed
  else
    let (directive, cursor) ← match name with
      | "YAML" => versionDirective cursor
      | "TAG" => handleDirective cursor
      | _ => pure (.other, cursor.skip (!isLineEnd ·))
    let cursor := cursor.skipComment
    if isLineEnd cursor.peek then return (.directive directive, cursor.skipBreak)
    else .error .malformed

end ManifestAudit.Yaml.Property
