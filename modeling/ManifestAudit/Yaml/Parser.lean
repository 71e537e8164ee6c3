import ManifestAudit.Yaml.Token.Stream
import ManifestAudit.Yaml.Value.OfDocument

/-!
# Reading YAML

From a text to the value of its only document. The text is taken in block by
block, and a block with an inadmissible character is refused as a whole. What is
wrong before that block is found first, so a code too large for any character is
still reported there.
-/

namespace ManifestAudit.Yaml

/-- The number of characters in the first block. -/
def firstBlock : Nat := 8192

/-- The number of characters in every later block. -/
def laterBlock : Nat := 4096

/-- The characters of the blocks before the first that holds an inadmissible one. -/
def admitted (chars : List Char) : List Char :=
  let sound := (chars.takeWhile isAdmissible).length
  if sound < firstBlock then []
  else chars.take (firstBlock + (sound - firstBlock) / laterBlock * laterBlock)

/-- The only document of a text of admissible characters, if there is any. -/
def document? (chars : List Char) : Except Fault (Option Document) :=
  Document.ofTokens (tokens chars)

/-- Read a text. A text without any document is null. -/
def parse (text : String) : Except Fault Value :=
  let chars := text.toList
  if chars.all isAdmissible then do
    match ← document? chars with
    | none => return Value.ofAtom .null
    | some document => document.value
  else
    match document? (admitted chars) with
    | .error (.codeTooLarge code) => .error (.codeTooLarge code)
    | _ => .error .malformed

end ManifestAudit.Yaml
