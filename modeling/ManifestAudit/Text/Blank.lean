import ManifestAudit.Text.Pieces
import ManifestAudit.Text.Symbol

/-!
# Blank characters

The one notion of blank space that trimming, splitting and range grammar share.
It is wider than ASCII: the control separators, the no-break spaces and the
ideographic space are blank, while the zero-width space is not.
-/

namespace ManifestAudit.Text

/-- A blank character: a control separator or one of the Unicode spaces. -/
def isBlank (c : Char) : Bool :=
  let code := c.toNat
  (0x09 ≤ code && code ≤ 0x0D) || (0x1C ≤ code && code ≤ 0x20) ||
    code == 0x85 || code == 0xA0 || code == 0x1680 ||
    (0x2000 ≤ code && code ≤ 0x200A) || code == 0x2028 || code == 0x2029 ||
    code == 0x202F || code == 0x205F || code == 0x3000

/-- Drop the blanks at both ends. -/
def trim (text : Text) : Text :=
  dropEnds (·.is isBlank) text

/-- Cut a text at every maximal run of blanks. A run at either end leaves an
empty piece there, and a text without blanks is its own only piece. -/
def splitBlank : Text → List Text
  | [] => [[]]
  | [symbol] => if symbol.is isBlank then [[], []] else [[symbol]]
  | symbol :: next :: rest =>
    if symbol.is isBlank then
      if next.is isBlank then splitBlank (next :: rest) else [] :: splitBlank (next :: rest)
    else consFirst symbol (splitBlank (next :: rest))

/-- Write several pieces with a single space between neighbours. -/
def joinSpace : List Text → Text
  | [] => []
  | [piece] => piece
  | piece :: pieces => piece ++ .char ' ' :: joinSpace pieces

end ManifestAudit.Text
