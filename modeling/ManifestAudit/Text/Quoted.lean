import ManifestAudit.Text.Hex
import ManifestAudit.Text.Printable
import ManifestAudit.Text.Symbol

/-!
# Quoted texts

Messages show a text in quotes so that its ends and its odd characters can be
seen. Single quotes are preferred; double quotes serve when the text holds a
single quote and no double one.
-/

namespace ManifestAudit.Text

/-- The quote that a text is put in. -/
def quoteMark (text : Text) : Char :=
  if text.contains (.char '\'') && !text.contains (.char '"') then '"' else '\''

/-- Show a code: two, four or eight hexadecimal digits, the fewest that hold it. -/
def codeEscape (code : Nat) : List Char :=
  if code < 0x100 then '\\' :: 'x' :: hex 2 code
  else if code < 0x10000 then '\\' :: 'u' :: hex 4 code
  else '\\' :: 'U' :: hex 8 code

/-- Show one character of a quoted text. -/
def quotedChar (mark c : Char) : List Char :=
  if c = mark ∨ c = '\\' then ['\\', c]
  else if c = '\n' then ['\\', 'n']
  else if c = '\r' then ['\\', 'r']
  else if c = '\t' then ['\\', 't']
  else if isPrintable c then [c]
  else codeEscape c.toNat

/-- Show one symbol of a quoted text; a lone surrogate is shown by its code. -/
def quotedSymbol (mark : Char) (symbol : Symbol) : List Char :=
  match symbol with
  | .char c => quotedChar mark c
  | .surrogate _ => codeEscape symbol.code

/-- Show a text in quotes. -/
def quoted (text : Text) : String :=
  let mark := quoteMark text
  String.ofList (mark :: text.flatMap (quotedSymbol mark) ++ [mark])

end ManifestAudit.Text
