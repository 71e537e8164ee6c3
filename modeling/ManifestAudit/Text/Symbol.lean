/-!
# Texts

A text is a list of symbols. Nearly all of them are characters. An escape can
also write a surrogate, one of the two 16-bit units of a character outside the
first plane, without its partner. Such a unit is no character, yet the text is
compared, shown and written with it, so it is a symbol of its own.
-/

namespace ManifestAudit

/-- What a text is made of. -/
inductive Text.Symbol where
  | char (c : Char)
  /-- The surrogate with the code `0xD800 + offset`, standing alone. -/
  | surrogate (offset : Fin 0x800)
  deriving Repr, DecidableEq

/-- A list of symbols. -/
abbrev Text := List Text.Symbol

namespace Text

/-- A 16-bit unit that opens a surrogate pair. -/
def isHighSurrogate (code : Nat) : Bool :=
  0xD800 ≤ code && code < 0xDC00

/-- A 16-bit unit that closes a surrogate pair. -/
def isLowSurrogate (code : Nat) : Bool :=
  0xDC00 ≤ code && code < 0xE000

/-- The character of a surrogate pair. -/
def charOfPair (high low : Nat) : Char :=
  Char.ofNat (0x10000 + (high - 0xD800) * 0x400 + (low - 0xDC00))

/-- The surrogate pair of a code outside the first plane. -/
def surrogates (code : Nat) : Nat × Nat :=
  (0xD800 + (code - 0x10000) / 0x400, 0xDC00 + (code - 0x10000) % 0x400)

namespace Symbol

/-- The code of a symbol. -/
def code : Symbol → Nat
  | char c => c.toNat
  | surrogate offset => 0xD800 + offset

/-- The symbol with a code. -/
def ofCode (code : Nat) : Symbol :=
  if within : 0xD800 ≤ code ∧ code < 0xE000 then surrogate ⟨code - 0xD800, by omega⟩
  else char (Char.ofNat code)

/-- The character that a symbol is, if it is one. -/
def char? : Symbol → Option Char
  | char c => some c
  | surrogate _ => none

/-- Whether a symbol is a character of a class. -/
def is (accepts : Char → Bool) : Symbol → Bool
  | char c => accepts c
  | surrogate _ => false

end Symbol

/-- The text that characters make. -/
def ofChars (chars : List Char) : Text :=
  chars.map .char

/-- The text that a string makes. -/
def ofString (string : String) : Text :=
  ofChars string.toList

/-- A string may stand wherever a text is asked for. -/
instance : Coe String Text := ⟨ofString⟩

/-- The characters of a text, if it holds nothing else. -/
def toChars? (text : Text) : Option (List Char) :=
  text.mapM Symbol.char?

/-- Change the runs of characters between lone surrogates; `run` are the
characters of the first run that have been passed, the last first. -/
def mapRunsBehind (change : List Char → List Char) (run : List Char) : Text → Text
  | [] => ofChars (change run.reverse)
  | .char c :: rest => mapRunsBehind change (c :: run) rest
  | .surrogate offset :: rest =>
    ofChars (change run.reverse) ++ .surrogate offset :: mapRunsBehind change [] rest

/-- Change the runs of characters between lone surrogates, which stay where they are. -/
def mapRuns (change : List Char → List Char) (text : Text) : Text :=
  mapRunsBehind change [] text

/-- A text for a place that takes characters only: each lone surrogate becomes the
replacement character. -/
def legible (text : Text) : String :=
  String.ofList (text.map fun symbol => symbol.char?.getD '\uFFFD')

end Text

end ManifestAudit
