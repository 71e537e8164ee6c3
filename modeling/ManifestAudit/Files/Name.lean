import ManifestAudit.Text.Symbol

/-!
# File names

A file system knows names by their bytes, which are read as UTF-8. A byte that is
part of no character is read as a lone surrogate, `0xDC00` above the byte, and
that surrogate is written as the byte again. Other lone surrogates write nothing,
so a text that holds one names no file.
-/

namespace ManifestAudit.Files

/-- A name by its bytes. -/
abbrev Name := List UInt8

namespace Name

/-- The bytes that a symbol writes, if it writes any. -/
def ofSymbol? : Text.Symbol → Option Name
  | .char c => some (String.utf8EncodeChar c)
  | .surrogate offset =>
    if 0x480 ≤ offset.val ∧ offset.val < 0x500 then some [UInt8.ofNat (offset.val - 0x400)]
    else none

/-- The bytes that a text writes, if it writes any. -/
def ofText? (text : Text) : Option Name :=
  (text.mapM ofSymbol?).map List.flatten

/-- Read bytes from an index on, at most `fuel` symbols. -/
def textFrom (bytes : ByteArray) : Nat → Nat → Text
  | 0, _ => []
  | fuel + 1, index =>
    if within : index < bytes.size then
      match bytes.utf8DecodeChar? index with
      | some c => .char c :: textFrom bytes fuel (index + c.utf8Size)
      | none => Text.Symbol.ofCode (0xDC00 + bytes[index].toNat) :: textFrom bytes fuel (index + 1)
    else []

/-- The text that bytes are read as. -/
def text (name : Name) : Text :=
  textFrom name.toByteArray name.length 0

end Name

end ManifestAudit.Files
