import ManifestAudit.Text.Symbol
import Mathlib.Data.List.Chain

/-!
# Symbols and their units

A symbol is known by its code, and a character outside the first plane by the pair of 16-bit
units that write it. A surrogate that stands by itself is written as one such unit, so a text can
be told from its units unless two surrogates in it make a pair, `IsUnpaired`.
-/

namespace ManifestAudit.Text

/-! ## Codes -/

/-- The codes of characters leave out the surrogates. -/
theorem toNat_lt_or_ge (c : Char) : c.toNat < 0xD800 ∨ 0xE000 ≤ c.toNat := by
  have valid := c.valid
  simp only [UInt32.isValidChar, Nat.isValidChar] at valid
  change c.val.toNat < 0xD800 ∨ 0xE000 ≤ c.val.toNat
  omega

/-- They end with the last plane. -/
theorem toNat_lt (c : Char) : c.toNat < 0x110000 := by
  have valid := c.valid
  simp only [UInt32.isValidChar, Nat.isValidChar] at valid
  change c.val.toNat < 0x110000
  omega

theorem isHighSurrogate_iff {code : Nat} :
    isHighSurrogate code = true ↔ 0xD800 ≤ code ∧ code < 0xDC00 := by
  simp [isHighSurrogate]

theorem isLowSurrogate_iff {code : Nat} :
    isLowSurrogate code = true ↔ 0xDC00 ≤ code ∧ code < 0xE000 := by
  simp [isLowSurrogate]

/-- A symbol is known by its code. -/
theorem Symbol.ofCode_code (symbol : Symbol) : Symbol.ofCode symbol.code = symbol := by
  cases symbol with
  | char c =>
      have outside : ¬ (0xD800 ≤ c.toNat ∧ c.toNat < 0xE000) := by
        have range := toNat_lt_or_ge c
        omega
      rw [code, ofCode, dif_neg outside, Char.ofNat_toNat]
  | surrogate offset =>
      have within : 0xD800 ≤ 0xD800 + offset.val ∧ 0xD800 + offset.val < 0xE000 := by omega
      simp [code, ofCode, within]

/-! ## Pairs -/

section Pairs

variable {c : Char}

/-- The first unit of a character outside the first plane opens a pair. -/
theorem isHighSurrogate_surrogates (outside : 0x10000 ≤ c.toNat) :
    isHighSurrogate (surrogates c.toNat).1 = true := by
  have range := toNat_lt c
  simp only [isHighSurrogate_iff, surrogates]
  omega

/-- The second one closes it. -/
theorem isLowSurrogate_surrogates (c : Char) : isLowSurrogate (surrogates c.toNat).2 = true := by
  simp only [isLowSurrogate_iff, surrogates]
  omega

/-- A character outside the first plane is known by its pair. -/
theorem charOfPair_surrogates (outside : 0x10000 ≤ c.toNat) :
    charOfPair (surrogates c.toNat).1 (surrogates c.toNat).2 = c := by
  have whole : 0x10000 + ((surrogates c.toNat).1 - 0xD800) * 0x400 +
      ((surrogates c.toNat).2 - 0xDC00) = c.toNat := by
    simp only [surrogates]
    omega
  rw [charOfPair, whole, Char.ofNat_toNat]

end Pairs

/-! ## Texts -/

/-- No two surrogates that stand beside each other make a pair. -/
def IsUnpaired (text : Text) : Prop :=
  text.IsChain fun left right =>
    ¬ (isHighSurrogate left.code = true ∧ isLowSurrogate right.code = true)

/-- Different strings make different texts. -/
theorem ofString_injective : Function.Injective ofString := by
  intro left right same
  have symbols : left.toList.map Symbol.char = right.toList.map Symbol.char := same
  exact String.toList_injective
    ((List.map_injective_iff.mpr fun _ _ => Symbol.char.inj) symbols)

/-- A text of characters holds no surrogates. -/
theorem isUnpaired_ofChars (chars : List Char) : IsUnpaired (ofChars chars) := by
  induction chars with
  | nil => exact .nil
  | cons c chars inductionHypothesis =>
      refine List.isChain_cons.mpr ⟨?_, inductionHypothesis⟩
      rintro right _ ⟨high, _⟩
      have range := toNat_lt_or_ge c
      have high : 0xD800 ≤ c.toNat ∧ c.toNat < 0xDC00 := isHighSurrogate_iff.mp high
      omega

end ManifestAudit.Text
