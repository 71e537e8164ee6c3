import ManifestAudit.Text.Digit
import ManifestAudit.Text.Hex
import ManifestAudit.Text.Lowercase
import ManifestAudit.Text.Pieces
import Mathlib.Algebra.Group.Nat.Defs

/-!
# Texts

What the rules for digits, letters and pieces come to where the text is plain: hexadecimal
digits of a fixed width are a number below a bound, the visible characters of ASCII have a
simple lower case, and cutting at a separator undoes putting pieces together with it.
-/

namespace ManifestAudit.Text

/-! ## Hexadecimal digits -/

/-- A hexadecimal digit is worth less than sixteen. -/
theorem hexValue?_lt {c : Char} {value : Nat} (valued : hexValue? c = some value) : value < 16 := by
  unfold hexValue? at valued
  simp only [Char.le_def, UInt32.le_iff_toNat_le] at valued
  change (if 48 ≤ c.toNat ∧ c.toNat ≤ 57 then some (c.toNat - 48)
    else if 97 ≤ c.toNat ∧ c.toNat ≤ 102 then some (c.toNat - 97 + 10)
    else if 65 ≤ c.toNat ∧ c.toNat ≤ 70 then some (c.toNat - 65 + 10) else none) = _ at valued
  grind

/-- Digits behind a number below a bound leave it below the bound with as many places. -/
theorem foldl_hexValue_lt {digits : List Char} {values : List Nat}
    (valued : digits.mapM hexValue? = some values) (number bound : Nat) (below : number < bound) :
    values.foldl (fun number value => number * 16 + value) number < bound * 16 ^ digits.length := by
  induction digits generalizing values number bound with
  | nil =>
      cases valued
      simpa using below
  | cons digit digits inductionHypothesis =>
      simp only [List.mapM_cons, Option.bind_eq_bind, Option.bind_eq_some_iff,
        Option.pure_def, Option.some.injEq] at valued
      obtain ⟨value, worth, others, valued, rfl⟩ := valued
      have small := hexValue?_lt worth
      have longer := inductionHypothesis valued (number * 16 + value) (bound * 16) (by omega)
      rwa [List.length_cons, Nat.pow_succ', ← Nat.mul_assoc]

/-- Digits that are read off the front are a number by themselves, of so many places. -/
theorem takeHex?_eq_some {width code : Nat} {chars rest : List Char}
    (taken : takeHex? width chars = some (code, rest)) :
    takeHex? width (chars.take width) = some (code, []) ∧ code < 16 ^ width := by
  unfold takeHex? at taken ⊢
  dsimp only at taken ⊢
  split at taken
  case isFalse => cases taken
  case isTrue long =>
    obtain ⟨values, valued, read⟩ := Option.map_eq_some_iff.mp taken
    obtain ⟨rfl, rfl⟩ := Prod.mk.inj read
    have below := foldl_hexValue_lt valued 0 1 (by omega)
    rw [long, Nat.one_mul] at below
    refine ⟨?_, below⟩
    simp [List.take_take, long, valued]

/-- A digit that was written is worth what it was written for. -/
theorem hexValue?_hexDigit (value : Nat) : hexValue? (hexDigit value) = some (value % 16) := by
  have each : ∀ digit < 16, hexValue? (hexDigit digit) = some digit := by decide
  have same : hexDigit value = hexDigit (value % 16) := by
    rw [hexDigit, hexDigit, Nat.mod_mod]
  rw [same, each _ (Nat.mod_lt _ (by omega))]

/-! ## Visible characters -/

/-- A visible character of ASCII. -/
def isVisible (c : Char) : Bool :=
  0x21 ≤ c.toNat && c.toNat < 0x7F

theorem isVisible_iff {c : Char} : isVisible c = true ↔ 0x21 ≤ c.toNat ∧ c.toNat < 0x7F := by
  simp [isVisible]

/-- What holds of each code of a visible character holds of all of them. -/
theorem of_isVisible (property : Char → Prop)
    (each : ∀ code < 0x7F, 0x21 ≤ code → property (Char.ofNat code)) {c : Char}
    (visible : isVisible c) : property c := by
  obtain ⟨low, high⟩ := isVisible_iff.mp visible
  simpa only [Char.ofNat_toNat] using each c.toNat high low

theorem isAsciiDigit_iff {c : Char} :
    isAsciiDigit c = true ↔ 0x30 ≤ c.toNat ∧ c.toNat ≤ 0x39 := by
  simp only [isAsciiDigit, Bool.and_eq_true, decide_eq_true_eq, Char.le_def,
    UInt32.le_iff_toNat_le]
  rfl

theorem isVisible_of_isAsciiDigit {c : Char} (digit : isAsciiDigit c) : isVisible c := by
  obtain ⟨low, high⟩ := isAsciiDigit_iff.mp digit
  exact isVisible_iff.mpr ⟨by omega, by omega⟩

theorem toLower_of_isAsciiDigit {c : Char} (digit : isAsciiDigit c) : c.toLower = c :=
  of_isVisible (fun c => isAsciiDigit c → c.toLower = c) (by decide)
    (isVisible_of_isAsciiDigit digit) digit

theorem isVisible_of_toLower {c : Char} (visible : isVisible c.toLower) : isVisible c := by
  unfold Char.toLower at visible
  split at visible
  case isTrue capital =>
    obtain ⟨low, high⟩ := capital
    rw [ge_iff_le, UInt32.le_iff_toNat_le] at low
    rw [UInt32.le_iff_toNat_le] at high
    refine isVisible_iff.mpr ⟨?_, ?_⟩
    · exact Nat.le_trans (by decide) low
    · exact Nat.lt_of_le_of_lt high (by decide)
  case isFalse => exact visible

/-- In lower case a visible character is one again. -/
theorem lowerSymbol_of_isVisible {c : Char} (visible : isVisible c) (before behind : Text) :
    lowerSymbol before (.char c) behind = [.char c.toLower] := by
  obtain ⟨⟨noSigma, noDot⟩, lower⟩ := of_isVisible
    (fun c => (c ≠ '\u03A3' ∧ c ≠ '\u0130') ∧
      ((caseRuns.findSome? (·.lower? c.toNat)).map Symbol.ofCode).getD (.char c) =
        .char c.toLower)
    (by decide +kernel) visible
  have code : (Symbol.char c).code = c.toNat := rfl
  unfold lowerSymbol
  rw [if_neg (by simpa using noSigma), if_neg (by simpa using noDot), code, ← lower]
  cases caseRuns.findSome? (·.lower? c.toNat) <;> rfl

theorem lowercaseBehind_of_isVisible {chars : List Char} (visible : ∀ c ∈ chars, isVisible c)
    (before : Text) :
    lowercaseBehind before (ofChars chars) = ofChars (chars.map Char.toLower) := by
  induction chars generalizing before with
  | nil => rfl
  | cons c rest inductionHypothesis =>
      change lowerSymbol before (.char c) (ofChars rest) ++ lowercaseBehind _ (ofChars rest) = _
      rw [lowerSymbol_of_isVisible (visible c List.mem_cons_self),
        inductionHypothesis fun d member => visible d (List.mem_cons_of_mem _ member)]
      rfl

/-- The lower case of a visible text is that of its letters. -/
theorem lowercase_of_isVisible {chars : List Char} (visible : ∀ c ∈ chars, isVisible c) :
    lowercase (ofChars chars) = ofChars (chars.map Char.toLower) :=
  lowercaseBehind_of_isVisible visible []

/-- The characters of a text made of characters. -/
theorem toChars?_ofChars (chars : List Char) : toChars? (ofChars chars) = some chars := by
  induction chars with
  | nil => rfl
  | cons c rest inductionHypothesis =>
      simp only [toChars?, ofChars, List.map_cons, List.mapM_cons] at inductionHypothesis ⊢
      rw [inductionHypothesis]
      rfl

/-- A text made of characters is one run. -/
theorem mapRuns_ofChars (change : List Char → List Char) (chars : List Char) :
    mapRuns change (ofChars chars) = ofChars (change chars) := by
  have behind (run : List Char) :
      mapRunsBehind change run (ofChars chars) = ofChars (change (run.reverse ++ chars)) := by
    induction chars generalizing run with
    | nil => rw [List.append_nil]; rfl
    | cons c rest inductionHypothesis =>
        have onward := inductionHypothesis (c :: run)
        rw [List.reverse_cons, List.append_assoc] at onward
        exact onward
  exact behind []

/-! ## Pieces -/

/-- Items of a class are taken off the front of what goes on with another item. -/
theorem takeWhile_append_of_head? {α : Type} {accepts : α → Bool} {items : List α}
    (accepted : ∀ item ∈ items, accepts item) (rest : List α)
    (ends : ∀ item ∈ rest.head?, accepts item = false) :
    (items ++ rest).takeWhile accepts = items ∧ (items ++ rest).dropWhile accepts = rest := by
  rw [List.takeWhile_append_of_pos accepted, List.dropWhile_append_of_pos accepted]
  cases rest with
  | nil => simp
  | cons item rest => simp [ends item rfl]

/-- Cutting at the first of several separators. -/
theorem split_append_cons {α : Type} [DecidableEq α] {separator : α} {piece : List α}
    (free : separator ∉ piece) (rest : List α) :
    split separator (piece ++ separator :: rest) = piece :: split separator rest := by
  induction piece with
  | nil => simp [split]
  | cons item piece inductionHypothesis =>
      obtain ⟨other, free⟩ := not_or.mp (mt List.mem_cons.mpr free)
      rw [List.cons_append, split, if_neg fun same => other same.symm, inductionHypothesis free]
      rfl

/-- Without a separator there is one piece. -/
theorem split_of_not_mem {α : Type} [DecidableEq α] {separator : α} {items : List α}
    (free : separator ∉ items) : split separator items = [items] := by
  induction items with
  | nil => rfl
  | cons item items inductionHypothesis =>
      obtain ⟨other, free⟩ := not_or.mp (mt List.mem_cons.mpr free)
      rw [split, if_neg fun same => other same.symm, inductionHypothesis free]
      rfl

/-- Cutting what was put together from pieces gives the pieces. -/
theorem split_flatMap {α : Type} [DecidableEq α] {separator : α} {first : List α}
    {pieces : List (List α)} (free : ∀ piece ∈ first :: pieces, separator ∉ piece) :
    split separator (first ++ pieces.flatMap (separator :: ·)) = first :: pieces := by
  induction pieces generalizing first with
  | nil => simpa using split_of_not_mem (free first List.mem_cons_self)
  | cons piece pieces inductionHypothesis =>
      rw [List.flatMap_cons, List.cons_append, split_append_cons (free first List.mem_cons_self),
        inductionHypothesis fun other member => free other (List.mem_cons_of_mem _ member)]

end ManifestAudit.Text
