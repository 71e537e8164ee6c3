import ManifestAudit.Json.Printer
import ManifestAudit.Json.Reader
import ManifestAudit.Proofs.Text.Lines
import ManifestAudit.Proofs.Text.Symbol

/-!
# Strings and integers that are read back

A string is written symbol by symbol: as itself, by a letter behind a backslash, or by one or
two 16-bit units. The reader takes these apart into pieces and puts the units together again,
so what comes back is the text, unless two surrogates that stood there by themselves make a
pair, `readString_stringLiteral`. An integer is written in digits, which are taken off the front
of whatever does not go on with a number, `readAtom_integer`.
-/

namespace ManifestAudit.Json

open Text (Symbol)

/-! ## Pieces -/

section Pieces

variable {text : Text} {pieces : List Piece}

/-- The pieces that a symbol may be written in. -/
inductive Spells : Symbol → List Piece → Prop where
  | itself (c : Char) : Spells (.char c) [.char c]
  | unit (symbol : Symbol) (single : symbol.code < 0x10000) : Spells symbol [.unit symbol.code]
  | pair {c : Char} (outside : 0x10000 ≤ c.toNat) :
      Spells (.char c)
        [.unit (Text.surrogates c.toNat).1, .unit (Text.surrogates c.toNat).2]

/-- The pieces that a text may be written in, symbol by symbol. -/
inductive SpellsAll : Text → List Piece → Prop where
  | nil : SpellsAll [] []
  | cons {symbol : Symbol} {text : Text} {first rest : List Piece} (here : Spells symbol first)
      (behind : SpellsAll text rest) : SpellsAll (symbol :: text) (first ++ rest)

/-- A unit at the front that closes a pair is a surrogate that stands there by itself. -/
theorem SpellsAll.head?_of_isLowSurrogate {code : Nat} {behind : List Piece}
    (spelled : SpellsAll text (.unit code :: behind)) (low : Text.isLowSurrogate code = true) :
    ∃ symbol ∈ text.head?, symbol.code = code := by
  generalize whole : Piece.unit code :: behind = pieces at spelled
  cases spelled with
  | nil => cases whole
  | cons here _ =>
      cases here with
      | itself c => cases whole
      | unit _ single =>
          cases whole
          exact ⟨_, rfl, rfl⟩
      | pair outside =>
          cases whole
          have high := Text.isHighSurrogate_surrogates outside
          rw [Text.isHighSurrogate_iff] at high
          rw [Text.isLowSurrogate_iff] at low
          omega

/-- Put together, the pieces of a text are the text, if no two surrogates in it make a pair. -/
theorem joinPieces_of_spellsAll (spelled : SpellsAll text pieces) (unpaired : text.IsUnpaired) :
    joinPieces pieces = text := by
  induction spelled with
  | nil => rfl
  | @cons symbol text first rest here behind inductionHypothesis =>
      obtain ⟨apart, unpaired⟩ := List.isChain_cons.mp unpaired
      have joined := inductionHypothesis unpaired
      cases here with
      | itself c => rw [List.singleton_append, joinPieces, joined]
      | unit _ single =>
          -- What comes next decides whether the unit is taken for the first half of a pair.
          match rest with
          | [] =>
              rw [List.append_nil, joinPieces, Symbol.ofCode_code, ← joined, joinPieces]
              intro low rest more
              cases more
          | .char c :: rest =>
              rw [List.singleton_append, joinPieces, Symbol.ofCode_code, joined]
              intro low rest more
              cases more
          | .unit low :: rest =>
              have noPair : ¬ (Text.isHighSurrogate symbol.code && Text.isLowSurrogate low) := by
                intro both
                obtain ⟨high, low⟩ := Bool.and_eq_true_iff.mp both
                obtain ⟨next, first, same⟩ := behind.head?_of_isLowSurrogate low
                exact apart next first ⟨high, same ▸ low⟩
              rw [List.singleton_append, joinPieces, if_neg noPair, Symbol.ofCode_code, joined]
      | @pair c outside =>
          have high := Text.isHighSurrogate_surrogates outside
          have low := Text.isLowSurrogate_surrogates c
          simp only [List.cons_append, List.nil_append, joinPieces, high, low, Bool.and_true,
            if_true, Text.charOfPair_surrogates outside, joined]

end Pieces

/-! ## Strings -/

section Strings

variable {text : Text} {pieces : List Piece} {opening rest behind : List Char}

/-- A letter behind a backslash is read as what it stands for. -/
theorem readPieces_letter {letter c : Char} (stands : escapedChar? letter = some c)
    (read : readPieces opening rest = .ok (pieces, behind)) :
    readPieces opening ('\\' :: letter :: rest) = .ok (.char c :: pieces, behind) := by
  have notUnit : letter ≠ 'u' := by
    rintro rfl
    cases stands
  have notQuote : '\\' ≠ '"' := by decide
  rw [readPieces.eq_def]
  simp only [if_neg notQuote, if_neg notUnit, stands, read, Except.map, Prod.map, id, if_true]

/-- A character that needs no escape is read as itself. -/
theorem readPieces_char {c : Char} (notQuote : c ≠ '"') (notBackslash : c ≠ '\\')
    (notControl : ¬ c < ' ') (read : readPieces opening rest = .ok (pieces, behind)) :
    readPieces opening (c :: rest) = .ok (.char c :: pieces, behind) := by
  rw [readPieces.eq_def]
  simp only [if_neg notQuote, if_neg notBackslash, if_neg notControl, read, Except.map, Prod.map,
    id]

/-- Four digits are read as the unit they write. -/
theorem readPieces_unitEscape {code : Nat} (single : code < 0x10000)
    (read : readPieces opening rest = .ok (pieces, behind)) :
    readPieces opening (unitEscape code ++ rest) = .ok (.unit code :: pieces, behind) := by
  cases rest with
  | nil => cases read
  | cons next rest =>
      have digits : unitOfDigits? (Text.hexDigit (code / 16 / 16 / 16))
          (Text.hexDigit (code / 16 / 16)) (Text.hexDigit (code / 16)) (Text.hexDigit code) =
            some code := by
        simp only [unitOfDigits?, Text.hexValue?_hexDigit, Option.pure_def, Option.bind_eq_bind,
          Option.bind_some, Option.some.injEq]
        omega
      simp [unitEscape, Text.hex, readPieces, digits, read, Except.map]

/-- How a character is written: by a letter behind a backslash, as itself, by one unit, or by
the pair of units that it has outside the first plane. -/
theorem escapedChar_cases (c : Char) :
    (∃ letter, escapedChar c = ['\\', letter] ∧ escapedChar? letter = some c) ∨
    (escapedChar c = [c] ∧ c ≠ '"' ∧ c ≠ '\\' ∧ 0x20 ≤ c.toNat ∧ c.toNat < 0x7F) ∨
    (escapedChar c = unitEscape c.toNat ∧ c.toNat < 0x10000) ∨
    (escapedChar c = unitEscape (Text.surrogates c.toNat).1 ++
      unitEscape (Text.surrogates c.toNat).2 ∧ 0x10000 ≤ c.toNat) := by
  by_cases lettered : ∃ letter, escapedChar c = ['\\', letter] ∧ escapedChar? letter = some c
  · exact .inl lettered
  · have differs (special letter : Char) (written : escapedChar special = ['\\', letter])
        (stands : escapedChar? letter = some special) : c ≠ special := by
      rintro rfl
      exact lettered ⟨letter, written, stands⟩
    have notQuote : c ≠ '"' := differs '"' '"' rfl rfl
    have notBackslash : c ≠ '\\' := differs '\\' '\\' rfl rfl
    rw [escapedChar, if_neg notQuote, if_neg notBackslash, if_neg (differs '\n' 'n' rfl rfl),
      if_neg (differs '\r' 'r' rfl rfl), if_neg (differs '\t' 't' rfl rfl),
      if_neg (differs '\x0c' 'f' rfl rfl), if_neg (differs '\x08' 'b' rfl rfl)]
    split
    case isTrue plain => exact .inr (.inl ⟨rfl, notQuote, notBackslash, plain⟩)
    case isFalse =>
      split
      case isTrue single => exact .inr (.inr (.inl ⟨rfl, single⟩))
      case isFalse outside => exact .inr (.inr (.inr ⟨rfl, by omega⟩))

/-- What a symbol is written as is read as pieces of it. -/
theorem exists_readPieces_escapedSymbol (symbol : Symbol)
    (read : readPieces opening rest = .ok (pieces, behind)) :
    ∃ first, Spells symbol first ∧
      readPieces opening (escapedSymbol symbol ++ rest) = .ok (first ++ pieces, behind) := by
  cases symbol with
  | surrogate offset =>
      have single : (Symbol.surrogate offset).code < 0x10000 := by
        rw [Symbol.code]
        omega
      exact ⟨_, .unit _ single, readPieces_unitEscape single read⟩
  | char c =>
      rw [escapedSymbol]
      rcases escapedChar_cases c with ⟨letter, written, stands⟩ |
        ⟨written, notQuote, notBackslash, low, high⟩ | ⟨written, single⟩ | ⟨written, outside⟩
      · rw [written]
        exact ⟨_, .itself c, readPieces_letter stands read⟩
      · have notControl : ¬ c < ' ' := by
          rw [Char.lt_def, UInt32.lt_iff_toNat_lt, Nat.not_lt]
          exact low
        rw [written]
        exact ⟨_, .itself c, readPieces_char notQuote notBackslash notControl read⟩
      · rw [written]
        exact ⟨_, .unit (.char c) single, readPieces_unitEscape single read⟩
      · have below := Text.toNat_lt c
        have first : (Text.surrogates c.toNat).1 < 0x10000 := by
          rw [Text.surrogates]
          omega
        have second : (Text.surrogates c.toNat).2 < 0x10000 := by
          rw [Text.surrogates]
          omega
        rw [written, List.append_assoc]
        exact ⟨_, .pair outside,
          readPieces_unitEscape first (readPieces_unitEscape second read)⟩

/-- What a text is written as, up to the closing quote, is read as pieces of it. -/
theorem exists_readPieces_flatMap (opening : List Char) (text : Text) (behind : List Char) :
    ∃ pieces, SpellsAll text pieces ∧
      readPieces opening (text.flatMap escapedSymbol ++ '"' :: behind) = .ok (pieces, behind) := by
  induction text with
  | nil => exact ⟨[], .nil, by simp [readPieces.eq_def]⟩
  | cons symbol text inductionHypothesis =>
      obtain ⟨pieces, spelled, read⟩ := inductionHypothesis
      obtain ⟨first, here, read⟩ := exists_readPieces_escapedSymbol symbol read
      refine ⟨first ++ pieces, .cons here spelled, ?_⟩
      rw [List.flatMap_cons, List.append_assoc, read]

/-- A text in which no two surrogates make a pair is read as it was written. -/
theorem readString_stringLiteral (unpaired : text.IsUnpaired) (behind : List Char) :
    readString (stringLiteral text ++ behind) = .ok (text, behind) := by
  obtain ⟨pieces, spelled, read⟩ :=
    exists_readPieces_flatMap (stringLiteral text ++ behind) text behind
  have tail : (stringLiteral text ++ behind).tail =
      text.flatMap escapedSymbol ++ '"' :: behind := by
    simp [stringLiteral]
  simp only [readString, tail, read, bind, Except.bind, joinPieces_of_spellsAll spelled unpaired]
  rfl

/-- Two surrogates that make a pair come back as the character of the pair. -/
example : readString (stringLiteral [.surrogate 0, .surrogate 0x400]) =
    .ok ([.char (Char.ofNat 0x10000)], []) := by
  rfl

end Strings

/-! ## Integers -/

section Integers

variable {rest : List Char}

/-- What may stand behind a value that was laid out: nothing, a comma or a new line. -/
def Follows (rest : List Char) : Prop := ∀ c ∈ rest.head?, c = ',' ∨ c = '\n'

/-- No constant begins with a digit, behind a sign or without one. -/
theorem takeConstant?_digit {digit : Char} (latin : Text.isAsciiDigit digit) (rest : List Char) :
    takeConstant? (digit :: rest) = none ∧ takeConstant? ('-' :: digit :: rest) = none := by
  have others : digit ∉ ['n', 't', 'f', 'N', 'I', '-'] :=
    Text.of_isAsciiDigit (· ∉ ['n', 't', 'f', 'N', 'I', '-']) (by decide) latin
  simp only [List.mem_cons, List.not_mem_nil, or_false, not_or] at others
  simp [takeConstant?, constants, others, eq_comm (b := digit)]

/-- The digits of a number are taken off the front whole. -/
theorem takeWhole?_decimalDigits (number : Nat) (follows : Follows rest) :
    takeWhole? (Text.decimalDigits number ++ rest) =
      some (Text.decimalDigits number, rest) := by
  obtain ⟨digit, digits, written, latin, alone⟩ := Text.exists_decimalDigits_eq_cons number
  have latins : ∀ c ∈ digits, Text.isAsciiDigit c := by
    intro c behind
    exact Text.isAsciiDigit_of_mem_decimalDigits (written ▸ List.mem_cons_of_mem _ behind)
  have ends : ∀ c ∈ rest.head?, Text.isAsciiDigit c = false := by
    intro c first
    rcases follows c first with rfl | rfl <;> rfl
  obtain ⟨taken, dropped⟩ := Text.takeWhile_append_of_head? latins rest ends
  rw [written, List.cons_append, takeWhole?, taken, dropped]
  by_cases zero : digit = '0'
  · rw [if_pos zero, alone zero, zero, List.nil_append]
  · rw [if_neg zero, if_pos latin]

/-- What follows goes on with neither a fraction nor an exponent. -/
theorem takeFraction_takeExponent (follows : Follows rest) :
    takeFraction rest = (none, rest) ∧ takeExponent rest = (none, rest) := by
  cases rest with
  | nil => exact ⟨rfl, rfl⟩
  | cons c rest => rcases follows c rfl with rfl | rfl <;> exact ⟨rfl, rfl⟩

/-- The digits of a number write it. -/
theorem digitsNumber_decimalDigits (number : Nat) :
    digitsNumber (Text.decimalDigits number) = number := by
  have same : digitsNumber (Text.decimalDigits number) =
      Nat.ofDigitChars 10 (Text.decimalDigits number) 0 := by
    simp [digitsNumber, Nat.ofDigitChars, Nat.mul_comm]
  rw [same]
  exact Nat.ofDigitChars_ten_toDigits

/-- The digits of a number are read as the number, and behind a sign as its opposite. -/
theorem readAtom_decimalDigits (number : Nat) (follows : Follows rest) :
    readAtom (Text.decimalDigits number ++ rest) = .ok (.integer number, rest) ∧
      readAtom ('-' :: (Text.decimalDigits number ++ rest)) = .ok (.integer (-number), rest) := by
  obtain ⟨noFraction, noExponent⟩ := takeFraction_takeExponent follows
  obtain ⟨digit, more, written, latin, _⟩ := Text.exists_decimalDigits_eq_cons number
  have whole := takeWhole?_decimalDigits number follows
  have worth := digitsNumber_decimalDigits number
  have unsigned : digit ≠ '-' := by
    rintro rfl
    cases latin
  rw [written] at whole worth ⊢
  rw [List.cons_append] at whole ⊢
  obtain ⟨noConstant, noConstantSigned⟩ := takeConstant?_digit latin (more ++ rest)
  constructor
  · rw [readAtom, noConstant]
    simp [takeNumeral?, unsigned, whole, noFraction, noExponent, Numeral.value, worth]
  · rw [readAtom, noConstantSigned]
    simp [takeNumeral?, whole, noFraction, noExponent, Numeral.value, worth]

/-- An integer is written in the digits of a number, behind a sign if it is negative. -/
theorem exists_toList_toString_eq (value : Int) :
    ∃ number : Nat,
      (value = number ∧ (toString value).toList = Text.decimalDigits number) ∨
      (value = -number ∧ (toString value).toList = '-' :: Text.decimalDigits number) := by
  cases value with
  | ofNat number => exact ⟨number, .inl ⟨rfl, Text.toString_eq_decimalDigits number⟩⟩
  | negSucc number =>
      have digits : (toString (Int.negSucc number)).toList =
          '-' :: Text.decimalDigits (number + 1) :=
        String.toList_append.trans
          (congrArg ('-' :: ·) (Text.toString_eq_decimalDigits (number + 1)))
      exact ⟨number + 1, .inr ⟨rfl, digits⟩⟩

/-- It is read as it was written. -/
theorem readAtom_integer (value : Int) (follows : Follows rest) :
    readAtom ((toString value).toList ++ rest) = .ok (.integer value, rest) := by
  obtain ⟨number, ⟨same, digits⟩ | ⟨same, digits⟩⟩ := exists_toList_toString_eq value
  · rw [digits, same]
    exact (readAtom_decimalDigits number follows).1
  · rw [digits, same]
    exact (readAtom_decimalDigits number follows).2

/-- It is written in these characters, at least one. -/
theorem mem_toList_toString {value : Int} {c : Char} (member : c ∈ (toString value).toList) :
    c = '-' ∨ Text.isAsciiDigit c = true := by
  obtain ⟨number, ⟨_, digits⟩ | ⟨_, digits⟩⟩ := exists_toList_toString_eq value
  · rw [digits] at member
    exact .inr (Text.isAsciiDigit_of_mem_decimalDigits member)
  · rw [digits, List.mem_cons] at member
    exact member.imp_right Text.isAsciiDigit_of_mem_decimalDigits

theorem toList_toString_ne_nil (value : Int) : (toString value).toList ≠ [] := by
  obtain ⟨number, ⟨_, digits⟩ | ⟨_, digits⟩⟩ := exists_toList_toString_eq value
  · rw [digits]
    exact Nat.toDigits_ne_nil
  · rw [digits]
    exact List.cons_ne_nil _ _

end Integers

/-! ## Characters -/

section Characters

/-- A new line or a character that ASCII shows. -/
def IsPlain (c : Char) : Prop := c = '\n' ∨ 0x20 ≤ c.toNat ∧ c.toNat < 0x7F

instance (c : Char) : Decidable (IsPlain c) :=
  inferInstanceAs (Decidable (_ ∨ _))

/-- A plain character is one of ASCII. -/
theorem IsPlain.toNat_lt {c : Char} (plain : IsPlain c) : c.toNat < 0x80 := by
  rcases plain with rfl | ⟨_, shown⟩
  · decide
  · omega

/-- Characters are plain if each one is found to be. -/
theorem isPlain_of_all {chars : List Char} (all : chars.all (fun c => decide (IsPlain c)) = true) :
    ∀ c ∈ chars, IsPlain c := by
  simpa using all

/-- An escape of a unit is plain. -/
theorem isPlain_of_mem_unitEscape {code : Nat} : ∀ c ∈ unitEscape code, IsPlain c := by
  have digit (value : Nat) : IsPlain (Text.hexDigit value) := by
    have each : ∀ digit < 16, IsPlain (Text.hexDigits.getD digit '0') := by decide
    exact each _ (Nat.mod_lt _ (by omega))
  have backslash : IsPlain '\\' := by decide
  have letter : IsPlain 'u' := by decide
  simp [unitEscape, Text.hex, digit, backslash, letter]

/-- So is a letter that stands for something behind a backslash. -/
theorem isPlain_of_escapedChar? {letter c : Char} (stands : escapedChar? letter = some c) :
    IsPlain letter := by
  unfold escapedChar? at stands
  split at stands
  case h_9 => cases stands
  all_goals decide

/-- So is whatever a symbol is written as. -/
theorem isPlain_of_mem_escapedSymbol (symbol : Symbol) :
    ∀ c ∈ escapedSymbol symbol, IsPlain c := by
  cases symbol with
  | surrogate offset => exact isPlain_of_mem_unitEscape
  | char c =>
      rw [escapedSymbol]
      rcases escapedChar_cases c with ⟨letter, written, stands⟩ | ⟨written, _, _, plain⟩ |
        ⟨written, _⟩ | ⟨written, _⟩
      · rw [written, List.forall_mem_cons, List.forall_mem_singleton]
        exact ⟨by decide, isPlain_of_escapedChar? stands⟩
      · rw [written, List.forall_mem_singleton]
        exact .inr plain
      · rw [written]
        exact isPlain_of_mem_unitEscape
      · rw [written, List.forall_mem_append]
        exact ⟨isPlain_of_mem_unitEscape, isPlain_of_mem_unitEscape⟩

/-- A written text is plain, whatever the text holds. -/
theorem isPlain_of_mem_stringLiteral (text : Text) : ∀ c ∈ stringLiteral text, IsPlain c := by
  have quote : IsPlain '"' := by decide
  simp only [stringLiteral, List.cons_append, List.forall_mem_cons, List.forall_mem_append,
    List.forall_mem_flatMap, List.not_mem_nil, false_imp_iff, implies_true, and_true, quote,
    true_and]
  exact fun symbol _ => isPlain_of_mem_escapedSymbol symbol

/-- So is a written integer. -/
theorem isPlain_of_mem_toString (value : Int) : ∀ c ∈ (toString value).toList, IsPlain c := by
  intro c member
  rcases mem_toList_toString member with rfl | digit
  · decide
  · exact Text.of_isAsciiDigit IsPlain (by decide) digit

end Characters

end ManifestAudit.Json
