import ManifestAudit.Proofs.Text
import ManifestAudit.Yaml.Atom.OfText

/-!
# Numerals are read

A numeral of visible characters holds no blank to set aside and no digit of another script.
So digits are read to any base that they fit, and decimals as fractional numbers. Sixtieths
add up unless there are too many of them.
-/

namespace ManifestAudit.Yaml.Atom

open Text (ofChars isVisible isVisible_iff isAsciiDigit)

theorem numeral_char {c : Char} (visible : isVisible c) :
    isNumberBlank c = false ∧ latinDigit c = c :=
  Text.of_isVisible (fun c => isNumberBlank c = false ∧ latinDigit c = c) (by decide +kernel)
    visible

/-- A visible text is read as it stands. -/
theorem numeral_eq_self {chars : List Char} (visible : ∀ c ∈ chars, isVisible c) :
    numeral chars = chars := by
  have front {chars : List Char} (visible : ∀ c ∈ chars, isVisible c) :
      chars.dropWhile isNumberBlank = chars := by
    cases chars with
    | nil => rfl
    | cons c rest =>
        rw [List.dropWhile_cons_of_neg]
        simp [(numeral_char (visible c List.mem_cons_self)).1]
  have kept : Text.dropEnds isNumberBlank chars = chars := by
    rw [Text.dropEnds, front visible, Text.dropEnd, front (by simpa using visible),
      List.reverse_reverse]
  rw [numeral, kept, List.map_congr_left fun c member => (numeral_char (visible c member)).2,
    List.map_id']

/-! ## Whole numbers -/

/-- A digit to a base. -/
def IsDigit (base : Nat) (c : Char) : Prop :=
  ∃ value, Text.hexValue? c = some value ∧ value < base

theorem natOfDigits?_isSome {base : Nat} {digits : List Char} (nonempty : digits ≠ [])
    (valued : ∀ c ∈ digits, IsDigit base c) : (natOfDigits? base digits).isSome := by
  have total (number : Nat) : ∃ result, digits.foldl (fun number? digit => do
      let number ← number?
      let value ← Text.hexValue? digit
      if value < base then some (number * base + value) else none) (some number) = some result := by
    clear nonempty
    induction digits generalizing number with
    | nil => exact ⟨number, rfl⟩
    | cons digit digits inductionHypothesis =>
        obtain ⟨value, worth, below⟩ := valued digit List.mem_cons_self
        obtain ⟨result, done⟩ := inductionHypothesis
          (fun c member => valued c (List.mem_cons_of_mem _ member)) (number * base + value)
        refine ⟨result, ?_⟩
        simpa [worth, below] using done
  obtain ⟨result, done⟩ := total 0
  rw [natOfDigits?, if_neg (by simpa using nonempty), done]
  rfl

/-- The mark of a base is no digit to it. -/
theorem not_isDigit_of_mem_baseMarks {base : Nat} {c : Char} (mark : c ∈ baseMarks base) :
    ¬ IsDigit base c := by
  rintro ⟨value, worth, below⟩
  have marks : base = 2 ∧ (c = 'b' ∨ c = 'B') ∨ c = 'o' ∨ c = 'O' ∨ c = 'x' ∨ c = 'X' := by
    unfold baseMarks at mark
    grind
  rcases marks with ⟨rfl, rfl | rfl⟩ | rfl | rfl | rfl | rfl
  -- The marks of base 2 are digits, but too great for it; the others are none.
  · cases worth
    omega
  · cases worth
    omega
  all_goals cases worth

theorem isVisible_of_isDigit {base : Nat} {c : Char} (digit : IsDigit base c) : isVisible c := by
  obtain ⟨value, worth, _⟩ := digit
  unfold Text.hexValue? at worth
  simp only [Char.le_def, UInt32.le_iff_toNat_le] at worth
  change (if 48 ≤ c.toNat ∧ c.toNat ≤ 57 then some (c.toNat - 48)
    else if 97 ≤ c.toNat ∧ c.toNat ≤ 102 then some (c.toNat - 97 + 10)
    else if 65 ≤ c.toNat ∧ c.toNat ≤ 70 then some (c.toNat - 65 + 10) else none) = _ at worth
  rw [isVisible_iff]
  grind

theorem unsigned_eq_self {c : Char} {rest : List Char} (noMinus : c ≠ '-') (noPlus : c ≠ '+') :
    Tag.unsigned (c :: rest) = c :: rest := by
  unfold Tag.unsigned
  split
  case h_1 same => exact absurd (List.cons.inj same).1 noMinus
  case h_2 same => exact absurd (List.cons.inj same).1 noPlus
  case h_3 => rfl

/-- Digits to a base are read as they stand: they hold no blank, no sign and no mark. -/
theorem intOfChars?_isSome {base : Nat} {digits : List Char} (nonempty : digits ≠ [])
    (valued : ∀ c ∈ digits, IsDigit base c) : (intOfChars? base digits).isSome := by
  have written : numeral digits = digits :=
    numeral_eq_self fun c member => isVisible_of_isDigit (valued c member)
  have unsigned : Tag.unsigned digits = digits := by
    obtain ⟨c, rest, rfl⟩ := List.exists_cons_of_ne_nil nonempty
    obtain ⟨value, worth, _⟩ := valued c List.mem_cons_self
    exact unsigned_eq_self (by rintro rfl; cases worth) (by rintro rfl; cases worth)
  obtain ⟨number, read⟩ := Option.isSome_iff_exists.mp (natOfDigits?_isSome nonempty valued)
  unfold intOfChars?
  dsimp only
  rw [written, unsigned, Option.isSome_map]
  split
  case h_1 c rest =>
    rw [if_neg, read]
    · rfl
    · intro mark
      exact not_isDigit_of_mem_baseMarks (List.contains_iff_mem.mp mark) (valued c (by simp))
  case h_2 =>
    rw [read]
    rfl

/-- Digits to a base are an integer to it. -/
theorem exists_intOfText {base : Nat} {digits : List Char} (nonempty : digits ≠ [])
    (valued : ∀ c ∈ digits, IsDigit base c) :
    ∃ number, intOfText base (ofChars digits) = .ok number := by
  obtain ⟨number, read⟩ := Option.isSome_iff_exists.mp (intOfChars?_isSome nonempty valued)
  unfold intOfText
  rw [Text.toChars?_ofChars, Option.bind_some, read]
  exact ⟨number, rfl⟩

/-! ## Fractional numbers -/

/-- A run of decimal digits, or none. -/
def AreDigits (chars : List Char) : Prop :=
  ∀ c ∈ chars, isAsciiDigit c

/-- What is behind the digits of a number: nothing, or an exponent with its sign. -/
inductive IsTail : List Char → Prop where
  | none : IsTail []
  | exponent {sign : Char} {digits : List Char} (signed : sign = '-' ∨ sign = '+')
      (nonempty : digits ≠ []) (are : AreDigits digits) : IsTail ('e' :: sign :: digits)

/-- Digits with a point among them or not, and an exponent perhaps. -/
inductive IsDecimal : List Char → Prop where
  | whole {digits : List Char} (nonempty : digits ≠ []) (are : AreDigits digits) :
    IsDecimal digits
  | pointed {whole fraction tail : List Char} (nonempty : whole ++ fraction ≠ [])
      (are : AreDigits (whole ++ fraction)) (isTail : IsTail tail) :
    IsDecimal (whole ++ '.' :: (fraction ++ tail))

theorem IsTail.head?_not_digit {tail : List Char} (isTail : IsTail tail) :
    ∀ c ∈ tail.head?, isAsciiDigit c = false := by
  cases isTail with
  | none => simp
  | exponent => rintro c ⟨⟩; rfl

/-- What holds of digits and of the few other characters of decimals holds of all of them. -/
theorem IsDecimal.forall_mem {chars : List Char} (decimal : IsDecimal chars)
    (property : Char → Prop) (digit : ∀ c, isAsciiDigit c → property c)
    (other : ∀ c ∈ ['.', 'e', '-', '+'], property c) : ∀ c ∈ chars, property c := by
  have tails {tail : List Char} (isTail : IsTail tail) : ∀ c ∈ tail, property c := by
    cases isTail with
    | none => simp
    | exponent signed nonempty are =>
        rw [List.forall_mem_cons, List.forall_mem_cons]
        refine ⟨other _ (by simp), other _ ?_, fun c member => digit c (are c member)⟩
        rcases signed with rfl | rfl <;> simp
  cases decimal with
  | whole _ are => exact fun c member => digit c (are c member)
  | pointed _ are isTail =>
      intro c member
      simp only [List.mem_append, List.mem_cons] at member
      rcases member with whole | rfl | fraction | tail
      · exact digit c (are c (List.mem_append_left _ whole))
      · exact other _ (by simp)
      · exact digit c (are c (List.mem_append_right _ fraction))
      · exact tails isTail c tail

theorem IsDecimal.visible {chars : List Char} (decimal : IsDecimal chars) :
    ∀ c ∈ chars, isVisible c :=
  decimal.forall_mem _ (fun _ => Text.isVisible_of_isAsciiDigit) (by simp [isVisible])

theorem IsDecimal.colon_not_mem {chars : List Char} (decimal : IsDecimal chars) :
    ':' ∉ chars := by
  intro member
  exact decimal.forall_mem (· ≠ ':') (by rintro c digit rfl; cases digit) (by simp) ':' member rfl

/-- A decimal starts with a digit or its point, so it has no sign. -/
theorem IsDecimal.unsigned_eq {chars : List Char} (decimal : IsDecimal chars) :
    Tag.unsigned chars = chars := by
  have digit {c : Char} {rest : List Char} (isDigit : isAsciiDigit c) :
      Tag.unsigned (c :: rest) = c :: rest :=
    unsigned_eq_self (by rintro rfl; cases isDigit) (by rintro rfl; cases isDigit)
  cases decimal with
  | whole nonempty are =>
      obtain ⟨c, rest, rfl⟩ := List.exists_cons_of_ne_nil nonempty
      exact digit (are c List.mem_cons_self)
  | @pointed whole fraction tail _ are _ =>
      cases whole with
      | nil => exact unsigned_eq_self (by decide) (by decide)
      | cons c rest => exact digit (are c (by simp))

/-- A decimal is a fractional number. -/
theorem exists_floatOfText {chars : List Char} (decimal : IsDecimal chars) :
    ∃ number, floatOfText (ofChars chars) = .ok number := by
  have read : ∃ number, floatOfChars? chars = some number := by
    unfold floatOfChars?
    dsimp only
    rw [numeral_eq_self decimal.visible, decimal.unsigned_eq]
    split
    case isTrue => exact ⟨_, rfl⟩
    case isFalse =>
      split
      case isTrue => exact ⟨_, rfl⟩
      case isFalse =>
        cases decimal with
        | whole nonempty are =>
            obtain ⟨taken, dropped⟩ := Text.takeWhile_append_of_head? are [] (by simp)
            rw [List.append_nil] at taken dropped
            rw [taken, dropped]
            obtain ⟨c, rest, rfl⟩ := List.exists_cons_of_ne_nil nonempty
            exact ⟨_, rfl⟩
        | @pointed whole fraction tail nonempty are isTail =>
            obtain ⟨areWhole, areFraction⟩ := List.forall_mem_append.mp are
            obtain ⟨taken, dropped⟩ := Text.takeWhile_append_of_head? areWhole
              ('.' :: (fraction ++ tail)) (by simp [isAsciiDigit])
            obtain ⟨taken', dropped'⟩ :=
              Text.takeWhile_append_of_head? areFraction tail isTail.head?_not_digit
            simp only [taken, dropped, taken', dropped']
            obtain ⟨c, rest, digits⟩ := List.exists_cons_of_ne_nil nonempty
            rw [digits]
            cases isTail with
            | none => exact ⟨_, rfl⟩
            | @exponent sign digits signed nonempty are =>
                have unsigned : Tag.unsigned (sign :: digits) = digits := by
                  rcases signed with rfl | rfl <;> rfl
                dsimp only
                rw [unsigned, if_pos]
                · exact ⟨_, rfl⟩
                · exact ⟨rfl, by simpa using nonempty, List.all_eq_true.mpr are⟩
  obtain ⟨number, read⟩ := read
  unfold floatOfText
  rw [Text.toChars?_ofChars, Option.bind_some, read]
  exact ⟨number, rfl⟩

/-! ## Sixtieths -/

/-- Several texts with colons between them. -/
def joined (first : List Char) (parts : List (List Char)) : List Char :=
  first ++ parts.flatMap (':' :: ·)

/-- Sixtieths fail to add up only where there are so many of them that the worth of one
leaves the range of fractional numbers. -/
theorem sumSixtieths_spec (sum : Float) (base : Nat) (parts : List Float) :
    (∃ value, sumSixtieths sum base parts = .ok value) ∨
      sumSixtieths sum base parts = .error .numberTooLarge ∧
        ∃ place < parts.length, Decimal.power 2 1024 ≤ base * 60 ^ place := by
  induction parts generalizing sum base with
  | nil => exact .inl ⟨sum, rfl⟩
  | cons part parts inductionHypothesis =>
      unfold sumSixtieths
      split
      case isTrue large => exact .inr ⟨rfl, 0, Nat.zero_lt_succ _, by simpa using large⟩
      case isFalse =>
        refine (inductionHypothesis _ (base * 60)).imp_right ?_
        rintro ⟨failed, place, within, large⟩
        refine ⟨failed, place + 1, by simpa using within, ?_⟩
        rwa [Nat.pow_succ', ← Nat.mul_assoc]

end ManifestAudit.Yaml.Atom
