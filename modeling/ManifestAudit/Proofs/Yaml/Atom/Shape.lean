import ManifestAudit.Proofs.Yaml.Atom.Numeral

/-!
# What the shapes of numbers stand for

A plain scalar has the shape of a number by rules on its characters. Once the underscores
between digits are dropped, such a shape is one or more numerals with colons between them.
-/

namespace ManifestAudit.Yaml.Atom

open Text (ofChars isAsciiDigit isVisible)

/-! ## Underscores and capitals -/

/-- The characters of a number without the underscores that group its digits. -/
abbrev withoutLines (chars : List Char) : List Char :=
  chars.filter (· ≠ '_')

theorem withoutLines_append (front behind : List Char) :
    withoutLines (front ++ behind) = withoutLines front ++ withoutLines behind :=
  List.filter_append front behind

theorem withoutLines_cons {c : Char} (noLine : c ≠ '_') (rest : List Char) :
    withoutLines (c :: rest) = c :: withoutLines rest :=
  List.filter_cons_of_pos (decide_eq_true noLine)

theorem ungrouped_ofChars (chars : List Char) :
    ungrouped (ofChars chars) = ofChars (withoutLines chars) := by
  simp [ungrouped, withoutLines, ofChars, List.filter_map, Function.comp_def]

/-- Digits and the colons between them hold nothing to drop or to change. -/
def AreSixtieths (chars : List Char) : Prop :=
  ∀ c ∈ chars, isAsciiDigit c ∨ c = ':'

theorem AreDigits.areSixtieths {digits : List Char} (are : AreDigits digits) :
    AreSixtieths digits :=
  fun c member => .inl (are c member)

theorem areSixtieths_flatMap {parts : List (List Char)} (are : ∀ part ∈ parts, AreDigits part) :
    AreSixtieths (parts.flatMap (':' :: ·)) := by
  intro c member
  obtain ⟨part, inside, member⟩ := List.mem_flatMap.mp member
  rcases List.mem_cons.mp member with rfl | member
  · exact .inr rfl
  · exact .inl (are part inside c member)

theorem AreSixtieths.withoutLines_eq {chars : List Char} (are : AreSixtieths chars) :
    withoutLines chars = chars := by
  rw [withoutLines, List.filter_eq_self]
  intro c member
  rw [decide_eq_true_eq]
  rintro rfl
  rcases are '_' member with digit | colon
  · cases digit
  · cases colon

theorem areDigits_withoutLines {chars : List Char} (grouped : ∀ c ∈ chars, Tag.isDigitOrLine c) :
    AreDigits (withoutLines chars) := by
  intro c member
  obtain ⟨member, noLine⟩ := List.mem_filter.mp member
  simpa [Tag.isDigitOrLine, of_decide_eq_true noLine] using grouped c member

theorem AreSixtieths.map_toLower {chars : List Char} (are : AreSixtieths chars) :
    chars.map Char.toLower = chars := by
  have same : ∀ c ∈ chars, c.toLower = c := by
    intro c member
    rcases are c member with digit | rfl
    · exact Text.toLower_of_isAsciiDigit digit
    · rfl
  rw [List.map_congr_left same, List.map_id']

/-! ## Sixtieths -/

/-- What is cut off as sixtieths is some parts, each a colon and digits behind it. -/
theorem dropSixtieths_spec (fuel : Nat) (chars : List Char) :
    ∃ parts : List (List Char), (∀ part ∈ parts, part ≠ [] ∧ AreDigits part) ∧
      chars = parts.flatMap (':' :: ·) ++ (Tag.dropSixtieths fuel chars).2 ∧
      ((Tag.dropSixtieths fuel chars).1 = true ↔ parts ≠ []) := by
  fun_induction Tag.dropSixtieths fuel chars with
  | case1 fuel rest digits sixtieth inductionHypothesis =>
      obtain ⟨parts, are, whole, _⟩ := inductionHypothesis
      refine ⟨digits :: parts, List.forall_mem_cons.mpr ⟨⟨?_, ?_⟩, are⟩, ?_, by simp⟩
      · intro empty
        rw [empty] at sixtieth
        cases sixtieth
      · exact List.all_eq_true.mp List.all_takeWhile
      · rw [List.flatMap_cons, List.cons_append, List.cons_append, List.append_assoc, ← whole,
          List.takeWhile_append_dropWhile]
  | case2 fuel rest digits sixtieth => exact ⟨[], by simp, rfl, by simp⟩
  | case3 fuel chars short => exact ⟨[], by simp, rfl, by simp⟩

/-! ## Shapes -/

/-- The text of a number as it is read: without underscores and in lower case. -/
abbrev plainly (chars : List Char) : List Char :=
  (withoutLines chars).map Char.toLower

theorem AreSixtieths.plainly_eq {chars : List Char} (are : AreSixtieths chars) :
    plainly chars = chars := by
  rw [plainly, are.withoutLines_eq, are.map_toLower]

theorem plainly_append (front behind : List Char) :
    plainly (front ++ behind) = plainly front ++ plainly behind := by
  rw [plainly, withoutLines_append, List.map_append]

theorem plainly_cons {c : Char} (noLine : c ≠ '_') (rest : List Char) :
    plainly (c :: rest) = c.toLower :: plainly rest := by
  rw [plainly, withoutLines_cons noLine, List.map_cons]

theorem areDigits_plainly {chars : List Char} (grouped : ∀ c ∈ chars, Tag.isDigitOrLine c) :
    AreDigits (plainly chars) := by
  have are := areDigits_withoutLines grouped
  rwa [plainly, are.areSixtieths.map_toLower]

theorem isTail_of_isExponent {chars : List Char} (shape : Tag.isExponent chars) :
    IsTail (plainly chars) := by
  unfold Tag.isExponent at shape
  split at shape
  case h_1 => exact .none
  case h_2 mark sign digits =>
    simp only [Bool.and_eq_true, Bool.or_eq_true, beq_iff_eq, Bool.not_eq_true',
      List.isEmpty_eq_false_iff, List.all_eq_true] at shape
    obtain ⟨⟨⟨isMark, signed⟩, nonempty⟩, are⟩ := shape
    have are : AreDigits digits := are
    rw [plainly_cons (by rintro rfl; simp at isMark), plainly_cons (by rintro rfl; simp at signed),
      are.areSixtieths.plainly_eq]
    have mark : mark.toLower = 'e' := by rcases isMark with rfl | rfl <;> rfl
    have sign : sign.toLower = sign := by rcases signed with rfl | rfl <;> rfl
    rw [mark, sign]
    exact .exponent signed nonempty are
  case h_3 => cases shape

/-- Digits with underscores among them, and what comes behind them. -/
theorem exists_run (chars : List Char) : ∃ run, (∀ c ∈ run, Tag.isDigitOrLine c) ∧
    chars = run ++ chars.dropWhile Tag.isDigitOrLine :=
  ⟨chars.takeWhile Tag.isDigitOrLine, List.all_eq_true.mp List.all_takeWhile,
    List.takeWhile_append_dropWhile.symm⟩

/-- A digit and a run behind it are digits once they are read. -/
theorem areDigits_plainly_cons {c : Char} {run : List Char} (digit : isAsciiDigit c)
    (grouped : ∀ d ∈ run, Tag.isDigitOrLine d) :
    plainly (c :: run) = c :: plainly run ∧ AreDigits (c :: plainly run) := by
  constructor
  · rw [plainly_cons (by rintro rfl; cases digit), Text.toLower_of_isAsciiDigit digit]
  · exact List.forall_mem_cons.mpr ⟨digit, areDigits_plainly grouped⟩

/-- A number with a point among its digits is decimals with colons between them. -/
theorem isPointed_spec {chars : List Char} (shape : Tag.isPointed chars) :
    ∃ c rest, chars = c :: rest ∧ isAsciiDigit c ∧ ∃ first parts,
      plainly chars = joined first parts ∧ ∀ part ∈ first :: parts, IsDecimal part := by
  unfold Tag.isPointed at shape
  split at shape
  case h_2 => cases shape
  case h_1 c rest =>
    obtain ⟨digit, shape⟩ := Bool.and_eq_true_iff.mp shape
    refine ⟨c, rest, rfl, digit, ?_⟩
    obtain ⟨run, grouped, whole⟩ := exists_run rest
    obtain ⟨read, are⟩ := areDigits_plainly_cons digit grouped
    rw [whole, ← List.cons_append, plainly_append, read]
    split at shape
    case h_1 fraction pointed =>
      obtain ⟨digits, groupedDigits, behind⟩ := exists_run fraction
      refine ⟨_, [], (List.append_nil _).symm, List.forall_mem_singleton.mpr ?_⟩
      rw [pointed, plainly_cons (by decide), behind, plainly_append]
      refine .pointed (by simp) ?_ (isTail_of_isExponent shape)
      exact List.forall_mem_append.mpr ⟨are, areDigits_plainly groupedDigits⟩
    case h_2 =>
      obtain ⟨parts, digits, behind, cut⟩ := dropSixtieths_spec
        (rest.dropWhile Tag.isDigitOrLine).length (rest.dropWhile Tag.isDigitOrLine)
      split at shape
      case h_2 => cases shape
      case h_1 fraction pointed =>
        rw [pointed] at behind cut
        obtain ⟨others, last, rfl⟩ := (List.eq_nil_or_concat parts).resolve_left (cut.mp rfl)
        rw [List.concat_eq_append] at digits behind
        have grouped : ∀ c ∈ fraction, Tag.isDigitOrLine c := List.all_eq_true.mp shape
        obtain ⟨areOthers, areLast⟩ := List.forall_mem_append.mp digits
        obtain ⟨lastNonempty, areLast⟩ := List.forall_mem_singleton.mp areLast
        have sixtieths := areSixtieths_flatMap fun part member => (digits part member).2
        refine ⟨c :: plainly run, others ++ [last ++ '.' :: (plainly fraction ++ [])], ?_, ?_⟩
        · rw [behind, plainly_append, sixtieths.plainly_eq, plainly_cons (by decide)]
          simp [joined, List.flatMap_append]
        · refine List.forall_mem_cons.mpr ⟨.whole (by simp) are, ?_⟩
          refine List.forall_mem_append.mpr ⟨fun part member => ?_, ?_⟩
          · exact .whole (areOthers part member).1 (areOthers part member).2
          · refine List.forall_mem_singleton.mpr (.pointed (by simp [lastNonempty]) ?_ .none)
            exact List.forall_mem_append.mpr ⟨areLast, areDigits_plainly grouped⟩

/-! ## Signs -/

theorem unsigned_cases (chars : List Char) :
    Tag.unsigned chars = chars ∨
      ∃ sign, (sign = '-' ∨ sign = '+') ∧ chars = sign :: Tag.unsigned chars := by
  unfold Tag.unsigned
  split
  case h_1 => exact .inr ⟨'-', .inl rfl, rfl⟩
  case h_2 => exact .inr ⟨'+', .inr rfl, rfl⟩
  case h_3 => exact .inl rfl

/-- What starts a number behind its sign: a digit or a point. -/
def Starts (c : Char) : Prop :=
  isAsciiDigit c ∨ c = '.'

theorem Starts.noMinus {c : Char} (starts : Starts c) : c ≠ '-' := by
  rintro rfl
  rcases starts with digit | point <;> contradiction

theorem Starts.noPlus {c : Char} (starts : Starts c) : c ≠ '+' := by
  rintro rfl
  rcases starts with digit | point <;> contradiction

theorem Starts.noLine {c : Char} (starts : Starts c) : c ≠ '_' := by
  rintro rfl
  rcases starts with digit | point <;> contradiction

theorem Starts.toLower_eq {c : Char} (starts : Starts c) : c.toLower = c := by
  rcases starts with digit | rfl
  · exact Text.toLower_of_isAsciiDigit digit
  · rfl

/-- The sign of a number is in front of it with its underscores as without them. -/
theorem unsigned_withoutLines {chars rest : List Char} {c : Char}
    (front : Tag.unsigned chars = c :: rest) (starts : Starts c) :
    Tag.unsigned (withoutLines chars) = withoutLines (c :: rest) := by
  rcases unsigned_cases chars with same | ⟨sign, signed, same⟩
  · rw [← same, front, withoutLines_cons starts.noLine]
    exact unsigned_eq_self starts.noMinus starts.noPlus
  · rw [same, front]
    rcases signed with rfl | rfl <;> rfl

theorem ofChars_eq_cons {chars : List Char} {c : Char} {rest : Text}
    (same : ofChars chars = .char c :: rest) :
    ∃ others, chars = c :: others ∧ rest = ofChars others := by
  obtain ⟨d, others, rfl, front, behind⟩ := List.map_eq_cons_iff.mp same
  obtain rfl := Text.Symbol.char.inj front
  exact ⟨others, rfl, behind.symm⟩

/-- The sign of a number that is not empty can be told. -/
theorem exists_splitSign {chars : List Char} (nonempty : chars ≠ []) :
    ∃ negative, splitSign (ofChars chars) = .ok (negative, ofChars (Tag.unsigned chars)) := by
  unfold Tag.unsigned
  split
  case h_1 => exact ⟨true, rfl⟩
  case h_2 => exact ⟨false, rfl⟩
  case h_3 noMinus noPlus =>
    obtain ⟨c, rest, rfl⟩ := List.exists_cons_of_ne_nil nonempty
    refine ⟨false, ?_⟩
    unfold splitSign
    split
    case h_1 none => cases none
    case h_2 same =>
      obtain ⟨_, front, _⟩ := ofChars_eq_cons same
      exact absurd front (noMinus _)
    case h_3 same =>
      obtain ⟨_, front, _⟩ := ofChars_eq_cons same
      exact absurd front (noPlus _)
    case h_4 => rfl

/-! ## Integers -/

/-- A zero and octal digits behind it are read, as nothing but zero or to the base eight. -/
theorem readInteger_octal {text : Text} {negative : Bool} {rest : List Char}
    (signed : splitSign (ungrouped text) = .ok (negative, ofChars ('0' :: rest)))
    (octal : ∀ c ∈ rest, IsDigit 8 c) : ∃ atom, readInteger text = .ok atom := by
  have noMark {mark : Char} {behind : Text} (marked : IsDigit 8 mark → False)
      (same : ofChars ('0' :: rest) = .char '0' :: .char mark :: behind) : False := by
    obtain ⟨others, front, behind⟩ := ofChars_eq_cons same
    obtain ⟨_, front', _⟩ := ofChars_eq_cons behind.symm
    obtain ⟨-, rfl⟩ := List.cons.inj front
    exact marked (octal mark (front' ▸ List.mem_cons_self))
  obtain ⟨number, read⟩ := exists_intOfText (List.cons_ne_nil '0' rest)
    (List.forall_mem_cons.mpr ⟨⟨0, rfl, by decide⟩, octal⟩)
  rw [readInteger, signed]
  simp only [bind, Except.bind]
  split
  case h_1 none => cases none
  case h_2 => exact ⟨_, rfl⟩
  case h_3 same =>
    refine (noMark ?_ same).elim
    rintro ⟨value, worth, below⟩
    cases worth
    contradiction
  case h_4 same =>
    refine (noMark ?_ same).elim
    rintro ⟨value, worth, below⟩
    cases worth
  case h_5 =>
    rw [read]
    exact ⟨_, rfl⟩
  case h_6 other => exact (other _ rfl).elim

/-- Digits behind a mark are read to the base of the mark; where there are none, the empty
text is no integer. -/
theorem readInteger_marked {text : Text} {negative : Bool} {rest : List Char} {mark : Char}
    {base : Nat} (marks : mark = 'b' ∧ base = 2 ∨ mark = 'x' ∧ base = 16)
    (signed : splitSign (ungrouped text) = .ok (negative, ofChars ('0' :: mark :: rest)))
    (digits : ∀ c ∈ rest, IsDigit base c) :
    (∃ atom, readInteger text = .ok atom) ∨
      rest = [] ∧ readInteger text = .error (.notInteger base []) := by
  have step : readInteger text = (intOfText base (ofChars rest) >>= fun magnitude =>
      .ok (.integer (if negative then -magnitude else magnitude))) := by
    rw [readInteger, signed]
    rcases marks with ⟨rfl, rfl⟩ | ⟨rfl, rfl⟩ <;> rfl
  rw [step]
  by_cases empty : rest = []
  · subst empty
    refine .inr ⟨rfl, ?_⟩
    rcases marks with ⟨_, rfl⟩ | ⟨_, rfl⟩ <;> rfl
  · obtain ⟨number, read⟩ := exists_intOfText empty digits
    rw [read]
    exact .inl ⟨_, rfl⟩

/-- Where a step succeeds on each of several things, it does so on all of them in turn. -/
theorem exists_mapM_ok {α β ε : Type} {step : α → Except ε β} {items : List α}
    (each : ∀ item ∈ items, ∃ answer, step item = .ok answer) :
    ∃ answers, items.mapM step = .ok answers ∧ answers.length = items.length := by
  induction items with
  | nil => exact ⟨[], rfl, rfl⟩
  | cons item items inductionHypothesis =>
      obtain ⟨⟨answer, done⟩, others⟩ := List.forall_mem_cons.mp each
      obtain ⟨answers, all, length⟩ := inductionHypothesis others
      refine ⟨answer :: answers, ?_, by simp [length]⟩
      rw [List.mapM_cons, done, all]
      rfl

/-- Texts with colons between them are cut into these texts again. -/
theorem split_joined {first : List Char} {parts : List (List Char)}
    (free : ∀ part ∈ first :: parts, ':' ∉ part) :
    Text.split (.char ':') (ofChars (joined first parts)) = (first :: parts).map ofChars := by
  have whole : ofChars (joined first parts) =
      ofChars first ++ (parts.map ofChars).flatMap (.char ':' :: ·) := by
    simp [joined, ofChars, List.map_flatMap, List.flatMap_map]
  rw [whole, Text.split_flatMap]
  · rfl
  · rw [← List.map_cons, List.forall_mem_map]
    intro part member colon
    obtain ⟨c, colon, same⟩ := List.mem_map.mp colon
    exact free part member (Text.Symbol.char.inj same ▸ colon)

theorem parts_eq_nil_of_not_contains {first : List Char} {parts : List (List Char)}
    (free : ¬ (ofChars (joined first parts)).contains (.char ':')) : parts = [] := by
  cases parts with
  | nil => rfl
  | cons part parts => simp [joined, ofChars] at free

/-- The decimal digits below a base are digits to it. -/
theorem isDigit_of_toNat {base : Nat} {c : Char} (low : 0x30 ≤ c.toNat)
    (high : c.toNat < 0x30 + base) (small : base ≤ 10) : IsDigit base c := by
  have visible : isVisible c := Text.isVisible_iff.mpr ⟨by omega, by omega⟩
  have worth := Text.of_isVisible
    (fun c => 0x30 ≤ c.toNat → c.toNat ≤ 0x39 → Text.hexValue? c = some (c.toNat - 0x30))
    (by decide) visible low (by omega)
  exact ⟨_, worth, by omega⟩

theorem isDigit_of_isAsciiDigit {c : Char} (digit : isAsciiDigit c) : IsDigit 10 c := by
  obtain ⟨low, high⟩ := Text.isAsciiDigit_iff.mp digit
  exact isDigit_of_toNat low (by omega) (by omega)

theorem AreDigits.colon_not_mem {digits : List Char} (are : AreDigits digits) : ':' ∉ digits :=
  fun member => nomatch are ':' member

/-- Numbers with colons between them, the first of them not with a zero in front, are read to
the base sixty. -/
theorem readInteger_joined {text : Text} {negative : Bool} {c : Char} {first : List Char}
    {parts : List (List Char)}
    (signed : splitSign (ungrouped text) = .ok (negative, ofChars (joined (c :: first) parts)))
    (noZero : c ≠ '0') (digits : ∀ part ∈ (c :: first) :: parts, part ≠ [] ∧ AreDigits part) :
    ∃ atom, readInteger text = .ok atom := by
  have noZeroFront {behind : Text}
      (same : ofChars (joined (c :: first) parts) = .char '0' :: behind) : False := by
    obtain ⟨_, front, _⟩ := ofChars_eq_cons same
    exact noZero (List.cons.inj front).1
  have each : ∀ part ∈ (c :: first) :: parts, ∃ number, intOfText 10 (ofChars part) = .ok number :=
    fun part member => exists_intOfText (digits part member).1
      fun d digit => isDigit_of_isAsciiDigit ((digits part member).2 d digit)
  obtain ⟨numbers, read, _⟩ := exists_mapM_ok (List.forall_mem_map.mpr each)
  rw [readInteger, signed]
  simp only [bind, Except.bind]
  split
  case h_1 none => cases none
  case h_2 same => exact (noZeroFront same).elim
  case h_3 same => exact (noZeroFront same).elim
  case h_4 same => exact (noZeroFront same).elim
  case h_5 same => exact (noZeroFront same).elim
  case h_6 =>
    split
    case isTrue =>
      rw [split_joined fun part member => (digits part member).2.colon_not_mem, read]
      exact ⟨_, rfl⟩
    case isFalse free =>
      obtain rfl := parts_eq_nil_of_not_contains free
      obtain ⟨number, read⟩ := each _ List.mem_cons_self
      rw [joined, List.flatMap_nil, List.append_nil, read]
      exact ⟨_, rfl⟩

/-- A decimal integer is digits with colons between them, without a zero in front. -/
theorem isDecimalInteger_spec {chars : List Char} (shape : Tag.isDecimalInteger chars) :
    ∃ c rest first parts, chars = c :: rest ∧ isAsciiDigit c ∧ c ≠ '0' ∧
      withoutLines chars = joined (c :: first) parts ∧
      ∀ part ∈ (c :: first) :: parts, part ≠ [] ∧ AreDigits part := by
  unfold Tag.isDecimalInteger at shape
  split at shape
  case h_2 => cases shape
  case h_1 c rest =>
    simp only [Bool.and_eq_true, bne_iff_ne, ne_eq] at shape
    obtain ⟨⟨digit, noZero⟩, shape⟩ := shape
    obtain ⟨run, grouped, whole⟩ := exists_run rest
    obtain ⟨parts, digits, behind, _⟩ := dropSixtieths_spec
      (rest.dropWhile Tag.isDigitOrLine).length (rest.dropWhile Tag.isDigitOrLine)
    have nothing : (Tag.dropSixtieths (rest.dropWhile Tag.isDigitOrLine).length
        (rest.dropWhile Tag.isDigitOrLine)).2 = [] := by
      split at shape
      case h_1 ended => rw [ended]; rfl
      case h_2 => exact List.isEmpty_iff.mp shape
    have sixtieths := areSixtieths_flatMap fun part member => (digits part member).2
    refine ⟨c, rest, withoutLines run, parts, rfl, digit, noZero, ?_, ?_⟩
    · rw [nothing, List.append_nil] at behind
      rw [whole, behind, withoutLines_cons (by rintro rfl; cases digit), withoutLines_append,
        sixtieths.withoutLines_eq]
      rfl
    · refine List.forall_mem_cons.mpr ⟨⟨by simp, ?_⟩, digits⟩
      exact List.forall_mem_cons.mpr ⟨digit, areDigits_withoutLines grouped⟩

/-- The sign of a number can be told, and what is behind it lacks the underscores. -/
theorem exists_splitSign_of_front {chars rest : List Char} {c : Char}
    (front : Tag.unsigned chars = c :: rest) (starts : Starts c) :
    ∃ negative, splitSign (ungrouped (ofChars chars)) =
      .ok (negative, ofChars (withoutLines (c :: rest))) := by
  have unsigned := unsigned_withoutLines front starts
  have nonempty : withoutLines chars ≠ [] := by
    intro empty
    rw [empty, withoutLines_cons starts.noLine] at unsigned
    cases unsigned
  rw [ungrouped_ofChars, ← unsigned]
  exact exists_splitSign nonempty

/-- Behind the mark of its base a number is read, unless there is no digit. -/
theorem readInteger_of_mark {chars rest : List Char} {mark : Char} {base : Nat}
    (front : Tag.unsigned chars = '0' :: mark :: rest)
    (marks : mark = 'b' ∧ base = 2 ∨ mark = 'x' ∧ base = 16)
    (digits : ∀ c ∈ rest, IsDigit base c ∨ c = '_') :
    (∃ atom, readInteger (ofChars chars) = .ok atom) ∨
      (∀ c ∈ rest, c = '_') ∧ readInteger (ofChars chars) = .error (.notInteger base []) := by
  obtain ⟨negative, signed⟩ := exists_splitSign_of_front front (.inl rfl)
  have noLine : mark ≠ '_' := by rcases marks with ⟨rfl, _⟩ | ⟨rfl, _⟩ <;> decide
  rw [withoutLines_cons (by decide), withoutLines_cons noLine] at signed
  refine (readInteger_marked marks signed fun c member => ?_).imp_right fun ⟨empty, failed⟩ => ?_
  · obtain ⟨member, noLine⟩ := List.mem_filter.mp member
    exact (digits c member).resolve_right (of_decide_eq_true noLine)
  · exact ⟨by simpa [withoutLines] using empty, failed⟩

/-- A plain scalar of the shape of an integer is read, but where no digit is behind the mark
of its base. -/
theorem readInteger_spec {chars : List Char} (shape : Tag.isInteger chars) :
    (∃ atom, readInteger (ofChars chars) = .ok atom) ∨
      ∃ mark base lines, Tag.unsigned chars = '0' :: mark :: lines ∧
        (mark = 'b' ∧ base = 2 ∨ mark = 'x' ∧ base = 16) ∧ (∀ c ∈ lines, c = '_') ∧
        readInteger (ofChars chars) = .error (.notInteger base []) := by
  unfold Tag.isInteger at shape
  split at shape
  case h_1 front =>
    obtain ⟨negative, signed⟩ := exists_splitSign_of_front front (.inl rfl)
    exact .inl (readInteger_octal signed (by simp))
  case h_2 rest front =>
    have digits : ∀ c ∈ rest, IsDigit 2 c ∨ c = '_' := by
      intro c member
      simp only [Bool.and_eq_true, List.all_eq_true, Bool.or_eq_true, beq_iff_eq] at shape
      rcases shape.2 c member with (rfl | rfl) | line
      · exact .inl ⟨0, rfl, by decide⟩
      · exact .inl ⟨1, rfl, by decide⟩
      · exact .inr line
    exact (readInteger_of_mark front (.inl ⟨rfl, rfl⟩) digits).imp_right fun bare =>
      ⟨'b', 2, rest, front, .inl ⟨rfl, rfl⟩, bare⟩
  case h_3 rest front =>
    have digits : ∀ c ∈ rest, IsDigit 16 c ∨ c = '_' := by
      intro c member
      simp only [Bool.and_eq_true, List.all_eq_true, Bool.or_eq_true, beq_iff_eq] at shape
      rcases shape.2 c member with digit | line
      · obtain ⟨value, worth⟩ := Option.isSome_iff_exists.mp digit
        exact .inl ⟨value, worth, Text.hexValue?_lt worth⟩
      · exact .inr line
    exact (readInteger_of_mark front (.inr ⟨rfl, rfl⟩) digits).imp_right fun bare =>
      ⟨'x', 16, rest, front, .inr ⟨rfl, rfl⟩, bare⟩
  case h_4 rest _ _ _ front =>
    obtain ⟨negative, signed⟩ := exists_splitSign_of_front front (.inl rfl)
    rw [withoutLines_cons (by decide)] at signed
    refine .inl (readInteger_octal signed fun c member => ?_)
    obtain ⟨member, noLine⟩ := List.mem_filter.mp member
    simp only [Bool.and_eq_true, List.all_eq_true, Bool.or_eq_true, beq_iff_eq,
      decide_eq_true_eq] at shape noLine
    obtain ⟨low, high⟩ := (shape.2 c member).resolve_right noLine
    rw [Char.le_def, UInt32.le_iff_toNat_le] at low high
    exact isDigit_of_toNat low (Nat.lt_succ_of_le high) (by decide)
  case h_5 =>
    obtain ⟨c, rest, first, parts, front, digit, noZero, whole, digits⟩ :=
      isDecimalInteger_spec shape
    obtain ⟨negative, signed⟩ := exists_splitSign_of_front front (.inl digit)
    rw [← front, whole] at signed
    exact .inl (readInteger_joined signed noZero digits)

/-! ## Fractional numbers -/

/-- The names of infinity and of what is no number. -/
def floatWords : List String :=
  [".inf", ".Inf", ".INF", "-.inf", "-.Inf", "-.INF", "+.inf", "+.Inf", "+.INF",
    ".nan", ".NaN", ".NAN"]

/-- The shape of a fractional number is one of its names, or decimals with colons between
them behind the sign. -/
theorem isFloat_spec {chars : List Char} (shape : Tag.isFloat chars) :
    String.ofList chars ∈ floatWords ∨
      ∃ c rest first parts, Tag.unsigned chars = c :: rest ∧ Starts c ∧
        plainly (c :: rest) = joined first parts ∧ ∀ part ∈ first :: parts, IsDecimal part := by
  simp only [Tag.isFloat, Bool.or_eq_true] at shape
  rcases shape with ((pointed | infinite) | noNumber) | fraction
  · obtain ⟨c, rest, front, digit, first, parts, whole, decimals⟩ := isPointed_spec pointed
    exact .inr ⟨c, rest, first, parts, front, .inl digit, front ▸ whole, decimals⟩
  · left
    rw [List.contains_iff_mem] at infinite
    have words : ∀ word ∈ [".inf", ".Inf", ".INF"], String.ofList word.toList ∈ floatWords ∧
        String.ofList ('-' :: word.toList) ∈ floatWords ∧
        String.ofList ('+' :: word.toList) ∈ floatWords := by decide
    obtain ⟨alone, behindMinus, behindPlus⟩ := words _ infinite
    rw [String.toList_ofList] at alone behindMinus behindPlus
    rcases unsigned_cases chars with same | ⟨sign, rfl | rfl, same⟩
    · rwa [same] at alone
    · rwa [same]
    · rwa [same]
  · left
    have words : ∀ word ∈ [".nan", ".NaN", ".NAN"], word ∈ floatWords := by decide
    exact words _ (List.contains_iff_mem.mp noNumber)
  · right
    split at fraction
    case h_2 => cases fraction
    case h_1 c rest =>
      obtain ⟨digit, shape⟩ := Bool.and_eq_true_iff.mp fraction
      obtain ⟨run, grouped, whole⟩ := exists_run rest
      obtain ⟨read, are⟩ := areDigits_plainly_cons digit grouped
      refine ⟨'.', c :: rest, _, [], unsigned_eq_self (by decide) (by decide), .inr rfl,
        (List.append_nil _).symm, List.forall_mem_singleton.mpr ?_⟩
      rw [plainly_cons (by decide), whole, ← List.cons_append, plainly_append, read]
      exact (.pointed (List.cons_ne_nil c _) are (isTail_of_isExponent shape) :
        IsDecimal ([] ++ '.' :: ((c :: plainly run) ++ _)))

theorem joined_visible {first : List Char} {parts : List (List Char)}
    (decimals : ∀ part ∈ first :: parts, IsDecimal part) :
    ∀ c ∈ joined first parts, isVisible c := by
  obtain ⟨decimal, others⟩ := List.forall_mem_cons.mp decimals
  refine List.forall_mem_append.mpr ⟨decimal.visible, fun c member => ?_⟩
  obtain ⟨part, inside, member⟩ := List.mem_flatMap.mp member
  rcases List.mem_cons.mp member with rfl | member
  · rfl
  · exact (others part inside).visible c member

/-- Reading a number drops its underscores and its capitals, then its sign. -/
theorem exists_splitSign_lowercase {chars rest first : List Char} {c : Char}
    {parts : List (List Char)} (front : Tag.unsigned chars = c :: rest) (starts : Starts c)
    (whole : plainly (c :: rest) = joined first parts)
    (decimals : ∀ part ∈ first :: parts, IsDecimal part) :
    ∃ negative, splitSign (Text.lowercase (ungrouped (ofChars chars))) =
      .ok (negative, ofChars (joined first parts)) := by
  have unsigned := unsigned_withoutLines front starts
  have digits : ∀ d ∈ withoutLines (c :: rest), isVisible d := by
    intro d member
    refine Text.isVisible_of_toLower (joined_visible decimals _ ?_)
    rw [← whole]
    exact List.mem_map_of_mem member
  have split : (∀ d ∈ withoutLines chars, isVisible d) ∧
      Tag.unsigned (plainly chars) = plainly (c :: rest) := by
    rcases unsigned_cases (withoutLines chars) with same | ⟨sign, signed, same⟩
    · rw [plainly, ← same, unsigned]
      refine ⟨digits, ?_⟩
      rw [← plainly, plainly_cons starts.noLine, starts.toLower_eq]
      exact unsigned_eq_self starts.noMinus starts.noPlus
    · rw [plainly, same, unsigned]
      rcases signed with rfl | rfl
      · exact ⟨List.forall_mem_cons.mpr ⟨rfl, digits⟩, rfl⟩
      · exact ⟨List.forall_mem_cons.mpr ⟨rfl, digits⟩, rfl⟩
  have nonempty : plainly chars ≠ [] := by
    intro empty
    rw [empty, plainly_cons starts.noLine] at split
    cases split.2
  rw [ungrouped_ofChars, Text.lowercase_of_isVisible split.1, ← whole, ← split.2]
  exact exists_splitSign nonempty

/-- Decimals with colons between them are read, unless there are too many of them. -/
theorem readFloat_joined {text : Text} {negative : Bool} {first : List Char}
    {parts : List (List Char)}
    (signed : splitSign (Text.lowercase (ungrouped text)) =
      .ok (negative, ofChars (joined first parts)))
    (decimals : ∀ part ∈ first :: parts, IsDecimal part) :
    (∃ atom, readFloat text = .ok atom) ∨
      readFloat text = .error .numberTooLarge ∧ Decimal.power 2 1024 ≤ 60 ^ parts.length := by
  obtain ⟨numbers, read, length⟩ := exists_mapM_ok
    (List.forall_mem_map.mpr fun part member => exists_floatOfText (decimals part member))
  rw [readFloat, signed]
  simp only [bind, Except.bind]
  split
  case isTrue => exact .inl ⟨_, rfl⟩
  case isFalse =>
    split
    case isTrue => exact .inl ⟨_, rfl⟩
    case isFalse =>
      split
      case isTrue =>
        rw [split_joined fun part member => (decimals part member).colon_not_mem, read]
        dsimp only
        rcases sumSixtieths_spec 0.0 1 numbers.reverse with
          ⟨value, done⟩ | ⟨failed, place, within, large⟩
        · rw [done]
          exact .inl ⟨_, rfl⟩
        · rw [failed]
          refine .inr ⟨rfl, Nat.le_trans large ?_⟩
          rw [Nat.one_mul]
          rw [List.length_reverse, length, List.length_map, List.length_cons] at within
          exact Nat.pow_le_pow_right (by decide) (Nat.le_of_lt_succ within)
      case isFalse free =>
        obtain rfl := parts_eq_nil_of_not_contains free
        obtain ⟨number, read⟩ := exists_floatOfText (decimals _ List.mem_cons_self)
        rw [joined, List.flatMap_nil, List.append_nil, read]
        exact .inl ⟨_, rfl⟩

end ManifestAudit.Yaml.Atom
