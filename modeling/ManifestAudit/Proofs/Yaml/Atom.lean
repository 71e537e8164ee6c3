import ManifestAudit.Proofs.Yaml.Atom.Shape

/-!
# Plain scalars without a value

The shape of a plain scalar nearly always keeps what it promises. It does not in three ways
(`PlainFault`): a date or a time that does not exist, a mark of a base with no digit behind
it, and so many sixtieths that the first of them is worth more than any fractional number.
-/

namespace ManifestAudit.Yaml.Atom

open Text (ofChars isVisible)

/-- Why the characters of a plain scalar may have no value. -/
inductive PlainFault (chars : List Char) : Fault → Prop where
  | moment {moment : Tag.Moment} {fault : MomentFault}
      (shape : Tag.moment? true chars = some moment)
      (missing : readMoment moment = .error fault) : PlainFault chars (.noMoment fault)
  | bareMark {mark : Char} {base : Nat} {lines : List Char}
      (front : Tag.unsigned chars = '0' :: mark :: lines)
      (marks : mark = 'b' ∧ base = 2 ∨ mark = 'x' ∧ base = 16)
      (bare : ∀ c ∈ lines, c = '_') : PlainFault chars (.notInteger base [])
  | sixtieths (shape : Tag.isFloat chars)
      (many : Decimal.power 2 1024 ≤ 60 ^ chars.count ':') : PlainFault chars .numberTooLarge

/-! ## Colons -/

theorem eq_colon_of_toLower {c : Char} (colon : c.toLower = ':') : c = ':' := by
  have visible : isVisible c := Text.isVisible_of_toLower (colon ▸ rfl)
  exact Text.of_isVisible (fun c => c.toLower = ':' → c = ':') (by decide) visible colon

/-- Reading a number adds no colon to it. -/
theorem count_colon_plainly_le (chars : List Char) :
    (plainly chars).count ':' ≤ chars.count ':' := by
  calc (plainly chars).count ':'
      = (withoutLines chars).countP ((· == ':') ∘ Char.toLower) := List.countP_map
    _ ≤ (withoutLines chars).count ':' :=
        List.countP_mono_left fun c _ colon => by
          simpa using eq_colon_of_toLower (by simpa using colon)
    _ = chars.count ':' := List.count_filter (by decide)

theorem count_colon_unsigned_le (chars : List Char) :
    (Tag.unsigned chars).count ':' ≤ chars.count ':' := by
  rcases unsigned_cases chars with same | ⟨sign, signed, same⟩
  · exact Nat.le_of_eq (by rw [same])
  · have longer : (Tag.unsigned chars).count ':' ≤ (sign :: Tag.unsigned chars).count ':' :=
      List.count_le_count_cons
    rwa [← same] at longer

theorem length_le_count_joined (first : List Char) (parts : List (List Char)) :
    parts.length ≤ (joined first parts).count ':' := by
  induction parts with
  | nil => simp
  | cons part parts inductionHypothesis =>
      simp only [joined, List.flatMap_cons, List.count_append, List.count_cons, beq_self_eq_true,
        if_true, List.length_cons] at inductionHypothesis ⊢
      omega

/-! ## The tags -/

theorem readBoolean_of_word {chars : List Char}
    (word : String.ofList chars ∈ Tag.booleanWords) :
    ∃ atom, readBoolean (ofChars chars) = .ok atom := by
  have words : ∀ word ∈ Tag.booleanWords, (readBoolean (Text.ofString word)).isOk := by
    decide +kernel
  have read := words _ word
  rw [Text.ofString, String.toList_ofList] at read
  cases result : readBoolean (ofChars chars) with
  | ok atom => exact ⟨atom, rfl⟩
  | error fault =>
      rw [result] at read
      cases read

/-- A plain scalar of the shape of a fractional number is read, but where it has too many
sixtieths. -/
theorem readFloat_spec {chars : List Char} (shape : Tag.isFloat chars) :
    (∃ atom, readFloat (ofChars chars) = .ok atom) ∨
      readFloat (ofChars chars) = .error .numberTooLarge ∧
        Decimal.power 2 1024 ≤ 60 ^ chars.count ':' := by
  rcases isFloat_spec shape with word | ⟨c, rest, first, parts, front, starts, whole, decimals⟩
  · left
    have words : ∀ word ∈ floatWords, (readFloat (Text.ofString word)).isOk := by
      decide +kernel
    have read := words _ word
    rw [Text.ofString, String.toList_ofList] at read
    cases result : readFloat (ofChars chars) with
    | ok atom => exact ⟨atom, rfl⟩
    | error fault =>
        rw [result] at read
        cases read
  · obtain ⟨negative, signed⟩ := exists_splitSign_lowercase front starts whole decimals
    refine (readFloat_joined signed decimals).imp_right fun ⟨failed, many⟩ => ⟨failed, ?_⟩
    refine Nat.le_trans many (Nat.pow_le_pow_right (by decide) ?_)
    calc parts.length
        ≤ (joined first parts).count ':' := length_le_count_joined first parts
      _ = (plainly (c :: rest)).count ':' := by rw [whole]
      _ ≤ (Tag.unsigned chars).count ':' := front ▸ count_colon_plainly_le _
      _ ≤ chars.count ':' := count_colon_unsigned_le chars

theorem bind_eq_some_mono {α β : Type} {read : Option α} {strict free : α → Option β} {result : β}
    (each : ∀ part, strict part = some result → free part = some result) :
    read >>= strict = some result → read >>= free = some result := by
  cases read with
  | none => exact id
  | some part => exact each part

/-- What is a date or time by the strict rule is one by the other. -/
theorem moment?_of_strict {chars : List Char} {moment : Tag.Moment} :
    Tag.moment? true chars = some moment → Tag.moment? false chars = some moment := by
  unfold Tag.moment?
  refine bind_eq_some_mono fun (year, rest) => ?_
  refine bind_eq_some_mono fun rest => ?_
  refine bind_eq_some_mono fun (month, rest) => ?_
  refine bind_eq_some_mono fun rest => ?_
  refine bind_eq_some_mono fun (day, rest) => ?_
  -- The rules differ in the digits of a date alone.
  cases rest with
  | nil =>
      dsimp only
      split
      case isTrue => exact nofun
      case isFalse => exact id
  | cons c behind => exact id

/-- A plain scalar of the shape of a date or a time is one, if there is such a date and time. -/
theorem readTimestamp_spec {chars : List Char} {moment : Tag.Moment}
    (ends : chars.getLast? ≠ some '\n') (shape : Tag.moment? true chars = some moment) :
    readTimestamp (ofChars chars) = (readMoment moment).mapError .noMoment := by
  unfold readTimestamp
  dsimp only
  rw [Text.toChars?_ofChars, Option.getD_some, if_neg ends, moment?_of_strict shape]

/-- A plain scalar that its tag does not fit is malformed, or has no value for one of the
three reasons. -/
theorem plainFault_of_ofText {chars : List Char} {fault : Fault}
    (ends : chars.getLast? ≠ some '\n')
    (unfit : ofText (Tag.ofPlain (ofChars chars)) (ofChars chars) = .error fault) :
    fault = .malformed ∨ PlainFault chars fault := by
  have tag : Tag.ofPlain (ofChars chars) = Tag.ofPlainChars chars := by
    rw [Tag.ofPlain, Text.toChars?_ofChars]
  have kept : (if chars.length ≠ 1 ∧ chars.getLast? = some '\n' then chars.dropLast else chars) =
      chars :=
    if_neg fun ended => ends ended.2
  rw [tag, Tag.ofPlainChars] at unfit
  simp only [kept] at unfit
  split at unfit
  case isTrue word =>
    obtain ⟨atom, read⟩ := readBoolean_of_word (List.contains_iff_mem.mp word)
    cases read.symm.trans unfit
  case isFalse =>
  split at unfit
  case isTrue shape =>
    rcases readFloat_spec shape with ⟨atom, read⟩ | ⟨failed, many⟩
    · cases read.symm.trans unfit
    · cases failed.symm.trans unfit
      exact .inr (.sixtieths shape many)
  case isFalse =>
  split at unfit
  case isTrue shape =>
    rcases readInteger_spec shape with
      ⟨atom, read⟩ | ⟨mark, base, lines, front, marks, bare, failed⟩
    · cases read.symm.trans unfit
    · cases failed.symm.trans unfit
      exact .inr (.bareMark front marks bare)
  case isFalse =>
  split at unfit
  case isTrue => exact .inl (Except.error.inj unfit).symm
  case isFalse =>
  split at unfit
  case isTrue => cases unfit
  case isFalse =>
  split at unfit
  case isTrue shape =>
    obtain ⟨moment, shape⟩ := Option.isSome_iff_exists.mp shape
    have read : readTimestamp (ofChars chars) = .error fault := unfit
    rw [readTimestamp_spec ends shape] at read
    cases result : readMoment moment with
    | ok atom =>
        rw [result] at read
        cases read
    | error missing =>
        rw [result] at read
        cases read
        exact .inr (.moment shape result)
  case isFalse =>
  split at unfit
  case isTrue => exact .inl (Except.error.inj unfit).symm
  case isFalse =>
  split at unfit
  case isTrue => exact .inl (Except.error.inj unfit).symm
  case isFalse => cases unfit

end ManifestAudit.Yaml.Atom
