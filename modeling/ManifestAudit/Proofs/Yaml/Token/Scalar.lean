import ManifestAudit.Proofs.Text
import ManifestAudit.Proofs.Yaml.Contract
import ManifestAudit.Yaml.Token.Scalar

/-!
# What scanning a scalar may come to

A scan never leaves its text: wherever it gets to, what is left is a stretch at the end of
the text (`Cursor.IsIn`). Nearly every fault of a scan is that the text is malformed. The
one other fault is a code escape beyond the last character, and then the text holds such an
escape (`LargeEscape`). `Reads` is the contract that all of these functions keep.
-/

namespace ManifestAudit.Yaml

/-- A code escape beyond the last character stands in a text: a backslash, the letter U, and
eight hexadecimal digits. -/
def LargeEscape (text : List Char) (code : Nat) : Prop :=
  0x110000 ≤ code ∧ ∃ digits, '\\' :: 'U' :: digits <:+: text ∧
    Text.takeHex? 8 digits = some (code, [])

/-- The faults that scanning a text may come to. -/
def Unscannable (text : List Char) (fault : Fault) : Prop :=
  fault = .malformed ∨ ∃ code, fault = .codeTooLarge code ∧ LargeEscape text code

namespace Cursor

/-- The cursor is at a place in a text. -/
def IsIn (cursor : Cursor) (text : List Char) : Prop :=
  cursor.rest <:+ text

variable {text : List Char} {cursor : Cursor}

theorem isIn_start (text : List Char) : (Cursor.start text).IsIn text :=
  List.suffix_rfl

theorem IsIn.advance (place : cursor.IsIn text) : cursor.advance.IsIn text := by
  unfold Cursor.advance
  split
  case h_1 => exact place
  case h_2 c rest left =>
    have behind : rest <:+ text :=
      (List.suffix_cons c rest).trans (by simpa [IsIn, left] using place)
    split
    · exact behind
    · split <;> exact behind

theorem IsIn.advanceBy (place : cursor.IsIn text) (count : Nat) :
    (cursor.advanceBy count).IsIn text := by
  induction count generalizing cursor with
  | zero => exact place
  | succ count inductionHypothesis => exact inductionHypothesis place.advance

theorem IsIn.take (place : cursor.IsIn text) (accepts : Char → Bool) :
    (cursor.take accepts).2.IsIn text :=
  place.advanceBy _

theorem IsIn.skip (place : cursor.IsIn text) (accepts : Char → Bool) :
    (cursor.skip accepts).IsIn text :=
  place.take accepts

theorem IsIn.skipSpaces (place : cursor.IsIn text) : cursor.skipSpaces.IsIn text :=
  place.skip _

theorem IsIn.skipComment (place : cursor.IsIn text) : cursor.skipComment.IsIn text := by
  unfold Cursor.skipComment
  dsimp only
  split
  · exact place.skipSpaces.skip _
  · exact place.skipSpaces

theorem IsIn.lineBreak (place : cursor.IsIn text) {c : Char} {after : Cursor}
    (broken : cursor.lineBreak? = some (c, after)) : after.IsIn text := by
  unfold Cursor.lineBreak? at broken
  grind [IsIn.advance, IsIn.advanceBy]

theorem IsIn.skipBreak (place : cursor.IsIn text) : cursor.skipBreak.IsIn text := by
  unfold Cursor.skipBreak
  split
  case h_1 broken => exact place.lineBreak broken
  case h_2 => exact place

/-- A character that the cursor sees, other than the one for the end, is left. -/
theorem rest_eq_cons {c : Char} (seen : cursor.peek = c) (notEnd : c ≠ endMark) :
    ∃ rest, cursor.rest = c :: rest := by
  unfold peek at seen
  cases left : cursor.rest with
  | nil => exact absurd (by simpa [left] using seen.symm) notEnd
  | cons first rest => exact ⟨rest, by simpa [left] using seen⟩

/-- Moving over a character leaves what stood behind it. -/
theorem rest_advance {c : Char} {rest : List Char} (left : cursor.rest = c :: rest) :
    cursor.advance.rest = rest := by
  unfold advance
  rw [left]
  split
  case h_1 none => cases none
  case h_2 same =>
    obtain ⟨rfl, rfl⟩ := List.cons.inj same
    split
    · rfl
    · split <;> rfl

end Cursor

/-- A scan either gets to a place in the text or refuses it for a reason in the text. -/
def Reads {α : Type} (text : List Char) (result : Except Fault (α × Cursor)) : Prop :=
  Yields (Unscannable text) (fun scanned => scanned.2.IsIn text) result

/-- A text may be refused as malformed. -/
theorem Reads.malformed {α : Type} {text : List Char} :
    Reads text (.error .malformed : Except Fault (α × Cursor)) :=
  .inl rfl

namespace Scalar

variable {text : List Char} {cursor : Cursor}

theorem reads_quotedBreaks (place : cursor.IsIn text) (fuel : Nat) :
    Reads text (quotedBreaks fuel cursor) := by
  induction fuel generalizing cursor with
  | zero => exact Reads.malformed
  | succ fuel inductionHypothesis =>
      unfold quotedBreaks
      dsimp only
      split
      · exact Reads.malformed
      · split
        case h_1 => exact place.skip _
        case h_2 broken =>
          exact Yields.bind (inductionHypothesis ((place.skip _).lineBreak broken))
            fun scanned within => within

theorem reads_quotedGap (place : cursor.IsIn text) (fuel : Nat) :
    Reads text (quotedGap fuel cursor) := by
  unfold quotedGap
  have taken := place.take fun c => c == ' ' || c == '\t'
  generalize cursor.take _ = blanks at taken ⊢
  obtain ⟨blanks, after⟩ := blanks
  dsimp only
  split
  · exact Reads.malformed
  · split
    case h_1 => exact taken
    case h_2 broken =>
      refine Yields.bind (reads_quotedBreaks (taken.lineBreak broken) fuel) fun scanned within => ?_
      split
      · exact within
      · split <;> exact within

/-- A code is refused only if it is too large. -/
theorem codeEscape_eq_error {code : Nat} {fault : Fault} (failed : codeEscape code = .error fault) :
    fault = .codeTooLarge code ∧ 0x110000 ≤ code := by
  unfold codeEscape at failed
  split at failed
  case isTrue large => exact ⟨(Except.error.inj failed).symm, large⟩
  case isFalse => cases failed

/-- Only the longest of the code escapes has room for a code that is too large. -/
theorem codeWidth?_eq_some {letter : Char} {width : Nat}
    (escape : codeWidth? letter = some width) : width ≤ 4 ∨ letter = 'U' ∧ width = 8 := by
  unfold codeWidth? at escape
  split at escape
  all_goals cases escape
  · exact .inl (by omega)
  · exact .inl (by omega)
  · exact .inr ⟨rfl, rfl⟩

/-- The one place where a scan may meet a code that is too large. -/
theorem largeEscape_of_codeWidth? {letter : Char} {width code : Nat} {digits rest : List Char}
    (behind : '\\' :: letter :: digits <:+ text) (escape : codeWidth? letter = some width)
    (taken : Text.takeHex? width digits = some (code, rest)) (large : 0x110000 ≤ code) :
    LargeEscape text code := by
  obtain ⟨alone, below⟩ := Text.takeHex?_eq_some taken
  rcases codeWidth?_eq_some escape with short | ⟨rfl, rfl⟩
  · have : 16 ^ width ≤ 16 ^ 4 := Nat.pow_le_pow_right (by omega) short
    omega
  · refine ⟨large, digits.take 8, List.IsInfix.trans ?_ behind.isInfix, alone⟩
    exact (List.prefix_append_right_inj ['\\', 'U']).mpr (List.take_prefix 8 digits) |>.isInfix

theorem reads_quotedEscape (behind : '\\' :: cursor.rest <:+ text) (fuel : Nat) :
    Reads text (quotedEscape fuel cursor) := by
  have place : cursor.IsIn text := (List.suffix_cons '\\' cursor.rest).trans behind
  unfold quotedEscape
  dsimp only
  split
  case h_1 => exact place.advance
  case h_2 width _ escape =>
    split
    case h_1 => exact Reads.malformed
    case h_2 code _ taken =>
      cases written : codeEscape code with
      | ok symbol => exact place.advanceBy _
      | error fault =>
          obtain ⟨rfl, large⟩ := codeEscape_eq_error written
          have notEnd : cursor.peek ≠ endMark := by
            rintro ended
            rw [ended] at escape
            cases escape
          obtain ⟨digits, left⟩ := Cursor.rest_eq_cons rfl notEnd
          rw [Cursor.rest_advance left] at taken
          rw [left] at behind
          exact .inr ⟨code, rfl, largeEscape_of_codeWidth? behind escape taken large⟩
  case h_3 =>
    split
    case h_1 => exact Reads.malformed
    case h_2 broken =>
      exact (reads_quotedBreaks (place.lineBreak broken) fuel).bind fun scanned within => within

theorem reads_quotedWord (place : cursor.IsIn text) (double : Bool) (fuel : Nat) :
    Reads text (quotedWord double fuel cursor) := by
  induction fuel generalizing cursor with
  | zero => exact Reads.malformed
  | succ fuel inductionHypothesis =>
      unfold quotedWord
      dsimp only
      have taken := place.take fun c => !(c == '\'' || c == '"' || c == '\\' || isGapOrEnd c)
      generalize cursor.take _ = run at taken ⊢
      split
      case isTrue => exact (inductionHypothesis (taken.advanceBy 2)).bind fun _ within => within
      case isFalse =>
        split
        case isTrue => exact (inductionHypothesis taken.advance).bind fun _ within => within
        case isFalse =>
          split
          case isTrue escape =>
            simp only [Bool.and_eq_true, beq_iff_eq] at escape
            obtain ⟨rest, left⟩ := Cursor.rest_eq_cons escape.2 (by decide)
            have behind : '\\' :: run.2.advance.rest <:+ text := by
              rw [Cursor.rest_advance left, ← left]
              exact taken
            refine (reads_quotedEscape behind fuel).bind fun _ within => ?_
            exact (inductionHypothesis within).bind fun _ within => within
          case isFalse => exact taken

theorem reads_quotedWords (place : cursor.IsIn text) (double : Bool) (quote : Char) (fuel : Nat) :
    Reads text (quotedWords double quote fuel cursor) := by
  induction fuel generalizing cursor with
  | zero => exact Reads.malformed
  | succ fuel inductionHypothesis =>
      unfold quotedWords
      split
      case isTrue => exact place.advance
      case isFalse =>
        refine (reads_quotedGap place fuel).bind fun _ within => ?_
        refine (reads_quotedWord within double fuel).bind fun _ within => ?_
        exact (inductionHypothesis within).bind fun _ within => within

/-- Scanning a quoted scalar keeps the contract. -/
theorem reads_quoted (place : cursor.IsIn text) : Reads text (quoted cursor) := by
  unfold quoted
  refine (reads_quotedWord place.advance _ _).bind fun _ within => ?_
  exact (reads_quotedWords within _ _ _).bind fun _ within => within

/-! ## Plain scalars -/

theorem isIn_plainBreaks (place : cursor.IsIn text) (fuel : Nat) :
    (plainBreaks fuel cursor).2.IsIn text := by
  induction fuel generalizing cursor with
  | zero => exact place
  | succ fuel inductionHypothesis =>
      unfold plainBreaks
      dsimp only
      split
      case h_1 => exact place.skipSpaces
      case h_2 broken =>
        have behind := place.skipSpaces.lineBreak broken
        split
        · exact behind
        · exact inductionHypothesis behind

theorem isIn_plainGap (place : cursor.IsIn text) : (plainGap cursor).cursor.IsIn text := by
  unfold plainGap
  dsimp only
  split
  case h_1 => exact place.take _
  case h_2 after broken =>
    have behind := (place.take _).lineBreak broken
    split
    case isTrue => exact behind
    case isFalse =>
      have within := isIn_plainBreaks behind (after.rest.length + 1)
      split
      case h_1 breaks =>
        rw [breaks] at within
        exact within
      case h_2 breaks =>
        rw [breaks] at within
        split
        · exact within
        · split <;> exact within

/-- A text is empty or ends within a word. -/
def EndsInWord (chars : List Char) : Prop :=
  ∀ c, chars.getLast? = some c → isGapOrEnd c = false

theorem endsInWord_plainWord (flow : Bool) (chars : List Char) :
    EndsInWord (plainWord flow chars) := by
  intro c last
  replace last := List.mem_of_getLast? last
  induction chars with
  | nil => cases last
  | cons first rest inductionHypothesis =>
      simp only [plainWord] at last
      split at last
      case isTrue => cases last
      case isFalse ends =>
        rcases List.mem_cons.mp last with rfl | member
        · simp only [Bool.or_eq_true, not_or] at ends
          exact Bool.eq_false_iff.mpr ends.1.1
        · exact inductionHypothesis member

/-- What is put in front of a text leaves its end. -/
theorem EndsInWord.append {front behind : List Char} (ends : EndsInWord behind)
    (frontEnds : behind = [] → EndsInWord front) : EndsInWord (front ++ behind) := by
  intro c last
  rw [List.getLast?_append] at last
  cases behindLast : behind.getLast? with
  | none =>
      rw [behindLast, Option.none_or] at last
      exact frontEnds (List.getLast?_eq_none_iff.mp behindLast) c last
  | some d =>
      rw [behindLast, Option.some_or] at last
      exact ends c (behindLast.trans last)

/-- The words of a plain scalar lead to a place in the text, and end within a word. -/
theorem plainWords_spec {gap : PlainGap} (place : gap.cursor.IsIn text) (flow : Bool)
    (indent : Int) (fuel : Nat) :
    EndsInWord (plainWords flow indent fuel gap).1 ∧
      (plainWords flow indent fuel gap).2.2.IsIn text := by
  have nothing : EndsInWord [] := fun _ last => nomatch last
  induction fuel generalizing gap with
  | zero => exact ⟨nothing, place⟩
  | succ fuel inductionHypothesis =>
      unfold plainWords
      have wordEnds : EndsInWord
          (if gap.cursor.peek == '#' then [] else plainWord flow gap.cursor.rest) := by
        split
        · exact nothing
        · exact endsInWord_plainWord flow _
      dsimp only
      generalize (if gap.cursor.peek == '#' then [] else plainWord flow gap.cursor.rest) = word
        at wordEnds ⊢
      split
      case isTrue => exact ⟨nothing, place⟩
      case isFalse isWord =>
        have ends : EndsInWord (gap.text ++ word) :=
          wordEnds.append fun empty => absurd (List.isEmpty_iff.mpr empty) isWord
        have next := isIn_plainGap (place.advanceBy word.length)
        split
        case isTrue => exact ⟨ends, next⟩
        case isFalse =>
          obtain ⟨moreEnds, within⟩ := inductionHypothesis next
          exact ⟨moreEnds.append fun _ => ends, within⟩

/-- A plain scalar ends within a word, at a place in the text. -/
theorem plain_spec (place : cursor.IsIn text) (flow : Bool) (indent : Int) :
    EndsInWord (plain flow indent cursor).1 ∧ (plain flow indent cursor).2.2.IsIn text :=
  plainWords_spec place flow indent _

/-! ## Block scalars -/

theorem reads_increment (place : cursor.IsIn text) : Reads text (increment cursor) := by
  unfold increment
  dsimp only
  split
  · exact Reads.malformed
  · split
    · exact place.advance
    · exact place

/-- The header of a block scalar leads to a place in the text. -/
theorem reads_header (place : cursor.IsIn text) : Reads text (header cursor) := by
  unfold header
  extract_lets finish
  have finished (scanned : Header × Cursor) (within : scanned.2.IsIn text) :
      Reads text (finish scanned) := by
    dsimp only [finish]
    split
    case isTrue =>
      split
      · exact within.skipComment.skipBreak
      · exact Reads.malformed
    case isFalse => exact Reads.malformed
  split
  case h_1 chomping _ =>
    exact (reads_increment place.advance).bind fun scanned within =>
      finished (⟨chomping, scanned.1⟩, scanned.2) within
  case h_2 =>
    refine (reads_increment place).bind fun scanned within => ?_
    dsimp only
    split
    case h_1 chomping _ _ =>
      exact finished (⟨chomping, scanned.1⟩, scanned.2.advance) within.advance
    case h_2 => exact finished (⟨.clip, scanned.1⟩, scanned.2) within

theorem isIn_blockIndentation (place : cursor.IsIn text) (fuel widest : Nat) :
    (blockIndentation fuel widest cursor).2.2.IsIn text := by
  induction fuel generalizing cursor widest with
  | zero => exact place
  | succ fuel inductionHypothesis =>
      unfold blockIndentation
      dsimp only
      split
      case h_1 => exact place.skipSpaces
      case h_2 broken => exact inductionHypothesis (place.skipSpaces.lineBreak broken) _

theorem isIn_skipIndentation (place : cursor.IsIn text) (fuel indent : Nat) :
    (skipIndentation fuel indent cursor).IsIn text := by
  induction fuel generalizing cursor with
  | zero => exact place
  | succ fuel inductionHypothesis =>
      unfold skipIndentation
      split
      · exact inductionHypothesis place.advance
      · exact place

theorem isIn_blockBreaks (place : cursor.IsIn text) (indent fuel : Nat) :
    (blockBreaks indent fuel cursor).2.IsIn text := by
  induction fuel generalizing cursor with
  | zero => exact place
  | succ fuel inductionHypothesis =>
      have indented := isIn_skipIndentation place indent indent
      unfold blockBreaks
      dsimp only
      split
      case h_1 => exact indented
      case h_2 broken => exact inductionHypothesis (indented.lineBreak broken)

theorem isIn_blockLines (place : cursor.IsIn text) (folded : Bool) (indent fuel : Nat)
    (breaks : List Char) : (blockLines folded indent fuel breaks cursor).2.2.2.IsIn text := by
  induction fuel generalizing cursor breaks with
  | zero => exact place
  | succ fuel inductionHypothesis =>
      have line := place.take (!isLineEnd ·)
      unfold blockLines
      dsimp only
      split
      case isTrue =>
        split
        case h_1 broken =>
          have behind := isIn_blockBreaks (line.lineBreak broken) indent fuel
          split
          · exact inductionHypothesis behind _
          · exact behind
        case h_2 =>
          have behind := isIn_blockBreaks line indent fuel
          split
          · exact inductionHypothesis behind _
          · exact behind
      case isFalse => exact place

/-- Scanning a block scalar keeps the contract. -/
theorem reads_block (place : cursor.IsIn text) (folded : Bool) (parent : Int) :
    Reads text (block folded parent cursor) := by
  unfold block
  refine (reads_header place.advance).bind fun scanned within => ?_
  obtain ⟨⟨chomping, increment⟩, after⟩ := scanned
  cases increment with
  | none =>
      have lines := isIn_blockLines (isIn_blockIndentation within (after.rest.length + 1) 0) folded
      dsimp only
      cases chomping <;> exact lines _ _ _
  | some increment =>
      have lines := isIn_blockLines (isIn_blockBreaks within
        (max (parent + 1) 1 + increment - 1).toNat (after.rest.length + 1)) folded
      dsimp only
      cases chomping <;> exact lines _ _ _

end Scalar

end ManifestAudit.Yaml
