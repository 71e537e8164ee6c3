import ManifestAudit.Proofs.Yaml.Token.Scalar
import ManifestAudit.Yaml.Token.Property

/-!
# What scanning a property may come to

Of the tokens of a text two are worth watching (`Token.IsFrom`): a plain scalar, which ends
within a word, and the token that stands for a scan that failed, which has a reason in the
text. Names, tags and directive lines give neither.
-/

namespace ManifestAudit.Yaml

/-- A token that scanning a text may give. -/
def Token.IsFrom (text : List Char) : Token → Prop
  | .scalar written true => ∃ chars, written = Text.ofChars chars ∧ Scalar.EndsInWord chars
  | .broken fault => Unscannable text fault
  | _ => True

/-- A scan of a token gives one that the text may give and gets to a place in the text, or
refuses the text for a reason in it. -/
def ReadsToken (text : List Char) (result : Except Fault (Token × Cursor)) : Prop :=
  Yields (Unscannable text)
    (fun scanned => scanned.1.IsFrom text ∧ scanned.2.IsIn text) result

namespace Property

variable {text : List Char} {cursor : Cursor}

theorem reads_name (place : cursor.IsIn text) : Reads text (name cursor) := by
  have taken := place.take isNameChar
  unfold name
  split
  case h_1 => exact Reads.malformed
  case h_2 chars after _ run =>
    rw [run] at taken
    exact taken

theorem reads_anchorName (place : cursor.IsIn text) : Reads text (anchorName cursor) := by
  refine (reads_name place).bind fun _ within => ?_
  dsimp only
  split
  · exact within
  · exact Reads.malformed

theorem reads_percentBytes (place : cursor.IsIn text) (fuel : Nat) :
    Reads text (percentBytes fuel cursor) := by
  induction fuel generalizing cursor with
  | zero => exact place
  | succ fuel inductionHypothesis =>
      unfold percentBytes
      split
      case isTrue =>
        split
        case h_1 => exact Reads.malformed
        case h_2 => exact (inductionHypothesis (place.advanceBy 3)).bind fun _ within => within
      case isFalse => exact place

theorem reads_uriChars (place : cursor.IsIn text) (fuel : Nat) :
    Reads text (uriChars fuel cursor) := by
  induction fuel generalizing cursor with
  | zero => exact place
  | succ fuel inductionHypothesis =>
      unfold uriChars
      split
      case isTrue =>
        refine (reads_percentBytes place _).bind fun _ within => ?_
        dsimp only
        split
        case h_1 => exact Reads.malformed
        case h_2 => exact (inductionHypothesis within).bind fun _ within => within
      case isFalse =>
        split
        · exact (inductionHypothesis place.advance).bind fun _ within => within
        · exact place

theorem reads_uri (place : cursor.IsIn text) : Reads text (uri cursor) := by
  unfold uri
  split
  · exact (reads_uriChars place _).bind fun _ within => within
  · exact Reads.malformed

theorem reads_handle (place : cursor.IsIn text) : Reads text (handle cursor) := by
  unfold handle
  dsimp only
  split
  · exact Reads.malformed
  · split
    · exact place.advance
    · split
      · exact (place.advance.take _).advance
      · exact Reads.malformed

/-- Scanning a tag. -/
theorem readsToken_tag (place : cursor.IsIn text) : ReadsToken text (tag cursor) := by
  unfold tag
  extract_lets next finish
  have finished (handle : Option String) (suffix : String) (after : Cursor)
      (within : after.IsIn text) : ReadsToken text (finish (.tag handle suffix, after)) := by
    dsimp only [finish]
    split
    · exact ⟨trivial, within⟩
    · exact .inl rfl
  split
  case isTrue =>
    refine (reads_uri (place.advanceBy 2)).bind fun scanned within => ?_
    dsimp only
    split
    · exact finished none scanned.1 _ within.advance
    · exact .inl rfl
  case isFalse =>
    split
    case isTrue => exact finished none "!" _ place.advance
    case isFalse =>
      split
      case isTrue =>
        refine (reads_handle place).bind fun scanned within => ?_
        exact (reads_uri within).bind fun suffix within =>
          finished (some scanned.1) suffix.1 suffix.2 within
      case isFalse =>
        exact (reads_uri place.advance).bind fun suffix within =>
          finished (some "!") suffix.1 suffix.2 within

theorem reads_directiveNumber (place : cursor.IsIn text) :
    Reads text (directiveNumber cursor) := by
  have taken := place.take Text.isAsciiDigit
  unfold directiveNumber
  split
  case h_1 => exact Reads.malformed
  case h_2 run =>
    rw [run] at taken
    exact taken

theorem reads_versionDirective (place : cursor.IsIn text) :
    Reads text (versionDirective cursor) := by
  refine (reads_directiveNumber place.skipSpaces).bind fun _ within => ?_
  dsimp only
  split
  · exact Reads.malformed
  · refine (reads_directiveNumber within.advance).bind fun _ within => ?_
    split
    · exact within
    · exact Reads.malformed

theorem reads_handleDirective (place : cursor.IsIn text) :
    Reads text (handleDirective cursor) := by
  refine (reads_handle place.skipSpaces).bind fun _ within => ?_
  dsimp only
  split
  · exact Reads.malformed
  · refine (reads_uri within.skipSpaces).bind fun _ within => ?_
    split
    · exact within
    · exact Reads.malformed

/-- Scanning a directive line. -/
theorem readsToken_directive (place : cursor.IsIn text) :
    ReadsToken text (directive cursor) := by
  unfold directive
  refine (reads_name place.advance).bind fun scanned within => ?_
  dsimp only
  split
  case isTrue => exact .inl rfl
  case isFalse =>
    have finished (read : Directive × Cursor) (within : read.2.IsIn text) :
        ReadsToken text (if isLineEnd read.2.skipComment.peek then
          pure (.directive read.1, read.2.skipComment.skipBreak) else .error .malformed) := by
      split
      · exact ⟨trivial, within.skipComment.skipBreak⟩
      · exact .inl rfl
    split
    case h_1 => exact (reads_versionDirective within).bind finished
    case h_2 => exact (reads_handleDirective within).bind finished
    case h_3 => exact finished (.other, _) (within.skip _)

end Property

end ManifestAudit.Yaml
