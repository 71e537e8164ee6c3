import ManifestAudit.Proofs.Yaml.Atom
import ManifestAudit.Proofs.Yaml.Token.Stream
import ManifestAudit.Proofs.Yaml.Value
import ManifestAudit.Yaml.Parser

/-!
# Why a text may have no value

The stages of reading a text each keep their contract, so whatever goes wrong on the way has
a reason in the text: it is malformed, it holds an escape beyond the last character, or one
of its scalars has no value (`Unvalued`).
-/

namespace ManifestAudit.Yaml

/-- Why a text that is not malformed may have no value. -/
inductive Unvalued (text : List Char) : Fault → Prop where
  /-- It holds an escape beyond the last character. -/
  | escape {code : Nat} (large : LargeEscape text code) : Unvalued text (.codeTooLarge code)
  /-- A plain scalar has the shape of something that does not exist. -/
  | plain {scalar : List Char} {fault : Fault}
      (stands : .scalar (Text.ofChars scalar) true ∈ tokens text)
      (reason : Atom.PlainFault scalar fault) : Unvalued text fault
  /-- A tag is written out, and a scalar does not fit it. -/
  | tagged {tag : String} {scalar : Text} {fault : Fault}
      (demand : IsDemanded (tokens text) scalar tag) (stands : IsScalarText (tokens text) scalar)
      (unfit : Atom.ofText tag scalar = .error fault) : Unvalued text fault
  /-- The tag of days and times is written out for a mapping. -/
  | mapping (written : IsWritten (tokens text) Tag.timestamp) : Unvalued text .timestampOfMapping

variable {text : List Char} {fault : Fault}

theorem LargeEscape.mono {part : List Char} {code : Nat} (large : LargeEscape part code)
    (within : part <:+: text) : LargeEscape text code := by
  obtain ⟨beyond, digits, stands, read⟩ := large
  exact ⟨beyond, digits, stands.trans within, read⟩

/-- A text ends in a word only if it does not end in a line feed. -/
theorem Scalar.EndsInWord.getLast?_ne {chars : List Char} (ends : EndsInWord chars) :
    chars.getLast? ≠ some '\n' :=
  fun last => nomatch ends '\n' last

/-- Tokens are refused as malformed, or for an escape. -/
theorem escape_of_unreadable (unread : Unreadable (tokens text) fault) :
    fault = .malformed ∨ ∃ code, fault = .codeTooLarge code ∧ LargeEscape text code := by
  rcases unread with malformed | broken
  · exact .inl malformed
  · exact isFrom_of_mem broken

/-- A document has no value for a reason in its text. -/
theorem unvalued_of_valueless (valueless : Valueless (tokens text) fault) :
    fault = .malformed ∨ Unvalued text fault := by
  cases valueless with
  | malformed => exact .inl rfl
  | plain member unfit =>
      obtain ⟨chars, rfl, ends⟩ := isFrom_of_mem member
      exact (Atom.plainFault_of_ofText ends.getLast?_ne unfit).imp_right (.plain member)
  | demanded demand stands unfit => exact .inr (.tagged demand stands unfit)
  | mapping written => exact .inr (.mapping written)

theorem isInfix_admitted (text : List Char) : admitted text <:+: text := by
  unfold admitted
  dsimp only
  split
  · exact List.nil_infix
  · exact (List.take_prefix _ _).isInfix

/-- A text that is refused is malformed, or it has no value for a reason in it. -/
theorem unvalued_of_parse {text : String} (refused : parse text = .error fault) :
    fault = .malformed ∨ Unvalued text.toList fault := by
  unfold parse at refused
  dsimp only at refused
  split at refused
  case isTrue =>
    cases read : document? text.toList with
    | error fault =>
        rw [read] at refused
        cases refused
        refine (escape_of_unreadable (Document.unreadable_of_ofTokens read)).imp_right ?_
        rintro ⟨code, rfl, large⟩
        exact .escape large
    | ok document? =>
        rw [read] at refused
        cases document? with
        | none => cases refused
        | some document =>
            have explained := Document.isFrom_of_ofTokens read
            exact unvalued_of_valueless (document.valueless_of_value explained refused)
  case isFalse =>
    split at refused
    case h_1 code failed =>
      cases refused
      obtain malformed | ⟨_, same, large⟩ :=
        escape_of_unreadable (Document.unreadable_of_ofTokens failed)
      · cases malformed
      · cases same
        exact .inr (.escape (large.mono (isInfix_admitted _)))
    case h_2 => exact .inl (Except.error.inj refused).symm

/-- Each of the reasons occurs. -/
example :
    ["\"\\UFFFFFFFF\"", "2020-13-01", "!!int one", "!!timestamp \x7b=: 2020\x7d"].map
      (fun text => match parse text with
        | .ok _ => none
        | .error fault => some fault) =
    [some (.codeTooLarge 0xFFFFFFFF), some (.noMoment .month),
      some (.notInteger 10 (Text.ofString "one")), some .timestampOfMapping] := by
  decide +kernel

end ManifestAudit.Yaml
