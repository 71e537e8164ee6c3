import ManifestAudit.Proofs.Range.Requirement
import ManifestAudit.Proofs.Text.Pieces

/-!
# Ranges with a choice

Two bars between two texts make one range of both: its alternatives are those of the one and
then those of the other, whatever the texts are, and it is no range as soon as one of them is
none. So a version is below a choice exactly when it is below each of the ranges to choose
from, and neither their order nor a repetition is of any account.
-/

namespace ManifestAudit

namespace Alternative

/-- A space behind an alternative means nothing. -/
theorem parse_concat_space (text : Text) : parse (text ++ [.char ' ']) = parse text := by
  have trimmed : Text.trim (text ++ [.char ' ']) = Text.trim text :=
    Text.dropEnds_concat (by decide) text
  rw [parse, parse, Shorthand.expand, Shorthand.expand, trimmed]

/-- Nor does a space in front of it. -/
theorem parse_cons_space (text : Text) : parse (.char ' ' :: text) = parse text := by
  have trimmed : Text.trim (.char ' ' :: text) = Text.trim text :=
    Text.dropEnds_cons (by decide) text
  rw [parse, parse, Shorthand.expand, Shorthand.expand, trimmed]

end Alternative

namespace Range

/-- Two bars, with a space on each side. -/
def bars : Text := Text.ofString " || "

/-- The text of a choice between several ranges. -/
def choice (texts : List Text) : Text := bars.intercalate texts

/-- The alternatives that a text writes, each read by itself. -/
def alternatives? (text : Text) : Except ParseError (List Alternative) :=
  (Text.splitDouble (.char '|') text).mapM Alternative.parse

/-- A space in front of a range means nothing. -/
theorem alternatives?_cons_space (text : Text) :
    alternatives? (.char ' ' :: text) = alternatives? text := by
  rw [alternatives?, alternatives?, Text.splitDouble_cons_of_ne (by decide)]
  cases cut : Text.splitDouble (.char '|') text with
  | nil => exact absurd cut (Text.splitDouble_ne_nil _ text)
  | cons piece pieces =>
      rw [Text.consFirst, List.mapM_cons, List.mapM_cons, Alternative.parse_cons_space]

/-- The alternatives of two texts with bars between them are those of the one and then those
of the other. -/
theorem alternatives?_append_bars (left right : Text) :
    alternatives? (left ++ bars ++ right) = do
      let lefts ← alternatives? left
      let rights ← alternatives? right
      return lefts ++ rights := by
  have other : Text.Symbol.char ' ' ≠ .char '|' := by decide
  obtain ⟨pieces, last, ofLeft, ofBoth⟩ :=
    Text.exists_splitDouble_append other left (.char ' ' :: right)
  have seam : left ++ bars ++ right =
      left ++ .char ' ' :: .char '|' :: .char '|' :: .char ' ' :: right := by
    rw [List.append_assoc]
    rfl
  have lasts : (pieces ++ [last ++ [Text.Symbol.char ' ']]).mapM Alternative.parse =
      (pieces ++ [last]).mapM Alternative.parse := by
    simp only [List.mapM_append, List.mapM_cons, Alternative.parse_concat_space]
  rw [seam, alternatives?, ofBoth, List.append_cons, List.mapM_append, lasts, ← ofLeft,
    ← alternatives?, ← alternatives?, alternatives?_cons_space]

/-- Whether a text is a range that lies above a version. -/
def readsAbove (text : Text) (version : Version) : Bool :=
  (parse text).toOption.any (·.isAbove version)

/-- The alternatives that are read decide. -/
theorem readsAbove_eq_any (text : Text) (version : Version) :
    readsAbove text version =
      (alternatives? text).toOption.any fun alternatives =>
        alternatives.all (·.isAbove version) := by
  rw [readsAbove, parse, ← alternatives?]
  cases alternatives? text <;> rfl

/-- A choice is above what both of its sides are above. -/
theorem readsAbove_append_bars (left right : Text) (version : Version) :
    readsAbove (left ++ bars ++ right) version =
      (readsAbove left version && readsAbove right version) := by
  simp only [readsAbove_eq_any, alternatives?_append_bars]
  cases alternatives? left with
  | error error => rfl
  | ok lefts =>
      cases alternatives? right with
      | error error => exact (Bool.and_false _).symm
      | ok rights => exact List.all_append

/-- A choice between ranges is above what all of them are above. -/
theorem readsAbove_choice (text : Text) (texts : List Text) (version : Version) :
    readsAbove (choice (text :: texts)) version =
      (text :: texts).all (readsAbove · version) := by
  unfold choice
  induction texts generalizing text with
  | nil => rw [List.intercalate_singleton, List.all_cons, List.all_nil, Bool.and_true]
  | cons next texts inductionHypothesis =>
      rw [List.intercalate_cons_cons, readsAbove_append_bars, inductionHypothesis,
        List.all_cons (a := text)]

/-- Choices between the same ranges are above the same versions. -/
theorem readsAbove_choice_congr {texts others : List Text}
    (same : ∀ text, text ∈ texts ↔ text ∈ others) (version : Version) :
    readsAbove (choice texts) version = readsAbove (choice others) version := by
  cases texts with
  | nil =>
      have none : others = [] := List.eq_nil_iff_forall_not_mem.mpr fun text member =>
        absurd ((same text).mpr member) List.not_mem_nil
      rw [none]
  | cons text texts =>
      cases others with
      | nil => exact absurd ((same text).mp List.mem_cons_self) List.not_mem_nil
      | cons other others =>
          rw [readsAbove_choice, readsAbove_choice, Bool.eq_iff_iff, List.all_eq_true,
            List.all_eq_true]
          exact forall_congr' fun text => imp_congr_left (same text)

end Range

namespace Requirement

variable {version : String} {parsed : Version}

/-- For a text that names a version, the answer of a text is whether it is a range above that
version. -/
theorem isAboveText_eq_readsAbove (readsVersion : Version.parse? version = some parsed)
    (text : Text) : isAboveText (.string text) version = .ok (Range.readsAbove text parsed) := by
  rw [isAboveText_eq readsVersion, isAbove, Range.readsAbove]
  cases Range.parse text <;> rfl

/-- A choice between two texts, whatever they are, is above a version exactly when both of
them are. Nor does the answer to a choice between several depend on their order or on how
often each is there. -/
theorem isAboveText_choice (readsVersion : Version.parse? version = some parsed) :
    (∀ left right : Text, ∃ leftAbove rightAbove,
      isAboveText (.string left) version = .ok leftAbove ∧
      isAboveText (.string right) version = .ok rightAbove ∧
      isAboveText (.string (left ++ Text.ofString " || " ++ right)) version =
        .ok (leftAbove && rightAbove)) ∧
    ∀ texts others : List Text, (∀ text, text ∈ texts ↔ text ∈ others) →
      isAboveText (.string (Range.choice texts)) version =
        isAboveText (.string (Range.choice others)) version := by
  refine ⟨fun left right => ?_, fun texts others same => ?_⟩
  · refine ⟨_, _, isAboveText_eq_readsAbove readsVersion left,
      isAboveText_eq_readsAbove readsVersion right, ?_⟩
    rw [isAboveText_eq_readsAbove readsVersion, ← Range.bars, Range.readsAbove_append_bars]
  · rw [isAboveText_eq_readsAbove readsVersion, isAboveText_eq_readsAbove readsVersion,
      Range.readsAbove_choice_congr same]

/-- Bars at the seam, on both sides of it, leave an alternative that admits everything: the
choice is not above the version although one of its sides is. -/
theorem isAboveText_choice_barsAtSeam :
    Version.parse? "1.6.9-rc.1" = some ⟨1, 6, 9, [.label "rc", .number 1]⟩ ∧
      isAboveText (.string "^1.7.0||>1.6.9") "1.6.9-rc.1" = .ok true ∧
      isAboveText (.string "|| 3.x") "1.6.9-rc.1" = .ok false ∧
      isAboveText (.string "^1.7.0||>1.6.9 || || 3.x") "1.6.9-rc.1" = .ok false ∧
      isAboveText (.string (Range.choice ["3.x", "^1.7.0", "3.x"])) "1.6.9-rc.1" =
        isAboveText (.string (Range.choice ["^1.7.0", "3.x"])) "1.6.9-rc.1" := by
  have readsVersion : Version.parse? "1.6.9-rc.1" = some ⟨1, 6, 9, [.label "rc", .number 1]⟩ := by
    decide +kernel
  have left : isAboveText (.string "^1.7.0||>1.6.9") "1.6.9-rc.1" = .ok true := by decide +kernel
  have right : isAboveText (.string "|| 3.x") "1.6.9-rc.1" = .ok false := by decide +kernel
  obtain ⟨both, reordered⟩ := isAboveText_choice readsVersion
  obtain ⟨leftAbove, rightAbove, left', right', together⟩ := both "^1.7.0||>1.6.9" "|| 3.x"
  have no : leftAbove = true ∧ rightAbove = false :=
    ⟨Except.ok.inj (left'.symm.trans left), Except.ok.inj (right'.symm.trans right)⟩
  rw [no.1, no.2] at together
  exact ⟨readsVersion, left, right, together, reordered _ _ (by simp)⟩

end Requirement

end ManifestAudit
