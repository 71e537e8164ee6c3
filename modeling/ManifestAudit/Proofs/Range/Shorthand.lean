import ManifestAudit.Proofs.Range.Pattern
import ManifestAudit.Range.Basic
import ManifestAudit.Range.Shorthand
import Mathlib.Data.List.Basic

/-!
# Spelling out

A shorthand is spelled out in passes: carets, then tildes, then what lacks a number. Written
with numbers, each gives bounds that name those numbers, and a bound that one pass has spelled
out goes through the later ones as it is. So a token stands for the bounds of the one pass that
it is meant for: `expandToken_caret`, `expandToken_tilde`, `expandToken_wildcard`.
-/

namespace ManifestAudit.Shorthand

open Text (decimalDigits isAsciiDigit)

/-! ## No star -/

section Stars

variable {chars : List Char}

/-- A text with a star in front of something has a star. -/
theorem mem_of_behindStar? {rest : List Char} (found : behindStar? chars = some rest) :
    '*' ∈ chars := by
  unfold behindStar? at found
  split at found <;> simp_all

/-- Without a star there is none to be removed. -/
theorem removeStars_of_not_mem (free : '*' ∉ chars) : removeStars chars = chars := by
  induction chars with
  | nil => rw [removeStars]
  | cons c rest inductionHypothesis =>
      rw [removeStars]
      split
      case h_1 behind found => exact absurd (mem_of_behindStar? found) free
      case h_2 => rw [inductionHypothesis fun member => free (List.mem_cons_of_mem c member)]

end Stars

/-! ## Bounds of written numbers -/

/-- The bounds of a shorthand, as they are written. -/
def spelled (bounds : List Bound) : List (List Char) :=
  bounds.map (·.text.toList)

/-- The same as texts. -/
def written (bounds : List Bound) : List Text :=
  bounds.map fun bound => Text.ofString bound.text

/-- The lowest version above everything that a caret admits: the leftmost number other than
zero is kept. -/
def caretLimit (major minor patch : Nat) : Version :=
  if major ≠ 0 then Version.release (major + 1) 0 0
  else if minor ≠ 0 then Version.release 0 (minor + 1) 0
  else Version.release 0 0 (patch + 1)

/-- The number behind a written one. -/
theorem next_decimalDigits (number : Nat) :
    next (decimalDigits number) = decimalDigits (number + 1) := by
  rw [next, Text.decimalNumber_decimalDigits]

/-- Only zero is written as zero. -/
theorem decimalDigits_eq_zero_iff {number : Nat} : decimalDigits number = zero ↔ number = 0 := by
  constructor
  · intro same
    rw [← Text.decimalNumber_decimalDigits number, same]
    rfl
  · rintro rfl
    rfl

/-- Written numbers with dots between them are a release. -/
theorem dotted_decimalDigits (major minor patch : Nat) :
    dotted (decimalDigits major) (decimalDigits minor) (decimalDigits patch) =
      (Version.release major minor patch).text.toList := by
  simp [dotted, Version.toList_text_release]

/-- A lower bound is an operator and a version. -/
theorem atLeast_text (version : Version) :
    atLeast version.text.toList = (Bound.text ⟨.atLeast, version⟩).toList := by
  simp [atLeast, Bound.text, Relation.text]

/-- So is an upper one. -/
theorem below_text (version : Version) :
    below version.text.toList = (Bound.text ⟨.less, version⟩).toList := by
  simp [below, Bound.text, Relation.text]

/-- The limit of a caret is a release. -/
theorem isRelease_caretLimit (major minor patch : Nat) :
    (caretLimit major minor patch).isRelease = true := by
  unfold caretLimit
  split
  · rfl
  · split <;> rfl

section WrittenNumbers

variable (major minor patch : Nat)

theorem wholeMajor_decimalDigits :
    wholeMajor (decimalDigits major) =
      spelled [⟨.atLeast, .release major 0 0⟩, ⟨.less, .release (major + 1) 0 0⟩] := by
  have noMinor : zero = decimalDigits 0 := rfl
  rw [wholeMajor, next_decimalDigits, noMinor, dotted_decimalDigits, dotted_decimalDigits,
    atLeast_text, below_text]
  rfl

theorem wholeMinor_decimalDigits :
    wholeMinor (decimalDigits major) (decimalDigits minor) =
      spelled [⟨.atLeast, .release major minor 0⟩, ⟨.less, .release major (minor + 1) 0⟩] := by
  have noPatch : zero = decimalDigits 0 := rfl
  rw [wholeMinor, next_decimalDigits, noPatch, dotted_decimalDigits, dotted_decimalDigits,
    atLeast_text, below_text]
  rfl

/-- What a caret before a complete version means. -/
theorem caretBounds_decimalDigits :
    caretBounds ⟨some (decimalDigits major), some (decimalDigits minor),
        some (decimalDigits patch), []⟩ =
      spelled [⟨.atLeast, .release major minor patch⟩, ⟨.less, caretLimit major minor patch⟩] := by
  have noNumber : zero = decimalDigits 0 := rfl
  simp only [caretBounds, attached, List.append_nil, ne_eq, decimalDigits_eq_zero_iff, caretLimit]
  rw [dotted_decimalDigits, atLeast_text]
  split
  case isTrue =>
    rw [next_decimalDigits, noNumber, dotted_decimalDigits, below_text]
    rfl
  case isFalse noMajor =>
    obtain rfl := Decidable.not_not.mp noMajor
    split
    case isTrue =>
      rw [next_decimalDigits, noNumber, dotted_decimalDigits, below_text]
      rfl
    case isFalse noMinor =>
      obtain rfl := Decidable.not_not.mp noMinor
      rw [next_decimalDigits, dotted_decimalDigits, below_text]
      rfl

/-- What a tilde before a complete version means. -/
theorem tildeBounds_decimalDigits :
    tildeBounds ⟨some (decimalDigits major), some (decimalDigits minor),
        some (decimalDigits patch), []⟩ =
      spelled [⟨.atLeast, .release major minor patch⟩, ⟨.less, .release major (minor + 1) 0⟩] := by
  have noNumber : zero = decimalDigits 0 := rfl
  simp only [tildeBounds, attached, List.append_nil]
  rw [dotted_decimalDigits, atLeast_text, next_decimalDigits, noNumber, dotted_decimalDigits,
    below_text]
  rfl

/-- What "greater" before a major version means. -/
theorem wildcardBounds?_greater :
    wildcardBounds? Relation.greater.text.toList ⟨some (decimalDigits major), none, none, []⟩ =
      some (spelled [⟨.atLeast, .release (major + 1) 0 0⟩]) := by
  have noNumber : zero = decimalDigits 0 := rfl
  have bounds : wildcardBounds? Relation.greater.text.toList
      ⟨some (decimalDigits major), none, none, []⟩ =
        some [atLeast (dotted (next (decimalDigits major)) zero zero)] := rfl
  rw [bounds, next_decimalDigits, noNumber, dotted_decimalDigits, atLeast_text]
  rfl

end WrittenNumbers

/-! ## What a token stands for -/

section Tokens

variable {bound : Bound} {token : List Char}

/-- The text begins with a digit. -/
def BeginsWithDigit (chars : List Char) : Prop :=
  ∃ digit digits, chars = digit :: digits ∧ isAsciiDigit digit

/-- A number does. -/
theorem beginsWithDigit_decimalDigits (number : Nat) : BeginsWithDigit (decimalDigits number) := by
  obtain ⟨digit, digits, written, latin, _⟩ := Text.exists_decimalDigits_eq_cons number
  exact ⟨digit, digits, written, latin⟩

/-- What stands behind does not matter. -/
theorem BeginsWithDigit.append {chars : List Char} (begins : BeginsWithDigit chars)
    (behind : List Char) : BeginsWithDigit (chars ++ behind) := by
  obtain ⟨digit, digits, rfl, latin⟩ := begins
  exact ⟨digit, digits ++ behind, rfl, latin⟩

/-- A release begins with its first number. -/
theorem beginsWithDigit_text {version : Version} (isRelease : version.isRelease = true) :
    BeginsWithDigit version.text.toList := by
  rw [← Version.release_eq_self isRelease, Version.toList_text_release]
  exact (beginsWithDigit_decimalDigits version.major).append _

/-- A single mark with something other than an equals sign behind it is an operator. -/
theorem takeOperator_cons_cons {mark next : Char} (marks : mark = '<' ∨ mark = '>' ∨ mark = '=')
    (other : next ≠ '=') (rest : List Char) :
    takeOperator (mark :: next :: rest) = ([mark], next :: rest) := by
  rw [takeOperator, if_pos marks]
  rintro _ ⟨⟩
  exact other rfl

/-- An operator is taken off a version that is written behind it. -/
theorem takeOperator_append (relation : Relation) {digit : Char} (latin : isAsciiDigit digit)
    (digits : List Char) :
    takeOperator (relation.text.toList ++ digit :: digits) =
      (relation.text.toList, digit :: digits) := by
  have noMark : digit ≠ '<' ∧ digit ≠ '>' ∧ digit ≠ '=' :=
    Text.of_isAsciiDigit (fun c => c ≠ '<' ∧ c ≠ '>' ∧ c ≠ '=') (by decide) latin
  cases relation with
  | plain =>
      change takeOperator (digit :: digits) = ([], digit :: digits)
      unfold takeOperator
      split <;> simp_all
  | equal => exact takeOperator_cons_cons (by decide) noMark.2.2 digits
  | less => exact takeOperator_cons_cons (by decide) noMark.2.2 digits
  | greater => exact takeOperator_cons_cons (by decide) noMark.2.2 digits
  | atMost => rfl
  | atLeast => rfl

/-- Such a text begins with neither a caret nor a tilde. -/
theorem head?_operator_append_ne (relation : Relation) {digit mark : Char}
    (latin : isAsciiDigit digit) (marks : mark = '^' ∨ mark = '~') (digits : List Char) :
    (relation.text.toList ++ digit :: digits).head? ≠ some mark := by
  have other : digit ≠ '^' ∧ digit ≠ '~' :=
    Text.of_isAsciiDigit (fun c => c ≠ '^' ∧ c ≠ '~') (by decide) latin
  cases relation <;> rcases marks with rfl | rfl <;> simp [Relation.text, other]

/-- What is no caret passes through. -/
theorem expandCaret_of_head? (other : token.head? ≠ some '^') : expandCaret token = [token] := by
  unfold expandCaret
  split
  case h_1 => exact absurd rfl other
  case h_2 => rfl

/-- What is no tilde passes through. -/
theorem expandTilde_of_head? (other : token.head? ≠ some '~') : expandTilde token = [token] := by
  unfold expandTilde
  split
  case h_1 => exact absurd rfl other
  case h_2 => exact absurd rfl other
  case h_3 => rfl

/-- The characters of a bound: the operator and then a digit. -/
theorem exists_bound_text_eq (isRelease : bound.version.isRelease = true) :
    ∃ digit digits, bound.text.toList = bound.relation.text.toList ++ digit :: digits ∧
      bound.version.text.toList = digit :: digits ∧ isAsciiDigit digit := by
  obtain ⟨digit, digits, written, latin⟩ := beginsWithDigit_text isRelease
  refine ⟨digit, digits, ?_, written, latin⟩
  rw [Bound.text, String.toList_append, written]

/-- So a bound is neither a caret nor a tilde. -/
theorem head?_bound_text_ne {mark : Char} (isRelease : bound.version.isRelease = true)
    (marks : mark = '^' ∨ mark = '~') : bound.text.toList.head? ≠ some mark := by
  obtain ⟨digit, digits, written, _, latin⟩ := exists_bound_text_eq isRelease
  rw [written]
  exact head?_operator_append_ne bound.relation latin marks digits

/-- Nor does it lack a number. -/
theorem expandWildcard_bound (isRelease : bound.version.isRelease = true) :
    expandWildcard bound.text.toList = [bound.text.toList] := by
  obtain ⟨digit, digits, written, version, latin⟩ := exists_bound_text_eq isRelease
  have complete := Pattern.ofChars?_text_release bound.version.major bound.version.minor
    bound.version.patch
  rw [Version.release_eq_self isRelease, version] at complete
  rw [expandWildcard, written, takeOperator_append _ latin, ← written]
  simp only [complete]
  rfl

/-- Nor has it a star. -/
theorem removeStars_bound (isRelease : bound.version.isRelease = true) :
    removeStars bound.text.toList = bound.text.toList := by
  have version : '*' ∉ bound.version.text.toList := fun member =>
    Version.of_mem_text_release (· ≠ '*') (by decide) (by decide) isRelease member rfl
  have operator : '*' ∉ bound.relation.text.toList := by
    cases bound.relation <;> decide
  refine removeStars_of_not_mem ?_
  rw [Bound.text, String.toList_append, List.mem_append]
  exact not_or.mpr ⟨operator, version⟩

/-- Two bounds at releases. -/
theorem isRelease_pair {lower upper : Version} (lowerRelease : lower.isRelease = true)
    (upperRelease : upper.isRelease = true) (relation relation' : Relation) :
    ∀ bound ∈ [Bound.mk relation lower, .mk relation' upper], bound.version.isRelease = true := by
  simp [lowerRelease, upperRelease]

/-! The passes follow one another, so what one of them spells out goes through the later ones. -/

variable {bounds : List Bound}

theorem flatMap_expandTilde_spelled
    (releases : ∀ bound ∈ bounds, bound.version.isRelease = true) :
    (spelled bounds).flatMap expandTilde = spelled bounds := by
  rw [spelled, List.flatMap_map, List.map_eq_flatMap]
  exact List.flatMap_congr fun bound member =>
    expandTilde_of_head? (head?_bound_text_ne (releases bound member) (.inr rfl))

theorem flatMap_expandWildcard_spelled
    (releases : ∀ bound ∈ bounds, bound.version.isRelease = true) :
    (spelled bounds).flatMap expandWildcard = spelled bounds := by
  rw [spelled, List.flatMap_map, List.map_eq_flatMap]
  exact List.flatMap_congr fun bound member => expandWildcard_bound (releases bound member)

/-- What the passes spell out as bounds is what the token stands for. -/
theorem expandToken_of_spelled (releases : ∀ bound ∈ bounds, bound.version.isRelease = true)
    (expanded : ((expandCaret token).flatMap expandTilde).flatMap expandWildcard =
      spelled bounds) :
    expandToken (Text.ofChars token) = written bounds := by
  rw [expandToken, Text.toChars?_ofChars]
  simp only [expanded]
  rw [spelled, List.map_map]
  refine List.map_congr_left fun bound member => ?_
  rw [Function.comp_apply, removeStars_bound (releases bound member), Text.ofString]

/-- A bound stands for itself. -/
theorem expandToken_bound (isRelease : bound.version.isRelease = true) :
    expandToken (Text.ofString bound.text) = written [bound] := by
  have releases : ∀ other ∈ [bound], other.version.isRelease = true := by simpa using isRelease
  refine expandToken_of_spelled releases ?_
  have caret : expandCaret bound.text.toList = spelled [bound] :=
    expandCaret_of_head? (head?_bound_text_ne isRelease (.inl rfl))
  rw [caret, flatMap_expandTilde_spelled releases, flatMap_expandWildcard_spelled releases]

/-- So does each of several. -/
theorem flatMap_expandToken_written
    (releases : ∀ bound ∈ bounds, bound.version.isRelease = true) :
    (written bounds).flatMap expandToken = written bounds := by
  rw [written, List.flatMap_map, List.map_eq_flatMap]
  exact List.flatMap_congr fun bound member => expandToken_bound (releases bound member)

variable {version : List Char} {pattern : Pattern}

/-- A caret stands for the caret's bounds. -/
theorem expandToken_caret (read : Pattern.ofChars? version = some pattern)
    (meaning : caretBounds pattern = spelled bounds)
    (releases : ∀ bound ∈ bounds, bound.version.isRelease = true) :
    expandToken (Text.ofChars ('^' :: version)) = written bounds := by
  refine expandToken_of_spelled releases ?_
  have caret : expandCaret ('^' :: version) = spelled bounds := by
    rw [expandCaret, read, Option.map_some, Option.getD_some, meaning]
  rw [caret, flatMap_expandTilde_spelled releases, flatMap_expandWildcard_spelled releases]

/-- A tilde before a number stands for the tilde's bounds. -/
theorem expandToken_tilde (begins : BeginsWithDigit version)
    (read : Pattern.ofChars? version = some pattern)
    (meaning : tildeBounds pattern = spelled bounds)
    (releases : ∀ bound ∈ bounds, bound.version.isRelease = true) :
    expandToken (Text.ofChars ('~' :: version)) = written bounds := by
  obtain ⟨digit, digits, rfl, latin⟩ := begins
  refine expandToken_of_spelled releases ?_
  have caret : expandCaret ('~' :: digit :: digits) = ['~' :: digit :: digits] :=
    expandCaret_of_head? nofun
  have tilde : expandTilde ('~' :: digit :: digits) = spelled bounds := by
    rw [expandTilde, read, Option.map_some, Option.getD_some, meaning]
    rintro _ ⟨⟩
    cases latin
  rw [caret, List.flatMap_singleton, tilde, flatMap_expandWildcard_spelled releases]

/-- An operator before numbers that leave others open stands for the wildcard's bounds. -/
theorem expandToken_wildcard (relation : Relation) (begins : BeginsWithDigit version)
    (read : Pattern.ofChars? version = some pattern)
    (meaning : wildcardBounds? relation.text.toList pattern = some (spelled bounds))
    (releases : ∀ bound ∈ bounds, bound.version.isRelease = true) :
    expandToken (Text.ofChars (relation.text.toList ++ version)) = written bounds := by
  obtain ⟨digit, digits, rfl, latin⟩ := begins
  have caret := expandCaret_of_head?
    (head?_operator_append_ne relation latin (.inl rfl) digits)
  have tilde := expandTilde_of_head?
    (head?_operator_append_ne relation latin (.inr rfl) digits)
  refine expandToken_of_spelled releases ?_
  rw [caret, List.flatMap_singleton, tilde, List.flatMap_singleton, expandWildcard,
    takeOperator_append relation latin]
  simp only [read, Option.bind_some, meaning, Option.getD_some]

end Tokens

end ManifestAudit.Shorthand
