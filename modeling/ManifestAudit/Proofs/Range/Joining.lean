import ManifestAudit.Proofs.Range.Pattern
import ManifestAudit.Proofs.Text
import ManifestAudit.Range.Shorthand
import Mathlib.Data.List.Chain
import Mathlib.Data.List.DropRight

/-!
# Joining operators and versions

Before shorthands are spelled out, the blanks behind operators, tildes and carets are removed.
A text without such blanks stays as it is, `joined_ofChars`: whatever else is skipped on the
way is put back.
-/

namespace ManifestAudit.Shorthand

open Text (isBlank)

variable {chars : List Char}

/-- A character that blanks are removed behind. -/
def isMark (c : Char) : Bool :=
  c == '<' || c == '>' || c == '=' || c == '~' || c == '^'

/-- No blank stands right behind a mark. -/
def IsJoined (chars : List Char) : Prop :=
  chars.IsChain fun c next => isMark c = true → isBlank next = false

theorem IsJoined.suffix {rest : List Char} (joined : IsJoined chars) (suffix : rest <:+ chars) :
    IsJoined rest :=
  List.IsChain.suffix joined suffix

/-- What stands behind a mark is kept. -/
theorem IsJoined.dropWhile_isBlank {mark : Char} {rest : List Char}
    (joined : IsJoined (mark :: rest)) (marks : isMark mark = true) :
    rest.dropWhile isBlank = rest := by
  cases rest with
  | nil => rfl
  | cons next rest =>
      have kept := (List.isChain_cons_cons.mp joined).1 marks
      rw [List.dropWhile_cons_of_neg (by simp [kept])]

/-- A text without blanks has none behind a mark. -/
theorem isJoined_of_not_isBlank (solid : ∀ c ∈ chars, isBlank c = false) : IsJoined chars := by
  induction chars with
  | nil => exact .nil
  | cons c rest inductionHypothesis =>
      obtain ⟨_, solid⟩ := List.forall_mem_cons.mp solid
      cases rest with
      | nil => exact .singleton c
      | cons next rest =>
          exact .cons_cons (fun _ => solid next List.mem_cons_self) (inductionHypothesis solid)

/-- Taking an operator takes it off the front, and it consists of marks. -/
theorem takeOperator_spec (chars : List Char) :
    (takeOperator chars).1 ++ (takeOperator chars).2 = chars ∧
      ∀ c ∈ (takeOperator chars).1, isMark c = true := by
  unfold takeOperator
  split
  case h_1 c rest =>
    split
    case isTrue first => rcases first with rfl | rfl <;> exact ⟨rfl, by simp [isMark]⟩
    case isFalse =>
      split
      case isTrue equals =>
        subst equals
        exact ⟨rfl, by simp [isMark]⟩
      case isFalse => exact ⟨rfl, nofun⟩
  case h_2 c rest _ =>
    split
    case isTrue first => rcases first with rfl | rfl | rfl <;> exact ⟨rfl, by simp [isMark]⟩
    case isFalse => exact ⟨rfl, nofun⟩
  case h_3 => exact ⟨rfl, nofun⟩

/-- Behind an operator there is no blank to be dropped, whether the operator is empty or not. -/
theorem dropWhile_isBlank_behind_operator (joined : IsJoined chars)
    (first : chars.dropWhile isBlank = chars) :
    (takeOperator chars).2.dropWhile isBlank = (takeOperator chars).2 := by
  obtain ⟨whole, marks⟩ := takeOperator_spec chars
  revert whole marks
  generalize (takeOperator chars).1 = operator
  generalize (takeOperator chars).2 = behind
  intro whole marks
  rcases List.eq_nil_or_concat operator with rfl | ⟨front, last, rfl⟩
  · rw [List.nil_append] at whole
    rw [whole, first]
  · have suffix : last :: behind <:+ chars := ⟨front, by simpa using whole⟩
    exact (joined.suffix suffix).dropWhile_isBlank (marks last (by simp))

/-- What is skipped behind an operator and its blanks is a version. -/
theorem joinedOperator?_eq (chars : List Char) :
    joinedOperator? chars =
      let operator := takeOperator (chars.dropWhile isBlank)
      let version := operator.2.dropWhile isBlank
      (Pattern.skip? version).map fun rest =>
        (chars.takeWhile isBlank ++ operator.1 ++ version.take (version.length - rest.length),
          rest) :=
  rfl

/-- An operator and the version behind it, if joined, are put back as they were. -/
theorem append_eq_of_joinedOperator? {replaced rest : List Char} (joined : IsJoined chars)
    (found : joinedOperator? chars = some (replaced, rest)) : replaced ++ rest = chars := by
  have behindBlanks : IsJoined (chars.dropWhile isBlank) :=
    joined.suffix (List.dropWhile_suffix isBlank)
  have kept := dropWhile_isBlank_behind_operator behindBlanks (List.dropWhile_idempotent _ _)
  obtain ⟨whole, _⟩ := takeOperator_spec (chars.dropWhile isBlank)
  simp only [joinedOperator?_eq, kept, Option.map_eq_some_iff, Prod.mk.injEq] at found
  obtain ⟨_, skipped, rfl, rfl⟩ := found
  obtain ⟨version, read⟩ := Pattern.skips_skip? _ _ skipped
  rw [← read, List.length_append, Nat.add_sub_cancel, List.take_left, List.append_assoc,
    List.append_assoc, read, whole, List.takeWhile_append_dropWhile]

/-- Joining goes on behind what was joined, or behind the next character. -/
theorem joinOperatorsFrom_succ_cons (fuel : Nat) (c : Char) (chars : List Char) :
    joinOperatorsFrom (fuel + 1) (c :: chars) =
      match joinedOperator? (c :: chars) with
      | some (joined, rest) => joined ++ joinOperatorsFrom fuel rest
      | none => c :: joinOperatorsFrom fuel chars := by
  delta joinOperatorsFrom
  rfl

theorem joinOperatorsFrom_eq_self (joined : IsJoined chars) (fuel : Nat) :
    joinOperatorsFrom fuel chars = chars := by
  induction fuel generalizing chars with
  | zero =>
      delta joinOperatorsFrom
      rfl
  | succ fuel inductionHypothesis =>
      cases chars with
      | nil =>
          delta joinOperatorsFrom
          rfl
      | cons c chars =>
          rw [joinOperatorsFrom_succ_cons]
          split
          case h_1 replaced rest found =>
            have whole := append_eq_of_joinedOperator? joined found
            rw [inductionHypothesis (joined.suffix ⟨replaced, whole⟩), whole]
          case h_2 => rw [inductionHypothesis (joined.suffix (List.suffix_cons c chars))]

theorem joinTildesFrom_eq_self (joined : IsJoined chars) : joinTildesFrom false chars = chars := by
  generalize passed : false = after
  fun_induction joinTildesFrom after chars with
  | case1 => rfl
  | case2 after c rest blank =>
      have kept := (List.isChain_cons_cons.mp (List.isChain_cons_cons.mp joined).2).1 rfl
      simp [kept] at blank
  | case3 after c rest notBlank inductionHypothesis =>
      rw [inductionHypothesis (joined.suffix ⟨['~', '>'], rfl⟩) rfl]
  | case4 after c rest _ blank =>
      have kept := (List.isChain_cons_cons.mp joined).1 rfl
      simp [kept] at blank
  | case5 after c rest _ notBlank inductionHypothesis =>
      rw [inductionHypothesis (joined.suffix ⟨['~'], rfl⟩) rfl]
  | case6 after c rest _ _ skipped =>
      subst passed
      simp at skipped
  | case7 after c rest _ _ notSkipped inductionHypothesis =>
      rw [inductionHypothesis (joined.suffix (List.suffix_cons c rest)) rfl]

theorem joinCaretsFrom_eq_self (joined : IsJoined chars) (after : Bool)
    (kept : after = true → ∀ c ∈ chars.head?, isBlank c = false) :
    joinCaretsFrom after chars = chars := by
  induction chars generalizing after with
  | nil => rfl
  | cons c rest inductionHypothesis =>
      have behind := joined.suffix (List.suffix_cons c rest)
      rw [joinCaretsFrom]
      split
      case isTrue caret =>
        subst caret
        rw [inductionHypothesis behind true fun _ next first => ?_]
        obtain ⟨others, rfl⟩ := List.head?_eq_some_iff.mp first
        exact (List.isChain_cons_cons.mp joined).1 rfl
      case isFalse =>
        split
        case isTrue skipped =>
          rw [Bool.and_eq_true] at skipped
          have notBlank := kept skipped.1 c rfl
          rw [skipped.2] at notBlank
          cases notBlank
        case isFalse => rw [inductionHypothesis behind false nofun]

/-- A text without blanks behind a mark is only spelled out if it is an interval. -/
theorem joined_ofChars (joined : IsJoined (interval chars)) :
    Shorthand.joined (Text.ofChars chars) = Text.ofChars (interval chars) := by
  have kept : joinCarets (joinTildes (joinOperators (interval chars))) = interval chars := by
    rw [joinOperators, joinOperatorsFrom_eq_self joined, joinTildes,
      joinTildesFrom_eq_self joined, joinCarets, joinCaretsFrom_eq_self joined false nofun]
  rw [Shorthand.joined, Text.toChars?_ofChars]
  simp only [Text.mapRuns_ofChars, kept]

/-- A text without blanks is no interval. -/
theorem interval_of_not_isBlank (solid : ∀ c ∈ chars, isBlank c = false) :
    interval chars = chars := by
  have nothing : (chars.dropWhile Pattern.isLead).dropWhile (!isBlank ·) = [] := by
    rw [List.dropWhile_eq_nil_iff]
    intro c member
    simp [solid c ((List.dropWhile_suffix _).subset member)]
  rw [interval, splitInterval?]
  simp only [nothing]

end ManifestAudit.Shorthand
