import ManifestAudit.Proofs.Version.Order
import ManifestAudit.Range.Basic

/-!
# The tightest lower bound

An alternative is judged by the one bound that `Alternative.lowerBound?` picks.
`Alternative.isAbove_eq_any` says what this pick amounts to: a version lies
below the picked bound exactly when it lies below the lower bound of some
comparator. Which comparator that is, and in what order they stand, is then of no
concern to whoever argues about ranges. There is something to pick exactly when some
comparator bounds from below, `Alternative.lowerBound?_eq_none_iff`, and it is then set by
such a comparator, `Alternative.exists_lowerBound?_of_lowerBound?`.
-/

namespace ManifestAudit

namespace Bound

/-- A bound lies above the versions below its own, and a strict one above its own too. -/
theorem isAbove_eq_true_iff {bound : Bound} {version : Version} :
    bound.isAbove version = true ↔
      version < bound.version ∨ bound.relation = .greater ∧ version = bound.version := by
  obtain ⟨relation, limit⟩ := bound
  cases relation <;> simp [isAbove, le_iff_lt_or_eq]

/-- A bound at a version no lower, and strict if the two are one version and the
other is strict, lies above everything that the other lies above. -/
theorem isAbove_of_isAbove {loose tight : Bound} {version : Version}
    (lower : loose.version ≤ tight.version)
    (strict : loose.version = tight.version → loose.relation = .greater →
      tight.relation = .greater)
    (above : loose.isAbove version = true) : tight.isAbove version = true := by
  rw [isAbove_eq_true_iff] at above ⊢
  rcases above with below | ⟨greater, rfl⟩
  · exact .inl (lt_of_lt_of_le below lower)
  · rcases lt_or_eq_of_le lower with below | same
    · exact .inl below
    · exact .inr ⟨strict same greater, same⟩

end Bound

namespace Comparator

/-- Whether the comparator sets a lower bound that lies above a version. -/
def isAbove (comparator : Comparator) (version : Version) : Bool :=
  comparator.lowerBound?.any (·.isAbove version)

/-- The comparators that bound from below: those that admit everything, and those whose
operator is missing or one of `=`, `>` and `>=`. -/
inductive IsLower : Comparator → Prop where
  | any : IsLower any
  | bounded {bound : Bound} (operator : bound.relation.text ∈ ["", "=", ">", ">="]) :
      IsLower (bounded bound)

/-- Whether a comparator with a bound bounds from below is seen from its relation. -/
theorem isLower_bounded_iff {bound : Bound} :
    IsLower (bounded bound) ↔ bound.relation.isLower = true := by
  have operators : bound.relation.isLower = true ↔
      bound.relation.text ∈ ["", "=", ">", ">="] := by
    cases bound.relation <;> decide
  constructor
  · intro isLower
    cases isLower with
    | bounded operator => exact operators.mpr operator
  · intro isLower
    exact .bounded (operators.mp isLower)

/-- What a comparator compares with. One that admits everything stands for `>=0.0.0`. -/
def limit : Comparator → Bound
  | any => ⟨.atLeast, Version.release 0 0 0⟩
  | bounded bound => bound

/-- A comparator that bounds from below does so with what it compares with. -/
theorem lowerBound?_eq_some_iff {comparator : Comparator} {bound : Bound} :
    comparator.lowerBound? = some bound ↔ comparator.IsLower ∧ comparator.limit = bound := by
  cases comparator with
  | any =>
      constructor
      · rintro ⟨⟩
        exact ⟨.any, rfl⟩
      · rintro ⟨_, rfl⟩
        rfl
  | bounded own => simp [lowerBound?, limit, isLower_bounded_iff]

/-- All others have no lower bound, and only they. -/
theorem lowerBound?_eq_none_iff {comparator : Comparator} :
    comparator.lowerBound? = none ↔ ¬ comparator.IsLower := by
  rw [Option.eq_none_iff_forall_ne_some]
  constructor
  · intro unbounded isLower
    exact unbounded comparator.limit (lowerBound?_eq_some_iff.mpr ⟨isLower, rfl⟩)
  · intro notLower bound held
    exact notLower (lowerBound?_eq_some_iff.mp held).1

end Comparator

namespace Alternative

/-- A bound once held is never given up, and one that is met is taken up. -/
theorem tighten_eq_none_iff {current : Option Bound} {comparator : Comparator} :
    tighten current comparator = none ↔ current = none ∧ comparator.lowerBound? = none := by
  unfold tighten
  cases comparator.lowerBound? with
  | none => simp
  | some bound =>
      cases current with
      | none => simp
      | some held =>
          simp only [reduceCtorEq, false_and, iff_false]
          split
          · exact Option.some_ne_none bound
          · split <;> exact Option.some_ne_none _

/-- An alternative has no lower bound exactly when none of its comparators bounds from below. -/
theorem lowerBound?_eq_none_iff {alternative : Alternative} :
    alternative.lowerBound? = none ↔ ∀ comparator ∈ alternative, ¬ comparator.IsLower := by
  -- The bound held so far is generalised: it must be none at the start and at each step.
  have folded (current : Option Bound) (comparators : List Comparator) :
      comparators.foldl tighten current = none ↔
        current = none ∧ ∀ comparator ∈ comparators, ¬ comparator.IsLower := by
    induction comparators generalizing current with
    | nil => simp
    | cons comparator comparators inductionHypothesis =>
        rw [List.foldl_cons, inductionHypothesis, tighten_eq_none_iff,
          Comparator.lowerBound?_eq_none_iff, List.forall_mem_cons, and_assoc]
  rw [lowerBound?, folded, eq_self_iff_true, true_and]

/-- So it has one exactly when one of them does. -/
theorem isSome_lowerBound?_iff {alternative : Alternative} :
    alternative.lowerBound?.isSome = true ↔ ∃ comparator ∈ alternative, comparator.IsLower := by
  rw [Option.isSome_iff_ne_none, ne_eq, lowerBound?_eq_none_iff]
  simp

/-- The bound held after a comparator was held before or is set by that comparator. -/
theorem eq_or_lowerBound?_of_tighten {current : Option Bound} {comparator : Comparator}
    {bound : Bound} (picked : tighten current comparator = some bound) :
    current = some bound ∨ comparator.lowerBound? = some bound := by
  unfold tighten at picked
  cases own : comparator.lowerBound? with
  | none =>
      rw [own] at picked
      exact .inl picked
  | some candidate =>
      rw [own] at picked
      cases current with
      | none => exact .inr picked
      | some held =>
          dsimp only at picked
          split at picked
          case isTrue => exact .inr picked
          case isFalse =>
            split at picked
            case isTrue => exact .inr picked
            case isFalse => exact .inl picked

/-- The bound held after several comparators was held before or is set by one of them. -/
theorem eq_or_exists_lowerBound?_of_foldl_tighten {current : Option Bound}
    {comparators : List Comparator} {bound : Bound}
    (picked : comparators.foldl tighten current = some bound) :
    current = some bound ∨ ∃ comparator ∈ comparators, comparator.lowerBound? = some bound := by
  induction comparators generalizing current with
  | nil => exact .inl picked
  | cons comparator comparators inductionHypothesis =>
      rw [List.foldl_cons] at picked
      rcases inductionHypothesis picked with held | ⟨setter, member, set⟩
      · rcases eq_or_lowerBound?_of_tighten held with held | set
        · exact .inl held
        · exact .inr ⟨comparator, List.mem_cons_self, set⟩
      · exact .inr ⟨setter, List.mem_cons_of_mem comparator member, set⟩

/-- So the bound picked from an alternative is set by one of its comparators. -/
theorem exists_lowerBound?_of_lowerBound? {alternative : Alternative} {bound : Bound}
    (picked : alternative.lowerBound? = some bound) :
    ∃ comparator ∈ alternative, comparator.lowerBound? = some bound := by
  rcases eq_or_exists_lowerBound?_of_foldl_tighten picked with held | setter
  · cases held
  · exact setter

/-- Of two bounds the tighter one lies above what either of them lies above. -/
theorem any_isAbove_tighten (current : Option Bound) (comparator : Comparator)
    (version : Version) :
    (tighten current comparator).any (·.isAbove version) =
      (current.any (·.isAbove version) || comparator.isAbove version) := by
  unfold tighten Comparator.isAbove
  cases comparator.lowerBound? with
  | none => simp
  | some bound =>
      cases current with
      | none => simp
      | some held =>
          -- What is not kept lies above no more than what is.
          simp only [Option.any_some]
          split
          case isTrue lower =>
            have absorbed : held.isAbove version = true → bound.isAbove version = true :=
              Bound.isAbove_of_isAbove (le_of_lt lower) fun same => absurd same (ne_of_lt lower)
            exact (Bool.or_eq_right_iff_imp.mpr absorbed).symm
          case isFalse notLower =>
            split
            case isTrue strict =>
              have absorbed : held.isAbove version = true → bound.isAbove version = true :=
                Bound.isAbove_of_isAbove (not_lt.mp strict.2) fun _ _ => strict.1
              exact (Bool.or_eq_right_iff_imp.mpr absorbed).symm
            case isFalse notStrict =>
              have absorbed : bound.isAbove version = true → held.isAbove version = true :=
                Bound.isAbove_of_isAbove (not_lt.mp notLower) fun same greater =>
                  absurd ⟨greater, same ▸ lt_irrefl bound.version⟩ notStrict
              exact (Bool.or_eq_left_iff_imp.mpr absorbed).symm

/-- Tightening along an alternative keeps lying above whatever one of the bounds
passed lies above. -/
theorem any_isAbove_foldl_tighten (alternative : List Comparator) (current : Option Bound)
    (version : Version) :
    (alternative.foldl tighten current).any (·.isAbove version) =
      (current.any (·.isAbove version) || alternative.any (·.isAbove version)) := by
  induction alternative generalizing current with
  | nil => simp
  | cons comparator alternative inductionHypothesis =>
      rw [List.foldl_cons, inductionHypothesis, any_isAbove_tighten, List.any_cons, Bool.or_assoc]

/-- An alternative lies above a version exactly when one of its comparators sets a
lower bound above it. -/
theorem isAbove_eq_any (alternative : Alternative) (version : Version) :
    alternative.isAbove version = List.any alternative (·.isAbove version) := by
  have folded := any_isAbove_foldl_tighten alternative none version
  rw [Option.any_none, Bool.false_or] at folded
  rw [← folded, isAbove, lowerBound?]
  cases List.foldl tighten none alternative <;> rfl

end Alternative

end ManifestAudit
