import ManifestAudit.Proofs.Range.LowerBound

/-!
# Membership against lower bounds

Two readings of a range meet here: which versions it admits, and which versions
lie below it. What is below is below every version admitted, with one exception
that `Alternative.lt_of_isAbove_of_admits` names. In return a release that is not
below an alternative is admitted by it as soon as anything greater is.
-/

namespace ManifestAudit

namespace Relation

/-- Only the bound itself meets a bound without an operator. -/
theorem eq_of_holds_plain {version bound : Version} (holds : plain.holds version bound = true) :
    version = bound :=
  Version.compare_eq_iff.mp (of_decide_eq_true holds)

/-- Only the bound itself meets a bound by equality. -/
theorem eq_of_holds_equal {version bound : Version} (holds : equal.holds version bound = true) :
    version = bound :=
  Version.compare_eq_iff.mp (of_decide_eq_true holds)

end Relation

namespace Comparator

/-- The bound of a comparator without one of its own is `0.0.0`. -/
theorem isAbove_any_eq_true_iff {version : Version} :
    any.isAbove version = true ↔ version < Version.release 0 0 0 := by
  simp [isAbove, lowerBound?, Bound.isAbove, Bound.lowest]

/-- A comparator with a bound lies above a version when its bound is a lower one and
does. -/
theorem isAbove_bounded {bound : Bound} {version : Version} :
    (bounded bound).isAbove version = (bound.relation.isLower && bound.isAbove version) := by
  cases lower : bound.relation.isLower <;> simp [isAbove, lowerBound?, lower]

/-- A version that meets a bound is greater than every version that the bound lies above. -/
theorem lt_of_isAbove_bounded {bound : Bound} {version other : Version}
    (above : (bounded bound).isAbove version = true)
    (admitted : (bounded bound).admits other = true) : version < other := by
  obtain ⟨relation, limit⟩ := bound
  rw [isAbove_bounded, Bool.and_eq_true, Bound.isAbove_eq_true_iff] at above
  obtain ⟨lower, above⟩ := above
  cases relation with
  | less => cases lower
  | atMost => cases lower
  | plain => simpa [Relation.eq_of_holds_plain admitted] using above
  | equal => simpa [Relation.eq_of_holds_equal admitted] using above
  | atLeast =>
      have reached : limit ≤ other := by simpa [admits, Relation.holds] using admitted
      have below : version < limit := by simpa using above
      exact lt_of_lt_of_le below reached
  | greater =>
      have passed : limit < other := by simpa [admits, Relation.holds] using admitted
      rcases above with below | ⟨_, rfl⟩
      · exact lt_trans below passed
      · exact passed

/-- A version that no lower bound of the comparator lies above is admitted as soon as
a greater one is. -/
theorem admits_of_lt {comparator : Comparator} {version other : Version}
    (notAbove : comparator.isAbove version = false)
    (admitted : comparator.admits other = true) (less : version < other) :
    comparator.admits version = true := by
  cases comparator with
  | any => rfl
  | bounded bound =>
      obtain ⟨relation, limit⟩ := bound
      rw [isAbove_bounded] at notAbove
      cases relation with
      | plain =>
          have notBelow : ¬ version < limit := by
            simpa [Relation.isLower, Bound.isAbove] using notAbove
          have same : other = limit := Relation.eq_of_holds_plain admitted
          exact absurd (same ▸ less) notBelow
      | equal =>
          have notBelow : ¬ version < limit := by
            simpa [Relation.isLower, Bound.isAbove] using notAbove
          have same : other = limit := Relation.eq_of_holds_equal admitted
          exact absurd (same ▸ less) notBelow
      | less =>
          have below : other < limit := by simpa [admits, Relation.holds] using admitted
          simpa [admits, Relation.holds] using lt_trans less below
      | atMost =>
          have within : other ≤ limit := by simpa [admits, Relation.holds] using admitted
          simpa [admits, Relation.holds] using le_of_lt (lt_of_lt_of_le less within)
      | greater => simpa [admits, Relation.holds, Relation.isLower, Bound.isAbove] using notAbove
      | atLeast => simpa [admits, Relation.holds, Relation.isLower, Bound.isAbove] using notAbove

end Comparator

namespace Alternative

/-- An alternative admits what all its comparators admit, pre-releases only when
invited. -/
theorem admits_eq_true_iff {alternative : Alternative} {version : Version} :
    alternative.admits version = true ↔
      (∀ comparator ∈ alternative, comparator.admits version = true) ∧
        (version.isRelease = true ∨
          ∃ comparator ∈ alternative, comparator.invitesPrerelease version = true) := by
  simp [admits]

/-- Some comparator of an alternative accounts for its lying above a version. -/
theorem isAbove_eq_true_iff {alternative : Alternative} {version : Version} :
    alternative.isAbove version = true ↔
      ∃ comparator ∈ alternative, comparator.isAbove version = true := by
  rw [isAbove_eq_any, List.any_eq_true]

/-- What an alternative admits is greater than every version below the alternative. The
exception are the pre-releases of `0.0.0`, which are below a comparator that admits
everything. -/
theorem lt_of_isAbove_of_admits {alternative : Alternative} {version other : Version}
    (above : alternative.isAbove version = true) (admitted : alternative.admits other = true) :
    version < other ∨ Comparator.any ∈ alternative ∧ version < Version.release 0 0 0 := by
  obtain ⟨comparator, member, above⟩ := isAbove_eq_true_iff.mp above
  have met := (admits_eq_true_iff.mp admitted).1 comparator member
  cases comparator with
  | any => exact .inr ⟨member, Comparator.isAbove_any_eq_true_iff.mp above⟩
  | bounded bound => exact .inl (Comparator.lt_of_isAbove_bounded above met)

/-- A release that is not below an alternative is admitted as soon as a greater version
is: releases need no invitation. -/
theorem admits_of_lt {alternative : Alternative} {version other : Version}
    (isRelease : version.isRelease = true) (notAbove : alternative.isAbove version = false)
    (admitted : alternative.admits other = true) (less : version < other) :
    alternative.admits version = true := by
  refine admits_eq_true_iff.mpr ⟨fun comparator member => ?_, .inl isRelease⟩
  have comparatorNotAbove : comparator.isAbove version = false := by
    rw [isAbove_eq_any, List.any_eq_false] at notAbove
    simpa using notAbove comparator member
  exact Comparator.admits_of_lt comparatorNotAbove
    ((admits_eq_true_iff.mp admitted).1 comparator member) less

end Alternative

end ManifestAudit
