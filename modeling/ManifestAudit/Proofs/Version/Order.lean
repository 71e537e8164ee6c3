import ManifestAudit.Version.Basic
import Mathlib.Order.Defs.LinearOrder

/-!
# Versions are linearly ordered

The precedence order is lexicographic in every part of a version, so it is
rebuilt here from the comparisons of the library. `Version` is then a linear
order in the usual sense: two versions that compare as equal are equal, and what
a range says about a version can be argued with inequalities alone.
-/

namespace ManifestAudit

namespace Identifier

/-- Swapping two identifiers swaps the answer of their comparison. -/
theorem compare_swap (left right : Identifier) :
    left.compare right = (right.compare left).swap := by
  cases left <;> cases right <;> simp only [compare]
  case number.number => exact Std.OrientedOrd.eq_swap
  case label.label => exact Std.OrientedOrd.eq_swap
  all_goals rfl

instance : Std.OrientedCmp Identifier.compare where
  eq_swap := compare_swap _ _

instance : Std.TransCmp Identifier.compare where
  isLE_trans {first second third} firstSecond secondThird := by
    cases first <;> cases second <;> cases third <;> simp only [compare] at *
    case number.number.number => exact Std.TransOrd.isLE_trans firstSecond secondThird
    case label.label.label => exact Std.TransOrd.isLE_trans firstSecond secondThird
    all_goals first | contradiction | rfl

instance : Std.LawfulEqCmp Identifier.compare where
  compare_self {identifier} := by
    cases identifier <;> exact Std.ReflOrd.compare_self
  eq_of_compare {left right} same := by
    cases left <;> cases right <;> simp [compare] at same
    case number.number => rw [same]
    case label.label => rw [same]

end Identifier

namespace Version

/-- Identifier lists are compared as lists are in general. -/
theorem compareIdentifiers_eq_compareLex (lefts rights : List Identifier) :
    compareIdentifiers lefts rights = List.compareLex Identifier.compare lefts rights := by
  induction lefts generalizing rights with
  | nil => cases rights <;> rfl
  | cons left lefts inductionHypothesis =>
      cases rights with
      | nil => rfl
      | cons right rights =>
          rw [compareIdentifiers, List.compareLex_cons_cons, inductionHypothesis]

/-- A release is the pre-release list that compares as the emptier one; among
pre-releases the identifiers decide. -/
theorem comparePrerelease_eq_compareLex (lefts rights : List Identifier) :
    comparePrerelease lefts rights =
      compareLex (compareOn List.isEmpty) (List.compareLex Identifier.compare) lefts rights := by
  cases lefts <;> cases rights <;>
    simp [comparePrerelease, compareLex, compareOn, compareIdentifiers_eq_compareLex] <;> rfl

instance : Std.TransCmp comparePrerelease := by
  have lexicographic : comparePrerelease =
      compareLex (compareOn List.isEmpty) (List.compareLex Identifier.compare) :=
    funext fun lefts => funext fun rights => comparePrerelease_eq_compareLex lefts rights
  rw [lexicographic]
  infer_instance

instance : Std.LawfulEqCmp comparePrerelease where
  compare_self := Std.ReflCmp.compare_self
  eq_of_compare {lefts rights} same := by
    rw [comparePrerelease_eq_compareLex, compareLex_eq_eq] at same
    exact Std.LawfulEqCmp.eq_of_compare same.2

/-- Versions as compared by their pre-releases alone. -/
instance : Std.TransCmp fun left right : Version =>
    comparePrerelease left.prerelease right.prerelease where
  eq_swap := Std.OrientedCmp.eq_swap
  isLE_trans := Std.TransCmp.isLE_trans

/-- The three numbers decide in turn, and the pre-releases decide last. -/
theorem compare_eq_compareLex :
    Version.compare = compareLex (compareOn major) (compareLex (compareOn minor)
      (compareLex (compareOn patch) fun left right =>
        comparePrerelease left.prerelease right.prerelease)) :=
  rfl

instance : Std.TransCmp Version.compare := by
  rw [compare_eq_compareLex]
  infer_instance

instance : Std.LawfulEqCmp Version.compare where
  compare_self := Std.ReflCmp.compare_self
  eq_of_compare {left right} same := by
    simp only [compare_eq_compareLex, compareLex_eq_eq, compareOn, Nat.compare_eq_eq] at same
    obtain ⟨majors, minors, patches, prereleases⟩ := same
    cases left
    cases right
    congr
    exact Std.LawfulEqCmp.eq_of_compare prereleases

/-- Swapping two versions swaps the answer of their comparison. -/
theorem compare_swap (left right : Version) :
    left.compare right = (right.compare left).swap :=
  Std.OrientedCmp.eq_swap

/-- Two versions compare as equal exactly when they are equal. -/
theorem compare_eq_iff {left right : Version} : left.compare right = .eq ↔ left = right :=
  Std.LawfulEqCmp.compare_eq_iff_eq

/-- A version is at most another exactly when it compares as lower or equal. -/
theorem le_iff_isLE {left right : Version} : left ≤ right ↔ (left.compare right).isLE = true :=
  Ordering.ne_gt_iff_isLE

/-- Precedence is a linear order. -/
instance : LinearOrder Version where
  le_refl version := le_iff_isLE.mpr Std.ReflCmp.isLE_rfl
  le_trans _ _ _ firstSecond secondThird :=
    le_iff_isLE.mpr (Std.TransCmp.isLE_trans (le_iff_isLE.mp firstSecond)
      (le_iff_isLE.mp secondThird))
  le_antisymm _ _ leftRight rightLeft :=
    Std.LawfulEqCmp.eq_of_compare
      (Std.OrientedCmp.isLE_antisymm (le_iff_isLE.mp leftRight) (le_iff_isLE.mp rightLeft))
  le_total left right := by
    rw [le_iff_isLE, le_iff_isLE, compare_swap right]
    cases left.compare right <;> simp
  lt_iff_le_not_ge left right := by
    show left.compare right = .lt ↔ left.compare right ≠ .gt ∧ ¬ right.compare left ≠ .gt
    rw [compare_swap right]
    cases left.compare right <;> simp
  toDecidableLE := inferInstance
  toDecidableLT := inferInstance
  toDecidableEq := inferInstance
  compare_eq_compareOfLessAndEq left right := by
    show left.compare right =
      if left.compare right = .lt then .lt else if left = right then .eq else .gt
    simp only [← compare_eq_iff]
    cases left.compare right <;> rfl

/-- A list of identifiers is below the empty one, which marks a release, exactly
when it holds any. -/
theorem comparePrerelease_nil_eq_lt_iff {identifiers : List Identifier} :
    comparePrerelease identifiers [] = .lt ↔ identifiers ≠ [] := by
  cases identifiers <;> simp [comparePrerelease]

/-- Below the release with all numbers zero there are its own pre-releases and
nothing else. -/
theorem lt_release_zero_iff {version : Version} :
    version < release 0 0 0 ↔
      version.major = 0 ∧ version.minor = 0 ∧ version.patch = 0 ∧ version.prerelease ≠ [] := by
  show version.compare (release 0 0 0) = .lt ↔ _
  simp [Version.compare, release, Ordering.then_eq_lt, Nat.compare_eq_lt,
    comparePrerelease_nil_eq_lt_iff]

/-- No release is below the release with all numbers zero. -/
theorem release_zero_le {version : Version} (isRelease : version.isRelease = true) :
    release 0 0 0 ≤ version := by
  rw [← not_lt, lt_release_zero_iff]
  rintro ⟨_, _, _, identifiers⟩
  exact identifiers (List.isEmpty_iff.mp isRelease)

end Version

end ManifestAudit
