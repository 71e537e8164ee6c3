import ManifestAudit.Proofs.Range.Refusal
import Mathlib.Data.List.Forall2

/-!
# The arrangement of comparators

The lower bound of an alternative is picked while its comparators are passed one by one, so
which of several equally tight ones it is depends on where they stand. What it says about
versions does not: by `Alternative.isTightest_of_lowerBound?` it has below it whatever lies
below one of the comparators. `Requirement.isAboveText_rearranged` concludes that comparators
may change places and be repeated.

These are the comparators that are read. In a text a star counts as one of them at either end
of an alternative, and between two others as none.
-/

namespace ManifestAudit

/-- A version lies below a bound: before it, or also at it where the bound is strict. -/
def Version.IsBelow (version : Version) (bound : Bound) : Prop :=
  if bound.relation.text = ">" then version ≤ bound.version else version < bound.version

/-- A bound lies above the versions below it. -/
theorem Bound.isAbove_eq_true_iff_isBelow {bound : Bound} {version : Version} :
    bound.isAbove version = true ↔ version.IsBelow bound := by
  obtain ⟨relation, limit⟩ := bound
  cases relation <;> simp [isAbove, Version.IsBelow, Relation.text]

/-- A comparator lies above a version when it bounds from below, with a bound that the version
lies below. -/
theorem Comparator.isAbove_eq_true_iff {comparator : Comparator} {version : Version} :
    comparator.isAbove version = true ↔
      comparator.IsLower ∧ version.IsBelow comparator.limit := by
  rw [isAbove, Option.any_eq_true]
  constructor
  · rintro ⟨bound, held, above⟩
    obtain ⟨lower, rfl⟩ := lowerBound?_eq_some_iff.mp held
    exact ⟨lower, Bound.isAbove_eq_true_iff_isBelow.mp above⟩
  · rintro ⟨lower, below⟩
    exact ⟨comparator.limit, lowerBound?_eq_some_iff.mpr ⟨lower, rfl⟩,
      Bound.isAbove_eq_true_iff_isBelow.mpr below⟩

namespace Alternative

/-- A bound that can stand for all the comparators that bound an alternative from below. -/
structure IsTightest (alternative : Alternative) (bound : Bound) : Prop where
  /-- One of them sets it. -/
  isSet : ∃ comparator ∈ alternative, comparator.IsLower ∧ comparator.limit = bound
  /-- Below it are the versions that are below at least one of them. -/
  isBelow_iff : ∀ version : Version, version.IsBelow bound ↔
    ∃ comparator ∈ alternative, comparator.IsLower ∧ version.IsBelow comparator.limit

/-- The bound that is picked can. -/
theorem isTightest_of_lowerBound? {alternative : Alternative} {bound : Bound}
    (picked : alternative.lowerBound? = some bound) : alternative.IsTightest bound where
  isSet := by
    obtain ⟨comparator, member, set⟩ := exists_lowerBound?_of_lowerBound? picked
    exact ⟨comparator, member, Comparator.lowerBound?_eq_some_iff.mp set⟩
  isBelow_iff := by
    intro version
    have judged : alternative.isAbove version = bound.isAbove version := by
      rw [isAbove, picked]
    rw [← Bound.isAbove_eq_true_iff_isBelow, ← judged, isAbove_eq_true_iff]
    simp only [Comparator.isAbove_eq_true_iff]

/-- Two alternatives with the same comparators, each at any places and any number of times. -/
def Rearranged (left right : Alternative) : Prop :=
  ∀ comparator, comparator ∈ left ↔ comparator ∈ right

instance (left right : Alternative) : Decidable (left.Rearranged right) :=
  decidable_of_iff (left ⊆ right ∧ right ⊆ left)
    ⟨fun both _ => ⟨(both.1 ·), (both.2 ·)⟩,
      fun same => ⟨fun _ => (same _).mp, fun _ => (same _).mpr⟩⟩

namespace Rearranged

variable {left right : Alternative}

/-- Both have a lower bound or neither has. -/
theorem isSome_lowerBound?_eq (same : left.Rearranged right) :
    left.lowerBound?.isSome = right.lowerBound?.isSome := by
  rw [Bool.eq_iff_iff, isSome_lowerBound?_iff, isSome_lowerBound?_iff]
  exact exists_congr fun comparator => and_congr_left' (same comparator)

/-- They lie above the same versions. -/
theorem isAbove_eq (same : left.Rearranged right) (version : Version) :
    left.isAbove version = right.isAbove version := by
  rw [Bool.eq_iff_iff, isAbove_eq_true_iff, isAbove_eq_true_iff]
  exact exists_congr fun comparator => and_congr_left' (same comparator)

end Rearranged

end Alternative

namespace Range

/-- Two ranges whose alternatives have, one by one, the same comparators. -/
def Rearranged (left right : Range) : Prop :=
  List.Forall₂ Alternative.Rearranged left.alternatives right.alternatives

instance (left right : Range) : Decidable (left.Rearranged right) :=
  inferInstanceAs (Decidable (List.Forall₂ ..))

end Range

namespace Requirement

/-- Alternatives are judged alike if each has the same comparators as its counterpart. -/
theorem alternativesAbove_rearranged {lefts rights : List Alternative}
    (same : List.Forall₂ Alternative.Rearranged lefts rights) (version : String) :
    alternativesAbove version lefts = alternativesAbove version rights := by
  cases names : Version.parse? version with
  | some parsed =>
      rw [alternativesAbove_eq names, alternativesAbove_eq names, Except.ok.injEq]
      induction same with
      | nil => rfl
      | cons first _ inductionHypothesis =>
          rw [List.all_cons, List.all_cons, first.isAbove_eq, inductionHypothesis]
  | none =>
      -- A text that names no version gets no further than the first alternative.
      cases same with
      | nil => rfl
      | cons first _ =>
          rw [alternativesAbove_of_namesNone names, alternativesAbove_of_namesNone names,
            first.isSome_lowerBound?_eq]

/-- An alternative has no lower bound exactly when none of its comparators bounds from below.
The one it has otherwise is set by such a comparator, and a version lies below it exactly when
it lies below at least one of them. So the answer for a version, or the complaint about a text
that names none, stays the same when comparators change places or are repeated. -/
theorem isAboveText_rearranged :
    (∀ alternative : Alternative,
      (alternative.lowerBound? = none ↔ ∀ comparator ∈ alternative, ¬ comparator.IsLower) ∧
      ∀ bound, alternative.lowerBound? = some bound → alternative.IsTightest bound) ∧
    ∀ range rearranged : Range, range.Rearranged rearranged →
      (∀ version, alternativesAbove version range.alternatives =
        alternativesAbove version rearranged.alternatives) ∧
      ∀ text other, Range.parse text = .ok range → Range.parse other = .ok rearranged →
        ∀ version, isAboveText (.string text) version = isAboveText (.string other) version := by
  constructor
  · intro alternative
    exact ⟨Alternative.lowerBound?_eq_none_iff, fun bound => Alternative.isTightest_of_lowerBound?⟩
  · intro range rearranged same
    have judged := alternativesAbove_rearranged same
    refine ⟨judged, fun text other readsText readsOther version => ?_⟩
    simp only [isAboveText, readsText, readsOther, judged version]

/-- The comparators of `* >=1.0.0-rc.1 >1.0.0-rc.1 <2.0.0`. -/
def strictTie : Alternative :=
  [.any, .bounded ⟨.atLeast, ⟨1, 0, 0, [.label "rc", .number 1]⟩⟩,
    .bounded ⟨.greater, ⟨1, 0, 0, [.label "rc", .number 1]⟩⟩, .bounded ⟨.less, .release 2 0 0⟩]

/-- The same in another order, the strict one twice. -/
def strictTieAgain : Alternative :=
  [.bounded ⟨.less, .release 2 0 0⟩, .bounded ⟨.greater, ⟨1, 0, 0, [.label "rc", .number 1]⟩⟩,
    .bounded ⟨.atLeast, ⟨1, 0, 0, [.label "rc", .number 1]⟩⟩,
    .bounded ⟨.greater, ⟨1, 0, 0, [.label "rc", .number 1]⟩⟩, .any]

/-- A star moves from the front to the end. A strict bound that stands behind another one at
its version comes to stand on both sides of that, once with a build label. -/
theorem isAboveText_rearranged_strictTie :
    strictTie.lowerBound? = some ⟨.greater, ⟨1, 0, 0, [.label "rc", .number 1]⟩⟩ ∧
      strictTie.IsTightest ⟨.greater, ⟨1, 0, 0, [.label "rc", .number 1]⟩⟩ ∧
      Range.Rearranged ⟨[strictTie]⟩ ⟨[strictTieAgain]⟩ ∧
      Range.parse "* >=1.0.0-rc.1 >1.0.0-rc.1 <2.0.0" = .ok ⟨[strictTie]⟩ ∧
      Range.parse "<2.0.0 >1.0.0-rc.1+nightly >=1.0.0-rc.1 >1.0.0-rc.1 *" =
        .ok ⟨[strictTieAgain]⟩ ∧
      ∀ version, isAboveText (.string "* >=1.0.0-rc.1 >1.0.0-rc.1 <2.0.0") version =
        isAboveText (.string "<2.0.0 >1.0.0-rc.1+nightly >=1.0.0-rc.1 >1.0.0-rc.1 *") version := by
  obtain ⟨bounds, verdicts⟩ := isAboveText_rearranged
  have picked :
      strictTie.lowerBound? = some ⟨.greater, ⟨1, 0, 0, [.label "rc", .number 1]⟩⟩ := by
    decide
  have same : Range.Rearranged ⟨[strictTie]⟩ ⟨[strictTieAgain]⟩ := by decide
  have reads : Range.parse "* >=1.0.0-rc.1 >1.0.0-rc.1 <2.0.0" = .ok ⟨[strictTie]⟩ := by
    decide +kernel
  have readsAgain : Range.parse "<2.0.0 >1.0.0-rc.1+nightly >=1.0.0-rc.1 >1.0.0-rc.1 *" =
      .ok ⟨[strictTieAgain]⟩ := by
    decide +kernel
  exact ⟨picked, (bounds strictTie).2 _ picked, same, reads, readsAgain,
    (verdicts _ _ same).2 _ _ reads readsAgain⟩

/-- Of a star between two others there is nothing left to move. -/
example :
    isAboveText (.string "* >=0.0.0-alpha <2.0.0") "0.0.0-beta" = .ok true ∧
      isAboveText (.string ">=0.0.0-alpha <2.0.0 *") "0.0.0-beta" = .ok true ∧
      isAboveText (.string ">=0.0.0-alpha * <2.0.0") "0.0.0-beta" = .ok false := by
  decide +kernel

end Requirement

end ManifestAudit
