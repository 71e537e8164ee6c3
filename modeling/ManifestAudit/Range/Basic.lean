import ManifestAudit.Version.Basic

/-!
# Version ranges

A range is a choice of alternatives, and an alternative is a conjunction of
comparators. `Range.admits` is membership. `Range.isAbove` asks whether a
version lies below everything the range could admit; it decides from one bound
per alternative, the tightest lower bound that `lowerBound?` picks.
-/

namespace ManifestAudit

/-- How a version is compared with a bound. `plain` is a bound without an operator. -/
inductive Relation where
  | plain
  | equal
  | less
  | atMost
  | greater
  | atLeast
  deriving Repr, DecidableEq

namespace Relation

/-- The operator as it is written. -/
def text : Relation → String
  | plain => ""
  | equal => "="
  | less => "<"
  | atMost => "<="
  | greater => ">"
  | atLeast => ">="

/-- Whether a version stands in the relation to a bound. -/
def holds : Relation → Version → Version → Bool
  | plain, version, bound => version.compare bound = .eq
  | equal, version, bound => version.compare bound = .eq
  | less, version, bound => version < bound
  | atMost, version, bound => version ≤ bound
  | greater, version, bound => bound < version
  | atLeast, version, bound => bound ≤ version

/-- Whether the relation keeps versions from being arbitrarily low. -/
def isLower : Relation → Bool
  | plain | equal | greater | atLeast => true
  | less | atMost => false

end Relation

/-- A relation together with the version it compares with. -/
structure Bound where
  relation : Relation
  version : Version
  deriving Repr, DecidableEq

namespace Bound

/-- The bound as it is written. -/
def text (bound : Bound) : String :=
  bound.relation.text ++ bound.version.text

/-- The lower bound of a comparator that admits everything. -/
def lowest : Bound :=
  ⟨.atLeast, Version.release 0 0 0⟩

/-- Whether a version lies below everything a lower bound allows. A strict bound
excludes its own version too. -/
def isAbove (bound : Bound) (version : Version) : Bool :=
  match bound.relation with
  | .greater => version ≤ bound.version
  | _ => version < bound.version

end Bound

/-- One condition of an alternative. -/
inductive Comparator where
  | any
  | bounded (bound : Bound)
  deriving Repr, DecidableEq

namespace Comparator

/-- The comparator as it is written; the empty text admits everything. -/
def text : Comparator → String
  | any => ""
  | bounded bound => bound.text

/-- Whether a version meets the condition, its pre-release part set aside. -/
def admits : Comparator → Version → Bool
  | any, _ => true
  | bounded bound, version => bound.relation.holds version bound.version

/-- Whether the comparator names a pre-release of the same three numbers as the version. -/
def invitesPrerelease : Comparator → Version → Bool
  | any, _ => false
  | bounded bound, version => !bound.version.isRelease && bound.version.sameNumbers version

/-- The bound a comparator sets from below, if any. -/
def lowerBound? : Comparator → Option Bound
  | any => some Bound.lowest
  | bounded bound => if bound.relation.isLower then some bound else none

end Comparator

/-- Comparators that must all hold. -/
abbrev Alternative := List Comparator

namespace Alternative

/-- Membership in an alternative. A pre-release is admitted only where some
comparator names a pre-release of the same three numbers. -/
def admits (alternative : Alternative) (version : Version) : Bool :=
  List.all alternative (·.admits version) &&
    (version.isRelease || List.any alternative (·.invitesPrerelease version))

/-- The tighter of a bound held so far and the lower bound of a comparator. Of
two bounds at one version the strict one is tighter. -/
def tighten (current : Option Bound) (comparator : Comparator) : Option Bound :=
  match comparator.lowerBound? with
  | none => current
  | some bound =>
    match current with
    | none => some bound
    | some held =>
      if held.version < bound.version then some bound
      else if bound.relation = .greater ∧ ¬ bound.version < held.version then some bound
      else some held

/-- The tightest lower bound of an alternative, if it has one. -/
def lowerBound? (alternative : Alternative) : Option Bound :=
  alternative.foldl tighten none

/-- Whether the alternative's lower bound puts it wholly above a version. -/
def isAbove (alternative : Alternative) (version : Version) : Bool :=
  match alternative.lowerBound? with
  | none => false
  | some bound => bound.isAbove version

end Alternative

/-- A choice of alternatives. -/
structure Range where
  alternatives : List Alternative
  deriving Repr, DecidableEq

namespace Range

/-- Membership: some alternative admits the version. -/
def admits (range : Range) (version : Version) : Bool :=
  range.alternatives.any (·.admits version)

/-- Whether every alternative lies wholly above a version. -/
def isAbove (range : Range) (version : Version) : Bool :=
  range.alternatives.all (·.isAbove version)

end Range

end ManifestAudit
