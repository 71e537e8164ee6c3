import ManifestAudit.Lookup
import Mathlib.Data.List.Infix

/-!
# What a lookup finds

A lookup gives up as soon as a value on its way is not declared. Nothing is lost by that:
`Lookup.dig_eq_iff_follows` says that what it finds is what the names lead to, member by
member, with one question at the end whether that is declared. `Lookup.dig_composes` adds that
a lookup may be made in two parts, the second one in what the first has found.
-/

namespace ManifestAudit.Lookup

/-- Names lead from a document through the members of objects to a value. -/
inductive Follows : Json.Value → List Text → Json.Value → Prop where
  | here {value : Json.Value} : Follows value [] value
  | member {members : Json.Members} {name : Text} {names : List Text} {inner value : Json.Value}
      (held : members.get? name = some inner) (onward : Follows inner names value) :
      Follows (.object members) (name :: names) value

/-- What is declared is not null. -/
theorem isNull_eq_false_of_isDeclared {value : Json.Value} (declared : isDeclared value = true) :
    value.isNull = false := by
  cases value with
  | null => cases declared
  | _ => rfl

/-- A value is present exactly when it is not the null value. -/
theorem isNull_eq_false_iff {value : Json.Value} : value.isNull = false ↔ value ≠ .null := by
  cases value <;> simp [Json.Value.isNull]

/-- A member that is present is held by an object. -/
theorem member_eq_iff {document value : Json.Value} {name : Text}
    (present : value.isNull = false) :
    member document name = value ↔
      ∃ members, document = .object members ∧ Json.Members.get? members name = some value := by
  have absent := (isNull_eq_false_iff.mp present).symm
  cases document with
  | object members => cases held : Json.Members.get? members name <;> simp [member, held, absent]
  | _ => simp [member, absent]

/-- A lookup sees no more of a document than the member under its first name. -/
theorem dig_cons_congr {left right : Json.Value} {name : Text}
    (same : member left name = member right name) (names : List Text) :
    dig left (name :: names) = dig right (name :: names) := by
  rw [dig, dig, same]

/-- Where that is an object, the lookup goes on within it. -/
theorem dig_cons_of_object {document : Json.Value} {name : Text} {inner : Json.Members}
    (held : member document name = .object inner) (names : List Text) :
    dig document (name :: names) = dig (.object inner) names := by
  rw [dig, held]
  rfl

/-- A lookup finds a declared value exactly when the names lead to it. -/
theorem dig_eq_iff_follows_of_isDeclared {document value : Json.Value} {names : List Text}
    (declared : isDeclared value = true) :
    dig document names = value ↔ Follows document names value := by
  induction names generalizing document with
  | nil =>
      constructor
      · rintro rfl
        exact .here
      · rintro ⟨⟩
        rfl
  | cons name names inductionHypothesis =>
      rw [dig]
      constructor
      · intro found
        split at found
        case isTrue innerDeclared =>
          obtain ⟨members, rfl, held⟩ :=
            (member_eq_iff (isNull_eq_false_of_isDeclared innerDeclared)).mp rfl
          exact .member held (inductionHypothesis.mp found)
        case isFalse =>
          exact absurd found.symm
            (isNull_eq_false_iff.mp (isNull_eq_false_of_isDeclared declared))
      · intro follows
        cases follows with
        | @member members _ _ inner _ held onward =>
            -- Whatever leads onward is an object, which is declared whatever it holds.
            have innerDeclared : isDeclared inner = true := by
              cases onward with
              | here => exact declared
              | member => rfl
            have reached : member (.object members) name = inner :=
              (member_eq_iff (isNull_eq_false_of_isDeclared innerDeclared)).mpr
                ⟨members, rfl, held⟩
            rw [reached, if_pos innerDeclared]
            exact inductionHypothesis.mpr onward

/-- What a lookup under one name or more finds is declared, if it is present at all. -/
theorem isDeclared_of_dig_eq {document value : Json.Value} {name : Text} {names : List Text}
    (present : value.isNull = false) (found : dig document (name :: names) = value) :
    isDeclared value = true := by
  have absent := isNull_eq_false_iff.mp present
  induction names generalizing document name with
  | nil =>
      rw [dig] at found
      split at found
      case isTrue declared => exact found ▸ declared
      case isFalse => exact absurd found.symm absent
  | cons next names inductionHypothesis =>
      rw [dig] at found
      split at found
      case isTrue => exact inductionHypothesis found
      case isFalse => exact absurd found.symm absent

/-- A lookup under one name or more finds a value that is present exactly when the names
lead to it and it is declared. -/
theorem dig_eq_iff_follows {document value : Json.Value} {name : Text} {names : List Text}
    (present : value.isNull = false) :
    dig document (name :: names) = value ↔
      Follows document (name :: names) value ∧ isDeclared value = true := by
  constructor
  · intro found
    have declared := isDeclared_of_dig_eq present found
    exact ⟨(dig_eq_iff_follows_of_isDeclared declared).mp found, declared⟩
  · rintro ⟨follows, declared⟩
    exact (dig_eq_iff_follows_of_isDeclared declared).mpr follows

/-- The plain walk to what the names lead to, declared or not. -/
def walk? (document : Json.Value) : List Text → Option Json.Value
  | [] => some document
  | name :: names =>
    match document with
    | .object members => (Json.Members.get? members name).bind (walk? · names)
    | _ => none

/-- The walk ends at a value exactly when the names lead to it. -/
theorem walk?_eq_some_iff {document value : Json.Value} {names : List Text} :
    walk? document names = some value ↔ Follows document names value := by
  induction names generalizing document with
  | nil =>
      constructor
      · rintro ⟨⟩
        exact .here
      · rintro ⟨⟩
        rfl
  | cons name names inductionHypothesis =>
      constructor
      · intro walked
        cases document with
        | object members =>
            obtain ⟨inner, held, onward⟩ := Option.bind_eq_some_iff.mp walked
            exact .member held (inductionHypothesis.mp onward)
        | _ => cases walked
      · intro follows
        cases follows with
        | member held onward =>
            rw [walk?, held]
            exact inductionHypothesis.mpr onward

/-- A lookup under one name or more finds what the plain walk ends at if that is declared, and
nothing if it is not. -/
theorem dig_cons_eq_walk (document : Json.Value) (name : Text) (names : List Text) :
    dig document (name :: names) =
      ((walk? document (name :: names)).filter isDeclared).getD .null := by
  cases ended : (walk? document (name :: names)).filter isDeclared with
  | some value =>
      obtain ⟨walked, declared⟩ := Option.filter_eq_some_iff.mp ended
      exact (dig_eq_iff_follows_of_isDeclared declared).mpr (walk?_eq_some_iff.mp walked)
  | none =>
      -- If a value were found after all, it would be declared and the end of the walk, too.
      by_contra present
      obtain ⟨follows, declared⟩ := (dig_eq_iff_follows (isNull_eq_false_iff.mpr present)).mp rfl
      rw [walk?_eq_some_iff.mpr follows, Option.filter_some, if_pos declared] at ended
      cases ended

/-- Nothing is found in the null value. -/
theorem dig_null (names : List Text) : dig .null names = .null := by
  cases names <;> rfl

/-- To look up some names and then others in what is found is to look up all of them. -/
theorem dig_append (document : Json.Value) (names others : List Text) :
    dig document (names ++ others) = dig (dig document names) others := by
  induction names generalizing document with
  | nil => rfl
  | cons name names inductionHypothesis =>
      rw [List.cons_append, dig, dig]
      split
      case isTrue => exact inductionHypothesis (member document name)
      case isFalse => exact (dig_null others).symm

/-- A lookup may be made in two parts, at whatever place it is parted. Under one name or more
it finds a value that is present exactly when the names lead to it, each through an object that
has the member, and it is declared. To give up earlier, at a value on the way that is not
declared, changes nothing: the answer is that of the plain walk with one question at its end. -/
theorem dig_composes (document : Json.Value) :
    (∀ names others : List Text,
      dig document (names ++ others) = dig (dig document names) others) ∧
    ∀ (name : Text) (names : List Text),
      (∀ value, dig document (name :: names) = value ∧ value ≠ .null ↔
        Follows document (name :: names) value ∧ isDeclared value = true) ∧
      dig document (name :: names) =
        ((walk? document (name :: names)).filter isDeclared).getD .null := by
  refine ⟨dig_append document, fun name names => ⟨fun value => ?_, dig_cons_eq_walk ..⟩⟩
  constructor
  · rintro ⟨found, absent⟩
    exact (dig_eq_iff_follows (isNull_eq_false_iff.mpr absent)).mp found
  · rintro ⟨follows, declared⟩
    have present := isNull_eq_false_of_isDeclared declared
    exact ⟨(dig_eq_iff_follows present).mpr ⟨follows, declared⟩, isNull_eq_false_iff.mp present⟩

/-- What the plain walk ends at is not found if it is not declared. -/
example :
    walk? (.object [("scripts", .object [("lint", .string "")])]) ["scripts", "lint"] =
        some (.string "") ∧
      dig (.object [("scripts", .object [("lint", .string "")])]) ["scripts", "lint"] = .null :=
  ⟨rfl, rfl⟩

/-- One text occurs within another exactly when it is a stretch of it. -/
theorem occursIn_iff_isInfix {needle text : Text} :
    occursIn needle text = true ↔ needle <:+: text := by
  induction text with
  | nil => simp [occursIn]
  | cons symbol rest inductionHypothesis =>
      rw [occursIn, Bool.or_eq_true, List.isPrefixOf_iff_prefix, inductionHypothesis,
        List.infix_cons_iff]

end ManifestAudit.Lookup
