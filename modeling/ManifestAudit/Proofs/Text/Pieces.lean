import ManifestAudit.Proofs.Text
import ManifestAudit.Text.Blank

/-!
# Cutting and trimming

Cutting at a doubled separator goes through a text from the left, so what stands in front of
a separator decides nothing about the pieces behind it, as long as the two do not touch.
Trimming does not see a blank that was added at an end. Cutting at blanks undoes putting
pieces together with spaces.
-/

namespace ManifestAudit.Text

/-! ## Doubled separators -/

section Doubled

variable {α : Type} [DecidableEq α] {separator item : α}

/-- There is always a piece. -/
theorem splitDouble_ne_nil (separator : α) (items : List α) : splitDouble separator items ≠ [] := by
  fun_induction splitDouble separator items with
  | case4 first next rest notBoth inductionHypothesis =>
      cases splitDouble separator (next :: rest) <;> exact List.cons_ne_nil _ _
  | _ => exact List.cons_ne_nil _ _

/-- An item that is no separator goes to the first piece. -/
theorem splitDouble_cons_of_ne (other : item ≠ separator) (items : List α) :
    splitDouble separator (item :: items) = consFirst item (splitDouble separator items) := by
  cases items with
  | nil => rfl
  | cons next rest => rw [splitDouble, if_neg fun both => other both.1]

/-- Two separators end the first piece. -/
theorem splitDouble_cons_cons_self (items : List α) :
    splitDouble separator (separator :: separator :: items) =
      [] :: splitDouble separator items := by
  rw [splitDouble, if_pos ⟨rfl, rfl⟩]

/-- Without a separator there is one piece. -/
theorem splitDouble_of_not_mem {items : List α} (free : separator ∉ items) :
    splitDouble separator items = [items] := by
  induction items with
  | nil => rfl
  | cons item items inductionHypothesis =>
      obtain ⟨other, free⟩ := not_or.mp (mt List.mem_cons.mpr free)
      rw [splitDouble_cons_of_ne (Ne.symm other), inductionHypothesis free]
      rfl

/-- A doubled separator behind an item that is none cuts there: in front of it the pieces are
those of the front, the last with that item behind it, and after it those of the rest. -/
theorem exists_splitDouble_append (other : item ≠ separator) (before behind : List α) :
    ∃ pieces last, splitDouble separator before = pieces ++ [last] ∧
      splitDouble separator (before ++ item :: separator :: separator :: behind) =
        pieces ++ (last ++ [item]) :: splitDouble separator behind := by
  have seam : splitDouble separator (item :: separator :: separator :: behind) =
      [item] :: splitDouble separator behind := by
    rw [splitDouble_cons_of_ne other, splitDouble_cons_cons_self]
    rfl
  fun_induction splitDouble separator before with
  | case1 => exact ⟨[], [], rfl, seam⟩
  | case2 first =>
      refine ⟨[], [first], rfl, ?_⟩
      rw [List.singleton_append, splitDouble, if_neg fun both => other both.2, seam]
      rfl
  | case3 first next rest both inductionHypothesis =>
      obtain ⟨pieces, last, front, whole⟩ := inductionHypothesis
      obtain ⟨rfl, rfl⟩ := both
      refine ⟨[] :: pieces, last, ?_, ?_⟩
      · rw [front]
        rfl
      · rw [List.cons_append, List.cons_append, splitDouble_cons_cons_self, whole]
        rfl
  | case4 first next rest notBoth inductionHypothesis =>
      obtain ⟨pieces, last, front, whole⟩ := inductionHypothesis
      have whole' : splitDouble separator
          (first :: next :: rest ++ item :: separator :: separator :: behind) =
            consFirst first (pieces ++ (last ++ [item]) :: splitDouble separator behind) := by
        rw [← whole, List.cons_append, List.cons_append, splitDouble, if_neg notBoth]
      rw [front, whole']
      cases pieces with
      | nil => exact ⟨[], first :: last, rfl, rfl⟩
      | cons piece pieces => exact ⟨(first :: piece) :: pieces, last, rfl, rfl⟩

end Doubled

/-! ## Trimming -/

section Trimming

variable {α : Type} {accepts : α → Bool} {item : α}

/-- An item of the class that is added behind is dropped again. -/
theorem dropEnds_concat (accepted : accepts item = true) (items : List α) :
    dropEnds accepts (items ++ [item]) = dropEnds accepts items := by
  unfold dropEnds dropEnd
  rw [List.dropWhile_append]
  split
  case isTrue nothing => simp [List.isEmpty_iff.mp nothing, accepted]
  case isFalse => rw [List.reverse_append, List.reverse_singleton, List.singleton_append,
    List.dropWhile_cons_of_pos accepted]

/-- So is one that is added in front. -/
theorem dropEnds_cons (accepted : accepts item = true) (items : List α) :
    dropEnds accepts (item :: items) = dropEnds accepts items := by
  unfold dropEnds
  rw [List.dropWhile_cons_of_pos accepted]

/-- The first of the items that are left is not of the class. -/
theorem not_accepts_of_mem_head?_dropEnds {items : List α} :
    ∀ item ∈ (dropEnds accepts items).head?, accepts item = false := by
  intro item first
  -- What is left is the front of the items behind those that were dropped in front.
  have front : dropEnds accepts items <+: items.dropWhile accepts := by
    apply List.reverse_suffix.mp
    rw [dropEnds, dropEnd, List.reverse_reverse]
    exact List.dropWhile_suffix accepts
  have first' : item ∈ (items.dropWhile accepts).head? := by
    obtain ⟨behind, whole⟩ := front
    rw [← whole, List.head?_append, Option.mem_def.mp first]
    rfl
  simpa [Option.mem_def.mp first'] using List.head?_dropWhile_not accepts items

/-- Nor is the last. -/
theorem not_accepts_of_mem_getLast?_dropEnds {items : List α} :
    ∀ item ∈ (dropEnds accepts items).getLast?, accepts item = false := by
  intro item last
  rw [dropEnds, dropEnd, List.getLast?_reverse] at last
  simpa [Option.mem_def.mp last] using
    List.head?_dropWhile_not accepts (items.dropWhile accepts).reverse

/-- Items of which neither the first nor the last is of the class are kept. -/
theorem dropEnds_eq_self {items : List α} (first : ∀ item ∈ items.head?, accepts item = false)
    (last : ∀ item ∈ items.getLast?, accepts item = false) : dropEnds accepts items = items := by
  have keepsFront (items : List α) (front : ∀ item ∈ items.head?, accepts item = false) :
      items.dropWhile accepts = items := by
    cases items with
    | nil => rfl
    | cons item items => rw [List.dropWhile_cons_of_neg (by simp [front item rfl])]
  rw [dropEnds, dropEnd, keepsFront items first, keepsFront, List.reverse_reverse]
  simpa using last

end Trimming

/-! ## Blanks -/

/-- A piece without blanks that is not empty. -/
def IsSolid (piece : Text) : Prop :=
  piece ≠ [] ∧ ∀ symbol ∈ piece, symbol.is isBlank = false

/-- Characters of which none is blank make one. -/
theorem isSolid_ofChars {chars : List Char} (nonempty : chars ≠ [])
    (solid : ∀ c ∈ chars, isBlank c = false) : IsSolid (ofChars chars) :=
  ⟨by simpa [ofChars] using nonempty, by simpa [ofChars, Symbol.is] using solid⟩

/-- A symbol that is no blank goes to the first piece. -/
theorem splitBlank_cons_of_not_isBlank {symbol : Symbol} (solid : symbol.is isBlank = false)
    (text : Text) : splitBlank (symbol :: text) = consFirst symbol (splitBlank text) := by
  cases text with
  | nil => simp [splitBlank, solid, consFirst]
  | cons next rest => simp [splitBlank, solid]

/-- A piece is cut off at the space behind it. -/
theorem splitBlank_append_space {piece : Text}
    (solid : ∀ symbol ∈ piece, symbol.is isBlank = false) {next : Symbol}
    (nextSolid : next.is isBlank = false) (rest : Text) :
    splitBlank (piece ++ .char ' ' :: next :: rest) = piece :: splitBlank (next :: rest) := by
  induction piece with
  | nil =>
      have blank : (Symbol.char ' ').is isBlank = true := rfl
      rw [List.nil_append, splitBlank, if_pos blank, if_neg (by simp [nextSolid])]
  | cons symbol piece inductionHypothesis =>
      obtain ⟨first, solid⟩ := List.forall_mem_cons.mp solid
      rw [List.cons_append, splitBlank_cons_of_not_isBlank first, inductionHypothesis solid]
      rfl

/-- A piece by itself is not cut. -/
theorem splitBlank_of_not_isBlank {piece : Text}
    (solid : ∀ symbol ∈ piece, symbol.is isBlank = false) : splitBlank piece = [piece] := by
  induction piece with
  | nil => rfl
  | cons symbol piece inductionHypothesis =>
      obtain ⟨first, solid⟩ := List.forall_mem_cons.mp solid
      rw [splitBlank_cons_of_not_isBlank first, inductionHypothesis solid]
      rfl

/-- Cutting what was put together with spaces gives the pieces. -/
theorem splitBlank_joinSpace {first : Text} {pieces : List Text}
    (solid : ∀ piece ∈ first :: pieces, IsSolid piece) :
    splitBlank (joinSpace (first :: pieces)) = first :: pieces := by
  induction pieces generalizing first with
  | nil => exact splitBlank_of_not_isBlank (solid first List.mem_cons_self).2
  | cons piece pieces inductionHypothesis =>
      obtain ⟨firstSolid, solid⟩ := List.forall_mem_cons.mp solid
      have rest := inductionHypothesis solid
      obtain ⟨symbol, symbols, rfl⟩ := List.exists_cons_of_ne_nil (solid piece List.mem_cons_self).1
      have symbolSolid := (solid _ List.mem_cons_self).2 symbol List.mem_cons_self
      -- What stands behind the space begins with the first symbol of the next piece.
      have begins : ∃ behind, joinSpace ((symbol :: symbols) :: pieces) = symbol :: behind := by
        cases pieces with
        | nil => exact ⟨symbols, rfl⟩
        | cons => exact ⟨_, rfl⟩
      obtain ⟨behind, begins⟩ := begins
      rw [joinSpace, begins, splitBlank_append_space firstSolid.2 symbolSolid, ← begins, rest]
      exact nofun

end ManifestAudit.Text
