import ManifestAudit.Association
import Mathlib.Data.List.Nodup
import Mathlib.Data.List.Perm.Basic

/-!
# Association lists with distinct keys

Putting a value under a key changes what that key has and nothing else, and so does leaving out
its entries or changing its value in place. Where no key occurs twice, an association list is what it seems: collecting its entries leaves them as they are, a
key has the value that an entry gives it, and the order of the entries does not matter to a
lookup.
-/

namespace ManifestAudit.Association

variable {Key Value : Type} [BEq Key] [LawfulBEq Key] {entries : List (Key × Value)}

/-- A key has the value that was put under it. -/
theorem get?_put_self (key : Key) (value : Value) :
    get? (· == ·) key (put (· == ·) key value entries) = some value := by
  induction entries with
  | nil => simp [put, get?]
  | cons entry entries inductionHypothesis =>
      obtain ⟨other, held⟩ := entry
      by_cases same : other = key
      · simp [put, get?, same]
      · simp [put, get?, same, inductionHypothesis]

/-- Another key has what it had. -/
theorem get?_put_of_ne {key other : Key} (different : other ≠ key) (value : Value) :
    get? (· == ·) other (put (· == ·) key value entries) = get? (· == ·) other entries := by
  induction entries with
  | nil => simp [put, get?, different.symm]
  | cons entry entries inductionHypothesis =>
      obtain ⟨first, held⟩ := entry
      by_cases same : first = key
      · subst same
        simp [put, get?, different.symm]
      · simp [put, get?, same, inductionHypothesis]

/-- Where entries are kept by their keys, a key that is kept has what it had, and no other key
has anything. -/
theorem get?_filter (keeps : Key → Bool) (key : Key) :
    get? (· == ·) key (entries.filter fun entry => keeps entry.1) =
      if keeps key then get? (· == ·) key entries else none := by
  induction entries with
  | nil => simp [get?]
  | cons entry entries inductionHypothesis =>
      obtain ⟨other, held⟩ := entry
      by_cases same : other = key
      · subst same
        cases kept : keeps other <;> simp [get?, kept, inductionHypothesis]
      · cases kept : keeps other <;> simp [get?, kept, same, inductionHypothesis]

/-- Where the value of one key is changed, that key has the changed value, and every other key
has what it had. -/
theorem get?_map (changed : Key) (change : Value → Value) (key : Key) :
    get? (· == ·) key (entries.map fun entry =>
        (entry.1, if entry.1 == changed then change entry.2 else entry.2)) =
      (get? (· == ·) key entries).map fun value => if key == changed then change value else value := by
  induction entries with
  | nil => rfl
  | cons entry entries inductionHypothesis =>
      obtain ⟨other, held⟩ := entry
      by_cases same : other = key
      · simp [get?, same]
      · simp [get?, same, inductionHypothesis]

/-- A new key is put at the end. -/
theorem put_of_not_mem {key : Key} (value : Value) (fresh : key ∉ entries.map Prod.fst) :
    put (· == ·) key value entries = entries ++ [(key, value)] := by
  induction entries with
  | nil => rfl
  | cons entry entries inductionHypothesis =>
      obtain ⟨other, held⟩ := entry
      simp only [List.map_cons, List.mem_cons, not_or] at fresh
      have different : (other == key) = false := beq_eq_false_iff_ne.mpr (Ne.symm fresh.1)
      simp [put, different, inductionHypothesis fresh.2]

/-- Entries of distinct keys are collected as they are, behind those already held. -/
theorem foldl_put_eq_append (held entries : List (Key × Value))
    (distinct : ((held ++ entries).map Prod.fst).Nodup) :
    entries.foldl (fun held entry => put (· == ·) entry.1 entry.2 held) held =
      held ++ entries := by
  induction entries generalizing held with
  | nil => simp
  | cons entry entries inductionHypothesis =>
      have fresh : entry.1 ∉ held.map Prod.fst := by
        intro repeated
        simp only [List.map_append, List.map_cons, List.nodup_append] at distinct
        exact distinct.2.2 _ repeated _ List.mem_cons_self rfl
      rw [List.foldl_cons, put_of_not_mem entry.2 fresh,
        inductionHypothesis (held ++ [entry]) (by simpa using distinct)]
      simp

/-- Entries of distinct keys are collected as they are. -/
theorem collect_of_nodup (distinct : (entries.map Prod.fst).Nodup) :
    collect (· == ·) entries = entries := by
  rw [collect, foldl_put_eq_append [] entries (by simpa using distinct), List.nil_append]

/-- Behind entries that are held already, a key has a value when it had one or when some entry is
under it. -/
theorem isSome_get?_foldl_put_iff (held entries : List (Key × Value)) (key : Key) :
    (get? (· == ·) key (entries.foldl (fun held entry => put (· == ·) entry.1 entry.2 held)
      held)).isSome = true ↔
      (get? (· == ·) key held).isSome = true ∨ key ∈ entries.map Prod.fst := by
  induction entries generalizing held with
  | nil => simp
  | cons entry entries inductionHypothesis =>
      rw [List.foldl_cons, inductionHypothesis, List.map_cons, List.mem_cons]
      by_cases same : key = entry.1
      · simp [same, get?_put_self]
      · simp [same, get?_put_of_ne]

/-- Once entries are collected, a key has a value when some entry is under it, however many of
them there are. -/
theorem isSome_get?_collect_iff (entries : List (Key × Value)) (key : Key) :
    (get? (· == ·) key (collect (· == ·) entries)).isSome = true ↔
      key ∈ entries.map Prod.fst := by
  rw [collect, isSome_get?_foldl_put_iff]
  simp [get?]

/-- Under distinct keys, a key has the value that an entry gives it. -/
theorem get?_eq_some_iff_mem (distinct : (entries.map Prod.fst).Nodup) {key : Key}
    {value : Value} : get? (· == ·) key entries = some value ↔ (key, value) ∈ entries := by
  induction entries with
  | nil => simp [get?]
  | cons entry entries inductionHypothesis =>
      obtain ⟨other, held⟩ := entry
      rw [List.map_cons, List.nodup_cons] at distinct
      by_cases same : other = key
      · subst same
        have absent : (other, value) ∉ entries := fun member =>
          distinct.1 (List.mem_map.mpr ⟨_, member, rfl⟩)
        simp [get?, absent, eq_comm]
      · have different : (key, value) ≠ (other, held) := by simp [Ne.symm same]
        simp [get?, same, different, inductionHypothesis distinct.2]

/-- Under distinct keys, what a key has does not depend on the order of the entries. -/
theorem get?_eq_of_perm {left right : List (Key × Value)} (permuted : left.Perm right)
    (distinct : (left.map Prod.fst).Nodup) (key : Key) :
    get? (· == ·) key left = get? (· == ·) key right := by
  have distinct' : (right.map Prod.fst).Nodup := (permuted.map Prod.fst).nodup_iff.mp distinct
  apply Option.ext
  intro value
  rw [get?_eq_some_iff_mem distinct, get?_eq_some_iff_mem distinct', permuted.mem_iff]

end ManifestAudit.Association
