import ManifestAudit.Proofs.Association
import ManifestAudit.Proofs.Json.Literal

/-!
# Values that are read back

A value without fractions, whose texts can be told from their units and whose objects name each
member once, is read as it was laid out, `Recoverable.parse_pretty`. The reader takes the items
and members one by one, and has enough fuel as long as it has a unit for each character that is
left of the layout.
-/

namespace ManifestAudit.Json

variable {rest : List Char}

/-! ## Blanks -/

/-- A new line with its indentation is skipped. -/
theorem skipSpace_newLine (depth : Nat) (chars : List Char) :
    skipSpace (newLine depth ++ chars) = skipSpace chars := by
  have blank : ∀ c ∈ newLine depth, isSpace c = true := by
    simp [newLine, isSpace]
  exact List.dropWhile_append_of_pos blank

/-- Nothing is skipped in front of a character that is no blank. -/
theorem skipSpace_cons {c : Char} (solid : isSpace c = false) (rest : List Char) :
    skipSpace (c :: rest) = c :: rest := by
  rw [skipSpace, List.dropWhile_cons, solid]
  rfl

/-- So what is found behind a new line is a character that is no blank. -/
theorem skipSpace_newLine_cons {c : Char} (solid : isSpace c = false) (depth : Nat)
    (rest : List Char) : skipSpace (newLine depth ++ c :: rest) = c :: rest := by
  rw [skipSpace_newLine, skipSpace_cons solid]

/-- A value begins with neither a blank nor a closing bracket. -/
theorem exists_cons_of_readValue {fuel : Nat} {chars : List Char} {read : Value × List Char}
    (done : readValue fuel chars = .ok read) :
    ∃ c behind, chars = c :: behind ∧ isSpace c = false ∧ c ≠ ']' := by
  cases fuel with
  | zero => cases done
  | succ fuel =>
      cases chars with
      | nil => cases done
      | cons c behind =>
          by_cases bad : c ∈ [' ', '\t', '\n', '\r', ']']
          · simp only [List.mem_cons, List.not_mem_nil, or_false] at bad
            rcases bad with rfl | rfl | rfl | rfl | rfl
            all_goals cases done
          · simp only [List.mem_cons, List.not_mem_nil, not_or] at bad
            exact ⟨c, behind, rfl, by simp [isSpace, bad], bad.2.2.2.2.1⟩

/-! ## Items and members -/

/-- A value that is read as it was laid out, at every depth and in front of whatever follows. -/
def ReadsBack (value : Value) : Prop :=
  ∀ (depth fuel : Nat) (rest : List Char), (value.layout depth).length ≤ fuel → Follows rest →
    readValue fuel (value.layout depth ++ rest) = .ok (value, rest)

/-- It is read behind a new line as well. -/
theorem ReadsBack.skipSpace_newLine_append {value : Value} (reads : ReadsBack value)
    (depth : Nat) (follows : Follows rest) :
    skipSpace (newLine depth ++ (value.layout depth ++ rest)) = value.layout depth ++ rest := by
  have done := reads depth (value.layout depth).length rest (Nat.le_refl _) follows
  obtain ⟨c, behind, starts, solid, _⟩ := exists_cons_of_readValue done
  rw [starts, skipSpace_newLine_cons solid]

/-- A comma or a new line follows a value. -/
theorem follows_cons {c : Char} (separates : c = ',' ∨ c = '\n') (rest : List Char) :
    Follows (c :: rest) := by
  rintro first ⟨rfl⟩
  exact separates

/-- So do the items behind the first, with the new line behind them. -/
theorem follows_layoutItems (items : List Value) (depth : Nat) (rest : List Char) :
    Follows (Value.layoutItems (depth + 1) items ++ (newLine depth ++ rest)) := by
  cases items with
  | nil => exact follows_cons (.inr rfl) _
  | cons item items => exact follows_cons (.inl rfl) _

/-- The items of an array are read up to the closing bracket. -/
theorem readItems_layoutItems {item : Value} {items : List Value}
    (reads : ∀ each ∈ item :: items, ReadsBack each) (depth fuel : Nat) (rest : List Char)
    (enough : (item.layout (depth + 1)).length + (Value.layoutItems (depth + 1) items).length <
      fuel) :
    readItems fuel (item.layout (depth + 1) ++
      (Value.layoutItems (depth + 1) items ++ (newLine depth ++ ']' :: rest))) =
        .ok (item :: items, rest) := by
  induction items generalizing item fuel with
  | nil =>
      obtain ⟨fuel, rfl⟩ := Nat.exists_eq_add_one_of_ne_zero (Nat.ne_zero_of_lt enough)
      have here := reads item List.mem_cons_self (depth + 1) fuel
        (Value.layoutItems (depth + 1) [] ++ (newLine depth ++ ']' :: rest)) (by omega)
        (follows_layoutItems [] depth _)
      rw [readItems, here]
      simp only [bind, Except.bind, Value.layoutItems, List.nil_append,
        skipSpace_newLine_cons (c := ']') rfl]
      rfl
  | cons next items inductionHypothesis =>
      obtain ⟨fuel, rfl⟩ := Nat.exists_eq_add_one_of_ne_zero (Nat.ne_zero_of_lt enough)
      have here := reads item List.mem_cons_self (depth + 1) fuel
        (Value.layoutItems (depth + 1) (next :: items) ++ (newLine depth ++ ']' :: rest))
        (by omega) (follows_layoutItems (next :: items) depth _)
      have skipped := (reads next (by simp)).skipSpace_newLine_append (depth + 1)
        (follows_layoutItems items depth (']' :: rest))
      -- An item costs one unit of fuel, and the comma in front of the next one pays for it.
      have shorter : (next.layout (depth + 1)).length +
          (Value.layoutItems (depth + 1) items).length < fuel := by
        simp only [Value.layoutItems, List.length_cons, List.length_append] at enough
        omega
      have behind := inductionHypothesis (fun each member => reads each (.tail _ member)) fuel
        shorter
      rw [readItems, here]
      simp only [bind, Except.bind, Value.layoutItems, List.cons_append, List.append_assoc,
        skipSpace_cons (c := ',') rfl, skipped, behind]
      rfl

/-- The members behind the first are followed as items are. -/
theorem follows_layoutMembers (members : Members) (depth : Nat) (rest : List Char) :
    Follows (Value.layoutMembers (depth + 1) members ++ (newLine depth ++ rest)) := by
  cases members with
  | nil => exact follows_cons (.inr rfl) _
  | cons member members => exact follows_cons (.inl rfl) _

/-- A new line is skipped in front of a member. -/
theorem skipSpace_newLine_layoutMember (depth : Nat) (member : Text × Value) (rest : List Char) :
    skipSpace (newLine depth ++ (Value.layoutMember depth member ++ rest)) =
      Value.layoutMember depth member ++ rest := by
  obtain ⟨name, value⟩ := member
  exact skipSpace_newLine_cons rfl _ _

/-- One member is read, and what follows decides how the reading goes on. -/
theorem readMembers_layoutMember {member : Text × Value} (unpaired : member.1.IsUnpaired)
    (reads : ReadsBack member.2) {depth fuel : Nat}
    (enough : (Value.layoutMember depth member).length ≤ fuel) (follows : Follows rest)
    (before : Members) :
    readMembers (fuel + 1) before (Value.layoutMember depth member ++ rest) =
      match skipSpace rest with
      | '\x7d' :: rest => .ok (before.insert member.1 member.2, rest)
      | ',' :: rest => readMembers fuel (before.insert member.1 member.2) (skipSpace rest)
      | rest => refuse .expectingComma rest := by
  obtain ⟨name, value⟩ := member
  have shorter : (value.layout depth).length ≤ fuel := by
    simp only [Value.layoutMember, List.length_append, List.length_cons] at enough
    omega
  have here := reads depth fuel rest shorter follows
  obtain ⟨c, behind, starts, solid, _⟩ := exists_cons_of_readValue here
  have readName := readString_stringLiteral unpaired (':' :: ' ' :: (value.layout depth ++ rest))
  have colon : skipSpace (':' :: ' ' :: (value.layout depth ++ rest)) =
      ':' :: ' ' :: (value.layout depth ++ rest) := skipSpace_cons rfl _
  have blank : skipSpace (' ' :: (value.layout depth ++ rest)) = value.layout depth ++ rest := by
    rw [starts]
    exact skipSpace_cons solid _
  simp only [Value.layoutMember, stringLiteral, List.cons_append, List.append_assoc] at readName ⊢
  rw [readMembers, readName]
  simp only [bind, Except.bind, colon, blank, here]
  rfl

/-- A name that is not there yet goes to the end. -/
theorem insert_of_nodup {before members : Members} {member : Text × Value}
    (distinct : ((before ++ member :: members).map Prod.fst).Nodup) :
    before.insert member.1 member.2 = before ++ [member] := by
  have fresh : member.1 ∉ before.map Prod.fst := by
    intro held
    rw [List.map_append] at distinct
    exact List.disjoint_of_nodup_append distinct held List.mem_cons_self
  exact Association.put_of_not_mem member.2 fresh

/-- The members of an object are read up to the closing brace, if each name stands there once. -/
theorem readMembers_layoutMembers {member : Text × Value} {members : Members}
    (unpaired : ∀ each ∈ member :: members, each.1.IsUnpaired)
    (reads : ∀ each ∈ member :: members, ReadsBack each.2) (before : Members)
    (distinct : ((before ++ member :: members).map Prod.fst).Nodup) (depth fuel : Nat)
    (rest : List Char)
    (enough : (Value.layoutMember (depth + 1) member).length +
      (Value.layoutMembers (depth + 1) members).length < fuel) :
    readMembers fuel before (Value.layoutMember (depth + 1) member ++
      (Value.layoutMembers (depth + 1) members ++ (newLine depth ++ '\x7d' :: rest))) =
        .ok (before ++ member :: members, rest) := by
  induction members generalizing member before fuel with
  | nil =>
      obtain ⟨fuel, rfl⟩ := Nat.exists_eq_add_one_of_ne_zero (Nat.ne_zero_of_lt enough)
      rw [readMembers_layoutMember (unpaired member List.mem_cons_self)
        (reads member List.mem_cons_self) (by omega) (follows_layoutMembers [] depth _),
        Value.layoutMembers, List.nil_append, skipSpace_newLine_cons rfl,
        insert_of_nodup distinct]
      rfl
  | cons next members inductionHypothesis =>
      obtain ⟨fuel, rfl⟩ := Nat.exists_eq_add_one_of_ne_zero (Nat.ne_zero_of_lt enough)
      have shorter : (Value.layoutMember (depth + 1) next).length +
          (Value.layoutMembers (depth + 1) members).length < fuel := by
        simp only [Value.layoutMembers, List.length_cons, List.length_append] at enough
        omega
      have behind := inductionHypothesis (fun each member => unpaired each (.tail _ member))
        (fun each member => reads each (.tail _ member)) (before ++ [member])
        (by simpa using distinct) fuel shorter
      rw [readMembers_layoutMember (unpaired member List.mem_cons_self)
        (reads member List.mem_cons_self) (by omega)
        (follows_layoutMembers (next :: members) depth _)]
      simp only [Value.layoutMembers, List.cons_append, List.append_assoc,
        skipSpace_cons (c := ',') rfl, skipSpace_newLine_layoutMember, insert_of_nodup distinct,
        behind]
      rw [List.nil_append]

/-! ## Values -/

/-- A value without fractions, whose texts can be told from their units and whose objects name
each member once. -/
inductive Recoverable : Value → Prop where
  | null : Recoverable .null
  | boolean (value : Bool) : Recoverable (.boolean value)
  | integer (value : Int) : Recoverable (.integer value)
  | string {text : Text} (unpaired : text.IsUnpaired) : Recoverable (.string text)
  | array {items : List Value} (each : ∀ item ∈ items, Recoverable item) :
      Recoverable (.array items)
  | object {members : Members} (distinct : (members.map Prod.fst).Nodup)
      (names : ∀ member ∈ members, member.1.IsUnpaired)
      (values : ∀ member ∈ members, Recoverable member.2) : Recoverable (.object members)

/-- The text of a string can be told from its units. -/
theorem Recoverable.ofString (text : String) : Recoverable (.string text) :=
  .string (Text.isUnpaired_ofChars text.toList)

/-- An object is recoverable if its names are different strings and each value is. -/
theorem Recoverable.ofNames (members : List (String × Value))
    (distinct : (members.map Prod.fst).Nodup)
    (values : ∀ member ∈ members, Recoverable member.2) :
    Recoverable (.object (members.map fun member => (Text.ofString member.1, member.2))) := by
  refine .object ?_ ?_ ?_
  · have names : (members.map fun member => (Text.ofString member.1, member.2)).map Prod.fst =
        (members.map Prod.fst).map Text.ofString := by
      simp
    rw [names]
    exact distinct.map Text.ofString_injective
  · rintro member listed
    obtain ⟨named, _, rfl⟩ := List.mem_map.mp listed
    exact Text.isUnpaired_ofChars named.1.toList
  · rintro member listed
    obtain ⟨named, held, rfl⟩ := List.mem_map.mp listed
    exact values named held

/-- Neither a string nor an array nor an object begins with this character. -/
theorem readValue_eq_readAtom {c : Char} (plain : c ∉ ['"', '[', '\x7b']) (fuel : Nat)
    (rest : List Char) : readValue (fuel + 1) (c :: rest) = readAtom (c :: rest) := by
  simp only [List.mem_cons, List.not_mem_nil, or_false, not_or] at plain
  exact readValue.eq_5 (c :: rest) fuel (fun _ same => plain.1 (List.cons.inj same).1)
    (fun _ same => plain.2.1 (List.cons.inj same).1)
    (fun _ same => plain.2.2 (List.cons.inj same).1)

/-- An integer is read as it was laid out. -/
theorem readsBack_integer (value : Int) : ReadsBack (.integer value) := by
  intro depth fuel rest enough follows
  rw [Value.layout] at enough ⊢
  have done := readAtom_integer value follows
  obtain ⟨c, digits, written⟩ := List.exists_cons_of_ne_nil (toList_toString_ne_nil value)
  have plain : c ∉ ['"', '[', '\x7b'] := by
    rcases mem_toList_toString (written ▸ List.mem_cons_self) with rfl | latin
    · decide
    · exact Text.of_isAsciiDigit (· ∉ ['"', '[', '\x7b']) (by decide) latin
  rw [written] at enough done ⊢
  obtain ⟨fuel, rfl⟩ := Nat.exists_eq_add_one_of_ne_zero (Nat.ne_zero_of_lt enough)
  rw [List.cons_append] at done ⊢
  rw [readValue_eq_readAtom plain, done]

/-- So is a constant that begins like no other value. -/
theorem readsBack_constant {value : Value} {c : Char} {name : List Char}
    (plain : c ∉ ['"', '[', '\x7b'])
    (laidOut : ∀ depth, value.layout depth = c :: name)
    (read : ∀ rest, takeConstant? (c :: name ++ rest) = some (value, rest)) :
    ReadsBack value := by
  intro depth fuel rest enough _
  rw [laidOut] at enough ⊢
  obtain ⟨fuel, rfl⟩ := Nat.exists_eq_add_one_of_ne_zero (Nat.ne_zero_of_lt enough)
  rw [List.cons_append, readValue_eq_readAtom plain, readAtom, ← List.cons_append, read]

/-- So is an array of items that are. -/
theorem readsBack_array {items : List Value} (each : ∀ item ∈ items, ReadsBack item) :
    ReadsBack (.array items) := by
  intro depth fuel rest enough follows
  cases items with
  | nil =>
      obtain ⟨fuel, rfl⟩ := Nat.exists_eq_add_one_of_ne_zero (Nat.ne_zero_of_lt enough)
      rfl
  | cons item items =>
      obtain ⟨fuel, rfl⟩ := Nat.exists_eq_add_one_of_ne_zero (Nat.ne_zero_of_lt enough)
      have skipped := (each item List.mem_cons_self).skipSpace_newLine_append (depth + 1)
        (follows_layoutItems items depth (']' :: rest))
      have read := readItems_layoutItems each depth fuel rest (by
        simp only [Value.layout, List.length_cons, List.length_append] at enough
        omega)
      have here := each item List.mem_cons_self (depth + 1) _
        (Value.layoutItems (depth + 1) items ++ (newLine depth ++ ']' :: rest)) (Nat.le_refl _)
        (follows_layoutItems items depth _)
      -- The reader looks for the closing bracket first, and no value begins with one.
      obtain ⟨c, behind, starts, _, notClosing⟩ := exists_cons_of_readValue here
      simp only [Value.layout, List.cons_append, List.append_assoc, List.nil_append]
      rw [readValue, skipped]
      rw [starts] at read ⊢
      split
      case h_1 closing => exact absurd (List.cons.inj closing).1 notClosing
      case h_2 => simp only [read, bind, Except.bind, pure, Except.pure]

/-- So is an object of members that are. -/
theorem readsBack_object {members : Members} (distinct : (members.map Prod.fst).Nodup)
    (names : ∀ member ∈ members, member.1.IsUnpaired)
    (values : ∀ member ∈ members, ReadsBack member.2) : ReadsBack (.object members) := by
  intro depth fuel rest enough follows
  cases members with
  | nil =>
      obtain ⟨fuel, rfl⟩ := Nat.exists_eq_add_one_of_ne_zero (Nat.ne_zero_of_lt enough)
      rfl
  | cons member members =>
      obtain ⟨fuel, rfl⟩ := Nat.exists_eq_add_one_of_ne_zero (Nat.ne_zero_of_lt enough)
      have skipped := skipSpace_newLine_layoutMember (depth + 1) member
        (Value.layoutMembers (depth + 1) members ++ (newLine depth ++ '\x7d' :: rest))
      have read := readMembers_layoutMembers names values [] distinct depth fuel rest (by
        simp only [Value.layout, List.length_cons, List.length_append] at enough
        omega)
      obtain ⟨name, value⟩ := member
      simp only [Value.layout, Value.layoutMember, stringLiteral, List.cons_append,
        List.append_assoc, List.nil_append] at skipped read ⊢
      rw [readValue, skipped]
      split
      case h_1 closing => cases closing
      case h_2 => simp only [read, bind, Except.bind, pure, Except.pure]

/-- A recoverable value is read as it was laid out. -/
theorem Recoverable.readsBack {value : Value} (recoverable : Recoverable value) :
    ReadsBack value := by
  induction recoverable with
  | integer value => exact readsBack_integer value
  | array _ each => exact readsBack_array each
  | object distinct names _ values => exact readsBack_object distinct names values
  | null => exact readsBack_constant (by decide) (fun _ => rfl) fun _ => rfl
  | boolean value =>
      cases value with
      | false => exact readsBack_constant (by decide) (fun _ => rfl) fun _ => rfl
      | true => exact readsBack_constant (by decide) (fun _ => rfl) fun _ => rfl
  | @string text unpaired =>
      intro depth fuel rest enough _
      obtain ⟨fuel, rfl⟩ := Nat.exists_eq_add_one_of_ne_zero (Nat.ne_zero_of_lt enough)
      have done := readString_stringLiteral unpaired rest
      rw [Value.layout]
      rw [stringLiteral, List.cons_append, List.cons_append] at done ⊢
      simp only [readValue, done, bind, Except.bind, pure, Except.pure]

/-! ## Characters -/

/-- A new line with its indentation is plain. -/
theorem isPlain_of_mem_newLine (depth : Nat) : ∀ c ∈ newLine depth, IsPlain c := by
  intro c member
  simp only [newLine, List.mem_cons, List.mem_replicate] at member
  rcases member with rfl | ⟨_, rfl⟩ <;> decide

/-- Items are laid out plainly if each of them is. -/
theorem isPlain_of_mem_layoutItems {items : List Value} {depth : Nat}
    (each : ∀ item ∈ items, ∀ c ∈ item.layout depth, IsPlain c) :
    ∀ c ∈ Value.layoutItems depth items, IsPlain c := by
  induction items with
  | nil => nofun
  | cons item items inductionHypothesis =>
      obtain ⟨here, behind⟩ := List.forall_mem_cons.mp each
      have comma : IsPlain ',' := by decide
      rw [Value.layoutItems, List.forall_mem_append, List.forall_mem_append, List.forall_mem_cons]
      exact ⟨⟨⟨comma, isPlain_of_mem_newLine depth⟩, here⟩, inductionHypothesis behind⟩

/-- A member is laid out plainly if its value is. -/
theorem isPlain_of_mem_layoutMember {member : Text × Value} {depth : Nat}
    (plain : ∀ c ∈ member.2.layout depth, IsPlain c) :
    ∀ c ∈ Value.layoutMember depth member, IsPlain c := by
  obtain ⟨name, value⟩ := member
  have colon : IsPlain ':' := by decide
  have blank : IsPlain ' ' := by decide
  rw [Value.layoutMember, List.forall_mem_append, List.forall_mem_cons, List.forall_mem_cons]
  exact ⟨isPlain_of_mem_stringLiteral name, colon, blank, plain⟩

/-- Members are laid out plainly if each value is. -/
theorem isPlain_of_mem_layoutMembers {members : Members} {depth : Nat}
    (each : ∀ member ∈ members, ∀ c ∈ member.2.layout depth, IsPlain c) :
    ∀ c ∈ Value.layoutMembers depth members, IsPlain c := by
  induction members with
  | nil => nofun
  | cons member members inductionHypothesis =>
      obtain ⟨here, behind⟩ := List.forall_mem_cons.mp each
      have comma : IsPlain ',' := by decide
      rw [Value.layoutMembers, List.forall_mem_append, List.forall_mem_append, List.forall_mem_cons]
      exact ⟨⟨⟨comma, isPlain_of_mem_newLine depth⟩, isPlain_of_mem_layoutMember here⟩,
        inductionHypothesis behind⟩

/-- What stands between brackets is plain. -/
theorem isPlain_enclosed {opening closing : Char} {depth : Nat} {first others : List Char}
    (opens : IsPlain opening) (closes : IsPlain closing) (here : ∀ c ∈ first, IsPlain c)
    (behind : ∀ c ∈ others, IsPlain c) :
    ∀ c ∈ opening :: newLine (depth + 1) ++ first ++ others ++ newLine depth ++ [closing],
      IsPlain c := by
  simp only [List.cons_append, List.forall_mem_cons, List.forall_mem_append,
    List.not_mem_nil, false_imp_iff, implies_true, and_true]
  exact ⟨opens, ⟨⟨⟨isPlain_of_mem_newLine _, here⟩, behind⟩, isPlain_of_mem_newLine _⟩, closes⟩

/-- A recoverable value is laid out in plain characters. -/
theorem Recoverable.isPlain {value : Value} (recoverable : Recoverable value) (depth : Nat) :
    ∀ c ∈ value.layout depth, IsPlain c := by
  induction recoverable generalizing depth with
  | null => exact isPlain_of_all rfl
  | boolean value =>
      cases value with
      | false => exact isPlain_of_all rfl
      | true => exact isPlain_of_all rfl
  | integer value => exact isPlain_of_mem_toString value
  | @string text _ => exact isPlain_of_mem_stringLiteral text
  | @array items _ each =>
      cases items with
      | nil => exact isPlain_of_all rfl
      | cons item items =>
          obtain ⟨here, behind⟩ := List.forall_mem_cons.mp each
          rw [Value.layout]
          exact isPlain_enclosed (by decide) (by decide) (here _)
            (isPlain_of_mem_layoutItems fun item member => behind item member _)
  | @object members _ _ _ each =>
      cases members with
      | nil => exact isPlain_of_all rfl
      | cons member members =>
          obtain ⟨here, behind⟩ := List.forall_mem_cons.mp each
          rw [Value.layout]
          exact isPlain_enclosed (by decide) (by decide) (isPlain_of_mem_layoutMember (here _))
            (isPlain_of_mem_layoutMembers fun member listed => behind member listed _)

/-! ## Whole texts -/

/-- A recoverable value is parsed from its text. -/
theorem Recoverable.parse_pretty {value : Value} (recoverable : Recoverable value) :
    parse value.pretty = .ok value := by
  have done := recoverable.readsBack 0 (2 * (value.layout 0).length + 2) [] (by omega) nofun
  rw [List.append_nil] at done
  obtain ⟨c, behind, starts, solid, _⟩ := exists_cons_of_readValue done
  have noMark : c ≠ '\uFEFF' := by
    rintro rfl
    have plain := recoverable.isPlain 0 '\uFEFF' (starts ▸ List.mem_cons_self)
    exact absurd plain (by decide)
  have text : value.pretty.toList = c :: behind := by
    rw [Value.pretty, String.toList_ofList, starts]
  rw [starts] at done
  rw [parse, text, readText, skipSpace_cons solid, done]
  · rfl
  · intro rest marked
    exact noMark (List.cons.inj marked).1

end ManifestAudit.Json
