import ManifestAudit.Proofs.Range.Joining
import ManifestAudit.Proofs.Range.Shorthand
import ManifestAudit.Proofs.Text.Pieces
import ManifestAudit.Range.Parser

/-!
# Reading what is spelled out

Bounds that a shorthand has been spelled out as are comparators of one alternative,
`Range.parse_of_expand`. For a text without blanks and bars they are the bounds of the one
token it is, `Range.parse_of_expandToken`, and for a hyphen interval between two releases its
two ends, `Range.parse_interval`.
-/

namespace ManifestAudit

open Text (decimalDigits isAsciiDigit isBlank)

variable {bound : Bound} {bounds : List Bound} {text : Text}

/-! ## Bounds are read back -/

/-- The operator of a relation is read as the relation. -/
theorem Relation.ofChars?_text (relation : Relation) :
    ofChars? relation.text.toList = some relation := by
  cases relation <;> rfl

/-- A bound at a release is read as a comparator. -/
theorem Comparator.parse_bound (isRelease : bound.version.isRelease = true) :
    parse (Text.ofString bound.text) = .ok (.bounded bound) := by
  obtain ⟨digit, digits, whole, version, latin⟩ := Shorthand.exists_bound_text_eq isRelease
  have readsVersion := Version.ofChars?_text_release bound.version.major bound.version.minor
    bound.version.patch
  rw [Version.release_eq_self isRelease, version] at readsVersion
  have nonempty : bound.text.toList.isEmpty = false := by simp [whole]
  have read : ofChars? bound.text.toList = some (.bounded bound) := by
    rw [ofChars?, nonempty, whole, Shorthand.takeOperator_append _ latin]
    simp only [Relation.ofChars?_text, readsVersion]
    rfl
  rw [parse, Text.ofString, Text.toChars?_ofChars, Option.bind_some, read]

/-- Bounds at releases are read one by one. -/
theorem Comparator.mapM_parse_written
    (releases : ∀ bound ∈ bounds, bound.version.isRelease = true) :
    (Shorthand.written bounds).mapM parse = .ok (bounds.map .bounded) := by
  induction bounds with
  | nil => rfl
  | cons bound bounds inductionHypothesis =>
      obtain ⟨isRelease, releases⟩ := List.forall_mem_cons.mp releases
      have read := inductionHypothesis releases
      rw [Shorthand.written] at read
      rw [Shorthand.written, List.map_cons, List.mapM_cons, parse_bound isRelease, read]
      rfl

/-- A text without bars that is spelled out as bounds is the range with those bounds. -/
theorem Range.parse_of_expand (free : .char '|' ∉ text)
    (releases : ∀ bound ∈ bounds, bound.version.isRelease = true)
    (expanded : Shorthand.expand text = Shorthand.written bounds) :
    parse text = .ok ⟨[bounds.map .bounded]⟩ := by
  have alternative : Alternative.parse text = .ok (bounds.map .bounded) := by
    rw [Alternative.parse, expanded, Comparator.mapM_parse_written releases]
  rw [parse, Text.splitDouble_of_not_mem free, List.mapM_cons, alternative]
  rfl

/-! ## Plain texts -/

namespace Shorthand

/-- A character that separates neither pieces nor alternatives. -/
def isPlain (c : Char) : Bool :=
  !isBlank c && c != '|'

theorem isPlain_iff {c : Char} : isPlain c = true ↔ isBlank c = false ∧ c ≠ '|' := by
  simp [isPlain]

/-- An operator is plain. -/
theorem all_isPlain_relation_text (relation : Relation) :
    relation.text.toList.all isPlain = true := by
  cases relation <;> decide

/-- So is a release. -/
theorem all_isPlain_version_text {version : Version} (isRelease : version.isRelease = true) :
    version.text.toList.all isPlain = true :=
  List.all_eq_true.mpr fun _ =>
    Version.of_mem_text_release (isPlain · = true) (by decide) (by decide) isRelease

/-- So is a bound at one. -/
theorem all_isPlain_bound_text (isRelease : bound.version.isRelease = true) :
    bound.text.toList.all isPlain = true := by
  rw [Bound.text, String.toList_append, List.all_append, all_isPlain_relation_text,
    all_isPlain_version_text isRelease]
  rfl

theorem all_isPlain_decimalDigits (number : Nat) : (decimalDigits number).all isPlain = true := by
  rw [List.all_eq_true]
  intro c member
  exact Text.of_isAsciiDigit (isPlain · = true) (by decide)
    (Text.isAsciiDigit_of_mem_decimalDigits member)

/-- A bound is one piece. -/
theorem isSolid_bound (isRelease : bound.version.isRelease = true) :
    Text.IsSolid (Text.ofString bound.text) := by
  obtain ⟨digit, digits, whole, _⟩ := exists_bound_text_eq isRelease
  refine Text.isSolid_ofChars (by simp [whole]) fun c member => ?_
  exact (isPlain_iff.mp (List.all_eq_true.mp (all_isPlain_bound_text isRelease) c member)).1

/-- So is each of several. -/
theorem isSolid_of_mem_written (releases : ∀ bound ∈ bounds, bound.version.isRelease = true) :
    ∀ piece ∈ written bounds, Text.IsSolid piece := by
  intro piece member
  obtain ⟨bound, listed, rfl⟩ := List.mem_map.mp member
  exact isSolid_bound (releases bound listed)

/-- Pieces that stand for bounds are spelled out as those. -/
theorem expand_eq {first : Text} {pieces : List Text}
    (shown : joined (Text.trim text) = Text.joinSpace (first :: pieces))
    (solid : ∀ piece ∈ first :: pieces, Text.IsSolid piece)
    (releases : ∀ other ∈ bound :: bounds, other.version.isRelease = true)
    (expanded : (first :: pieces).flatMap expandToken = written (bound :: bounds)) :
    expand text = written (bound :: bounds) := by
  rw [expand, shown, Text.splitBlank_joinSpace solid]
  simp only [expanded]
  exact Text.splitBlank_joinSpace (isSolid_of_mem_written releases)

/-- A text is trimmed already if characters that are no blanks stand at both its ends. -/
theorem trim_ofChars {chars : List Char} (first : ∀ c ∈ chars.head?, isBlank c = false)
    (last : ∀ c ∈ chars.getLast?, isBlank c = false) :
    Text.trim (Text.ofChars chars) = Text.ofChars chars := by
  refine Text.dropEnds_eq_self ?_ ?_
  · simpa [Text.ofChars, Text.Symbol.is] using first
  · simpa [Text.ofChars, Text.Symbol.is] using last

/-- A token by itself is spelled out as what it stands for. -/
theorem expand_ofChars {chars : List Char} (nonempty : chars ≠ [])
    (plain : chars.all isPlain = true)
    (releases : ∀ other ∈ bound :: bounds, other.version.isRelease = true)
    (expanded : expandToken (Text.ofChars chars) = written (bound :: bounds)) :
    expand (Text.ofChars chars) = written (bound :: bounds) := by
  have solid : ∀ c ∈ chars, isBlank c = false := fun c member =>
    (isPlain_iff.mp (List.all_eq_true.mp plain c member)).1
  have shown : joined (Text.trim (Text.ofChars chars)) = Text.joinSpace [Text.ofChars chars] := by
    have noInterval := interval_of_not_isBlank solid
    have joins : IsJoined (interval chars) := noInterval.symm ▸ isJoined_of_not_isBlank solid
    rw [trim_ofChars (fun c member => solid c (List.mem_of_head? member))
      (fun c member => solid c (List.mem_of_getLast? member)), joined_ofChars joins, noInterval]
    rfl
  refine expand_eq shown ?_ releases ?_
  · simpa using Text.isSolid_ofChars nonempty solid
  · rw [List.flatMap_singleton, expanded]

end Shorthand

/-- A token without bars is the range with the bounds it stands for. -/
theorem Range.parse_of_expandToken {chars : List Char} (nonempty : chars ≠ [])
    (plain : chars.all Shorthand.isPlain = true)
    (releases : ∀ other ∈ bound :: bounds, other.version.isRelease = true)
    (expanded : Shorthand.expandToken (Text.ofChars chars) =
      Shorthand.written (bound :: bounds)) :
    parse (Text.ofChars chars) = .ok ⟨[(bound :: bounds).map .bounded]⟩ := by
  refine parse_of_expand ?_ releases (Shorthand.expand_ofChars nonempty plain releases expanded)
  intro member
  obtain ⟨c, member, same⟩ := List.mem_map.mp member
  cases same
  exact (Shorthand.isPlain_iff.mp (List.all_eq_true.mp plain _ member)).2 rfl

/-! ## Hyphen intervals -/

namespace Shorthand

/-- A hyphen with a space on each side. -/
def hyphen : List Char := [' ', '-', ' ']

/-- An interval is cut at the hyphen between its ends. -/
theorem splitInterval?_append {left right : List Char}
    (first : (left ++ hyphen ++ right).takeWhile Pattern.isLead = [])
    (leftSolid : ∀ c ∈ left, isBlank c = false)
    (rightSolid : right.dropWhile isBlank = right) :
    splitInterval? (left ++ hyphen ++ right) = some (left, right) := by
  have core : (left ++ hyphen ++ right).dropWhile Pattern.isLead = left ++ hyphen ++ right := by
    have whole := List.takeWhile_append_dropWhile (p := Pattern.isLead)
      (l := left ++ hyphen ++ right)
    rwa [first, List.nil_append] at whole
  have seam : left ++ hyphen ++ right = left ++ ' ' :: '-' :: ' ' :: right := by simp [hyphen]
  have behind : ∀ c ∈ (' ' :: '-' :: ' ' :: right).head?, (!isBlank c) = false := by
    rintro c ⟨⟩
    rfl
  obtain ⟨taken, dropped⟩ :=
    Text.takeWhile_append_of_head? (by simpa using leftSolid) _ behind
  have blanks : (' ' :: '-' :: ' ' :: right).dropWhile isBlank = '-' :: ' ' :: right := rfl
  have space : isBlank ' ' = true := rfl
  rw [splitInterval?]
  simp only [first, core]
  rw [seam, taken, dropped]
  simp only [blanks, space, rightSolid, if_true, List.nil_append]

variable {left right : Version}

/-- No character of a release is a blank. -/
theorem isBlank_of_mem_text {version : Version} (isRelease : version.isRelease = true) {c : Char}
    (member : c ∈ version.text.toList) : isBlank c = false :=
  Version.of_mem_text_release (isBlank · = false) (by decide) (by decide) isRelease member

/-- No character of a release is a mark. -/
theorem isMark_of_mem_text {version : Version} (isRelease : version.isRelease = true) {c : Char}
    (member : c ∈ version.text.toList) : isMark c = false :=
  Version.of_mem_text_release (isMark · = false) (by decide) (by decide) isRelease member

/-- A bound ends as its version does. -/
theorem mem_text_of_getLast?_bound {c : Char} (isRelease : bound.version.isRelease = true)
    (last : c ∈ bound.text.toList.getLast?) : c ∈ bound.version.text.toList := by
  obtain ⟨digit, digits, whole, version, _⟩ := exists_bound_text_eq isRelease
  rw [whole, List.getLast?_append_of_ne_nil _ (List.cons_ne_nil digit digits), ← version] at last
  exact List.mem_of_getLast? last

/-- Two releases with a hyphen between them are a lower bound and an upper one. -/
theorem interval_text (leftRelease : left.isRelease = true)
    (rightRelease : right.isRelease = true) :
    interval (left.text.toList ++ hyphen ++ right.text.toList) =
      (Bound.text ⟨.atLeast, left⟩).toList ++ ' ' :: (Bound.text ⟨.atMost, right⟩).toList := by
  have noLead :
      (left.text.toList ++ hyphen ++ right.text.toList).takeWhile Pattern.isLead = [] := by
    obtain ⟨digit, digits, written, latin⟩ := beginsWithDigit_text leftRelease
    rw [written, List.cons_append, List.cons_append, List.takeWhile_cons_of_neg]
    simp [Pattern.isLead_of_isAsciiDigit latin]
  have noBlank : right.text.toList.dropWhile isBlank = right.text.toList := by
    obtain ⟨digit, digits, written, _⟩ := beginsWithDigit_text rightRelease
    rw [written, List.dropWhile_cons_of_neg]
    simp [isBlank_of_mem_text rightRelease (written ▸ List.mem_cons_self)]
  have readsLeft := Pattern.ofChars?_text_release left.major left.minor left.patch
  have readsRight := Pattern.ofChars?_text_release right.major right.minor right.patch
  rw [Version.release_eq_self leftRelease] at readsLeft
  rw [Version.release_eq_self rightRelease] at readsRight
  have lower : '>' :: '=' :: left.text.toList = (Bound.text ⟨.atLeast, left⟩).toList :=
    atLeast_text left
  have upper : '<' :: '=' :: right.text.toList = (Bound.text ⟨.atMost, right⟩).toList := by
    simp [Bound.text, Relation.text]
  rw [interval, splitInterval?_append noLead (fun c => isBlank_of_mem_text leftRelease) noBlank]
  simp only [readsLeft, readsRight, intervalStart, intervalEnd, atLeast, List.isEmpty_nil,
    if_true, lower, upper]
  refine Text.dropEnds_eq_self ?_ fun c last => ?_
  · rw [← lower]
    rintro c ⟨⟩
    decide
  · rw [List.append_cons, List.getLast?_append_of_ne_nil _ (by simp [← upper])] at last
    have ofRight : c ∈ (Bound.mk .atMost right).version.text.toList :=
      mem_text_of_getLast?_bound rightRelease last
    exact isBlank_of_mem_text rightRelease ofRight

/-- Two bounds with a space between them have no blank behind a mark. -/
theorem isJoined_bounds {other : Bound} (isRelease : bound.version.isRelease = true)
    (otherRelease : other.version.isRelease = true) :
    IsJoined (bound.text.toList ++ ' ' :: other.text.toList) := by
  have solid {bound : Bound} (isRelease : bound.version.isRelease = true) :
      IsJoined bound.text.toList :=
    isJoined_of_not_isBlank fun c member =>
      (isPlain_iff.mp (List.all_eq_true.mp (all_isPlain_bound_text isRelease) c member)).1
  refine List.isChain_append.mpr ⟨solid isRelease, ?_, fun c last _ _ marks => ?_⟩
  · cases written : other.text.toList with
    | nil => exact .singleton _
    | cons first rest => exact .cons_cons nofun (written ▸ solid otherRelease)
  · rw [isMark_of_mem_text isRelease (mem_text_of_getLast?_bound isRelease last)] at marks
    cases marks

/-- An interval is spelled out as its two bounds. -/
theorem expand_interval (leftRelease : left.isRelease = true)
    (rightRelease : right.isRelease = true) :
    expand (Text.ofChars (left.text.toList ++ hyphen ++ right.text.toList)) =
      written [⟨.atLeast, left⟩, ⟨.atMost, right⟩] := by
  have releases := isRelease_pair leftRelease rightRelease .atLeast .atMost
  have bounds := interval_text leftRelease rightRelease
  have joins : IsJoined ((Bound.text ⟨.atLeast, left⟩).toList ++
      ' ' :: (Bound.text ⟨.atMost, right⟩).toList) := isJoined_bounds leftRelease rightRelease
  have trimmed : Text.trim (Text.ofChars (left.text.toList ++ hyphen ++ right.text.toList)) =
      Text.ofChars (left.text.toList ++ hyphen ++ right.text.toList) := by
    obtain ⟨digit, digits, leftWritten, _⟩ := beginsWithDigit_text leftRelease
    obtain ⟨digit', digits', rightWritten, _⟩ := beginsWithDigit_text rightRelease
    refine trim_ofChars ?_ fun c last => ?_
    · rw [leftWritten]
      rintro c ⟨⟩
      exact isBlank_of_mem_text leftRelease (leftWritten ▸ List.mem_cons_self)
    · rw [List.getLast?_append_of_ne_nil _ (by simp [rightWritten])] at last
      exact isBlank_of_mem_text rightRelease (List.mem_of_getLast? last)
  have shown : joined (Text.trim (Text.ofChars (left.text.toList ++ hyphen ++ right.text.toList))) =
      Text.joinSpace (written [⟨.atLeast, left⟩, ⟨.atMost, right⟩]) := by
    rw [trimmed, joined_ofChars (bounds ▸ joins), bounds]
    simp [written, Text.joinSpace, Text.ofChars, Text.ofString]
  exact expand_eq shown (isSolid_of_mem_written releases) releases
    (flatMap_expandToken_written releases)

end Shorthand

/-- An interval between two releases is the range with its ends as bounds. -/
theorem Range.parse_interval {left right : Version} (leftRelease : left.isRelease = true)
    (rightRelease : right.isRelease = true) :
    parse (Text.ofChars (left.text.toList ++ Shorthand.hyphen ++ right.text.toList)) =
      .ok ⟨[[.bounded ⟨.atLeast, left⟩, .bounded ⟨.atMost, right⟩]]⟩ := by
  have noBar {version : Version} (isRelease : version.isRelease = true) :
      '|' ∉ version.text.toList := fun member =>
    Version.of_mem_text_release (· ≠ '|') (by decide) (by decide) isRelease member rfl
  refine parse_of_expand ?_ (Shorthand.isRelease_pair leftRelease rightRelease _ _)
    (Shorthand.expand_interval leftRelease rightRelease)
  simp [Text.ofChars, Shorthand.hyphen, noBar leftRelease, noBar rightRelease]

end ManifestAudit
