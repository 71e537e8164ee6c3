import ManifestAudit.Proofs.Range.Parser
import ManifestAudit.Proofs.Range.Requirement

/-!
# One floor for every spelling

A range can be written in many ways. Here it is written with numbers, and each spelling is
traced to the bounds that it denotes. What lies below the range follows from these alone: the
spellings with one base have one floor, `Requirement.isAboveText_shorthand`.
-/

namespace ManifestAudit

open Text (decimalDigits)

namespace Range

/-! ## Versions written with numbers -/

/-- Numbers with dots between them. -/
def numbered (numbers : List Nat) : String :=
  ".".intercalate (numbers.map toString)

/-- A text that begins with a digit and is read as an incomplete version. -/
structure Spells (version : String) (pattern : Pattern) : Prop where
  plain : version.toList.all Shorthand.isPlain = true
  begins : Shorthand.BeginsWithDigit version.toList
  read : Pattern.ofChars? version.toList = some pattern

section Numbered

variable (major minor patch : Nat)

theorem toList_numbered_one : (numbered [major]).toList = decimalDigits major := by
  simp [numbered, decimalDigits]

theorem toList_numbered_two :
    (numbered [major, minor]).toList = decimalDigits major ++ '.' :: decimalDigits minor := by
  simp [numbered, decimalDigits]

/-- Three numbers are a release. -/
theorem numbered_three :
    numbered [major, minor, patch] = (Version.release major minor patch).text := by
  rw [← String.toList_inj, Version.toList_text_release]
  simp [numbered, decimalDigits]

theorem spells_major :
    Spells (numbered [major]) ⟨some (decimalDigits major), none, none, []⟩ where
  plain := by rw [toList_numbered_one, Shorthand.all_isPlain_decimalDigits]
  begins := by
    rw [toList_numbered_one]
    exact Shorthand.beginsWithDigit_decimalDigits major
  read := by rw [toList_numbered_one, Pattern.ofChars?_major]

theorem spells_major_wildcard :
    Spells (numbered [major] ++ ".x") ⟨some (decimalDigits major), none, none, []⟩ where
  plain := by
    rw [String.toList_append, toList_numbered_one, List.all_append,
      Shorthand.all_isPlain_decimalDigits]
    decide
  begins := by
    rw [String.toList_append, toList_numbered_one]
    exact (Shorthand.beginsWithDigit_decimalDigits major).append _
  read := by
    rw [String.toList_append, toList_numbered_one]
    exact Pattern.ofChars?_major_wildcard major

theorem spells_minor :
    Spells (numbered [major, minor])
      ⟨some (decimalDigits major), some (decimalDigits minor), none, []⟩ where
  plain := by
    rw [toList_numbered_two, List.all_append, List.all_cons, Shorthand.all_isPlain_decimalDigits,
      Shorthand.all_isPlain_decimalDigits]
    decide
  begins := by
    rw [toList_numbered_two]
    exact (Shorthand.beginsWithDigit_decimalDigits major).append _
  read := by rw [toList_numbered_two, Pattern.ofChars?_minor]

theorem spells_minor_wildcard :
    Spells (numbered [major, minor] ++ ".x")
      ⟨some (decimalDigits major), some (decimalDigits minor), none, []⟩ where
  plain := by
    rw [String.toList_append, List.all_append, (spells_minor major minor).plain]
    decide
  begins := by
    rw [String.toList_append]
    exact (spells_minor major minor).begins.append _
  read := by
    rw [String.toList_append, toList_numbered_two, List.append_assoc]
    exact Pattern.ofChars?_minor_wildcard major minor

theorem spells_release :
    Spells (numbered [major, minor, patch])
      ⟨some (decimalDigits major), some (decimalDigits minor), some (decimalDigits patch), []⟩ where
  plain := by rw [numbered_three, Shorthand.all_isPlain_version_text rfl]
  begins := by
    rw [numbered_three]
    exact Shorthand.beginsWithDigit_text rfl
  read := by rw [numbered_three, Pattern.ofChars?_text_release]

end Numbered

/-! ## What the spellings denote -/

/-- The text is a range of one alternative, with the bounds for its comparators. -/
def Denotes (text : String) (bounds : List Bound) : Prop :=
  parse text = .ok ⟨[bounds.map .bounded]⟩

section Denotation

variable {version : String} {pattern : Pattern} {bound : Bound} {bounds : List Bound}

/-- A token denotes the bounds it stands for. -/
theorem denotes_of_expandToken {text : String} {chars : List Char}
    (characters : text.toList = chars) (nonempty : chars ≠ [])
    (plain : chars.all Shorthand.isPlain = true)
    (releases : ∀ other ∈ bound :: bounds, other.version.isRelease = true)
    (expanded : Shorthand.expandToken (Text.ofChars chars) = Shorthand.written (bound :: bounds)) :
    Denotes text (bound :: bounds) := by
  rw [Denotes, Text.ofString, characters]
  exact parse_of_expandToken nonempty plain releases expanded

/-- A caret before a version denotes the caret's bounds. -/
theorem Spells.denotes_caret (spells : Spells version pattern)
    (meaning : Shorthand.caretBounds pattern = Shorthand.spelled (bound :: bounds))
    (releases : ∀ other ∈ bound :: bounds, other.version.isRelease = true) :
    Denotes ("^" ++ version) (bound :: bounds) := by
  refine denotes_of_expandToken (String.toList_append ..) nofun ?_ releases
    (Shorthand.expandToken_caret spells.read meaning releases)
  rw [List.all_append, spells.plain]
  decide

/-- A tilde before a version denotes the tilde's bounds. -/
theorem Spells.denotes_tilde (spells : Spells version pattern)
    (meaning : Shorthand.tildeBounds pattern = Shorthand.spelled (bound :: bounds))
    (releases : ∀ other ∈ bound :: bounds, other.version.isRelease = true) :
    Denotes ("~" ++ version) (bound :: bounds) := by
  refine denotes_of_expandToken (String.toList_append ..) nofun ?_ releases
    (Shorthand.expandToken_tilde spells.begins spells.read meaning releases)
  rw [List.all_append, spells.plain]
  decide

/-- An operator before an incomplete version denotes the wildcard's bounds. -/
theorem Spells.denotes_wildcard (spells : Spells version pattern) (relation : Relation)
    (meaning : Shorthand.wildcardBounds? relation.text.toList pattern =
      some (Shorthand.spelled (bound :: bounds)))
    (releases : ∀ other ∈ bound :: bounds, other.version.isRelease = true) :
    Denotes (relation.text ++ version) (bound :: bounds) := by
  obtain ⟨digit, digits, written, _⟩ := spells.begins
  refine denotes_of_expandToken (String.toList_append ..) (by simp [written]) ?_ releases
    (Shorthand.expandToken_wildcard relation spells.begins spells.read meaning releases)
  rw [List.all_append, spells.plain, Shorthand.all_isPlain_relation_text]
  rfl

end Denotation

section Spellings

variable (major minor patch : Nat)

/-- An operator and a release denote themselves. -/
theorem denotes_bound (relation : Relation) :
    Denotes (relation.text ++ numbered [major, minor, patch])
      [⟨relation, .release major minor patch⟩] := by
  have text : relation.text ++ numbered [major, minor, patch] =
      Bound.text ⟨relation, .release major minor patch⟩ := by
    rw [numbered_three, Bound.text]
  have isRelease : (Bound.mk relation (.release major minor patch)).version.isRelease = true := rfl
  obtain ⟨digit, digits, whole, _⟩ := Shorthand.exists_bound_text_eq isRelease
  have plain := Shorthand.all_isPlain_bound_text isRelease
  rw [whole] at plain
  refine denotes_of_expandToken (text ▸ whole) (by simp) plain (by simpa using isRelease) ?_
  rw [← whole]
  exact Shorthand.expandToken_bound isRelease

theorem denotes_caret :
    Denotes ("^" ++ numbered [major, minor, patch])
      [⟨.atLeast, .release major minor patch⟩,
        ⟨.less, Shorthand.caretLimit major minor patch⟩] :=
  (spells_release major minor patch).denotes_caret
    (Shorthand.caretBounds_decimalDigits major minor patch)
    (Shorthand.isRelease_pair rfl (Shorthand.isRelease_caretLimit major minor patch) _ _)

theorem denotes_tilde :
    Denotes ("~" ++ numbered [major, minor, patch])
      [⟨.atLeast, .release major minor patch⟩, ⟨.less, .release major (minor + 1) 0⟩] :=
  (spells_release major minor patch).denotes_tilde
    (Shorthand.tildeBounds_decimalDigits major minor patch) (Shorthand.isRelease_pair rfl rfl _ _)

/-- An interval denotes its two ends. -/
theorem denotes_interval (major' minor' patch' : Nat) :
    Denotes (numbered [major, minor, patch] ++ " - " ++ numbered [major', minor', patch'])
      [⟨.atLeast, .release major minor patch⟩, ⟨.atMost, .release major' minor' patch'⟩] := by
  have characters : (numbered [major, minor, patch] ++ " - " ++
      numbered [major', minor', patch']).toList =
        (Version.release major minor patch).text.toList ++ Shorthand.hyphen ++
          (Version.release major' minor' patch').text.toList := by
    simp [numbered_three, Shorthand.hyphen]
  rw [Denotes, Text.ofString, characters]
  exact parse_interval rfl rfl

/-- Every spelling of a major version denotes the whole of it. -/
theorem denotes_major {text : String}
    (spelling : text ∈ [numbered [major], numbered [major] ++ ".x", "^" ++ numbered [major],
      "~" ++ numbered [major]]) :
    Denotes text [⟨.atLeast, .release major 0 0⟩, ⟨.less, .release (major + 1) 0 0⟩] := by
  have whole := Shorthand.wholeMajor_decimalDigits major
  simp only [List.mem_cons, List.not_mem_nil, or_false] at spelling
  rcases spelling with rfl | rfl | rfl | rfl
  · simpa [Relation.text] using
      (spells_major major).denotes_wildcard .plain (congrArg some whole)
        (Shorthand.isRelease_pair rfl rfl _ _)
  · simpa [Relation.text] using
      (spells_major_wildcard major).denotes_wildcard .plain (congrArg some whole)
        (Shorthand.isRelease_pair rfl rfl _ _)
  · exact (spells_major major).denotes_caret whole (Shorthand.isRelease_pair rfl rfl _ _)
  · exact (spells_major major).denotes_tilde whole (Shorthand.isRelease_pair rfl rfl _ _)

/-- Every spelling of a minor version denotes the whole of it. -/
theorem denotes_minor {text : String}
    (spelling : text ∈ [numbered [major, minor] ++ ".x", "~" ++ numbered [major, minor]]) :
    Denotes text [⟨.atLeast, .release major minor 0⟩, ⟨.less, .release major (minor + 1) 0⟩] := by
  have whole := Shorthand.wholeMinor_decimalDigits major minor
  simp only [List.mem_cons, List.not_mem_nil, or_false] at spelling
  rcases spelling with rfl | rfl
  · simpa [Relation.text] using
      (spells_minor_wildcard major minor).denotes_wildcard .plain (congrArg some whole)
        (Shorthand.isRelease_pair rfl rfl _ _)
  · exact (spells_minor major minor).denotes_tilde whole (Shorthand.isRelease_pair rfl rfl _ _)

/-- Above a major version lies what begins with the next. -/
theorem denotes_above_major :
    Denotes (">" ++ numbered [major]) [⟨.atLeast, .release (major + 1) 0 0⟩] :=
  (spells_major major).denotes_wildcard .greater (Shorthand.wildcardBounds?_greater major)
    (by simp [Version.isRelease, Version.release])

end Spellings

end Range

/-! ## The floor -/

namespace Requirement

open Range (numbered Denotes)

variable {version : String} {parsed : Version}

/-- What lies below a text is decided by the lower ones of the bounds that it denotes. -/
theorem isAboveText_of_denotes {text : String} {bounds : List Bound}
    (denotes : Denotes text bounds) (readsVersion : Version.parse? version = some parsed) :
    isAboveText (.string text) version =
      .ok (bounds.any fun bound => bound.relation.isLower && bound.isAbove parsed) := by
  have floor : (fun comparator : Comparator => comparator.isAbove parsed) ∘ Comparator.bounded =
      fun bound => bound.relation.isLower && bound.isAbove parsed :=
    funext fun _ => Comparator.isAbove_bounded
  rw [isAboveText_string denotes readsVersion, Range.isAbove, List.all_cons, List.all_nil,
    Bool.and_true, Alternative.isAbove_eq_any, List.any_map, floor]

/-- A lower bound that is met is the floor, whatever upper bound stands beside it. -/
theorem isAboveText_of_denotes_pair {text : String} {lower : Version} {upper : Bound}
    (denotes : Denotes text [⟨.atLeast, lower⟩, upper])
    (notLower : upper.relation.isLower = false)
    (readsVersion : Version.parse? version = some parsed) :
    isAboveText (.string text) version = .ok (decide (parsed < lower)) := by
  rw [isAboveText_of_denotes denotes readsVersion]
  simp only [List.any_cons, notLower, Bool.false_and, List.any_nil, Bool.or_false]
  rfl

/-- An operator before a release leaves what the operator says. -/
theorem isAboveText_bound (readsVersion : Version.parse? version = some parsed)
    (relation : Relation) (major minor patch : Nat) :
    isAboveText (.string (relation.text ++ numbered [major, minor, patch] : String)) version =
      .ok (relation.isLower && Bound.isAbove ⟨relation, .release major minor patch⟩ parsed) := by
  have denotes := Range.denotes_bound major minor patch relation
  rw [isAboveText_of_denotes denotes readsVersion, List.any_cons, List.any_nil, Bool.or_false]

/-- All spellings of a range with one base have one floor. A complete version is its own, with
or without an operator, under a caret or a tilde and as the start of an interval, and only
"greater" includes it among what is below. An incomplete one has the floor of what it begins,
above a major version that of the next, and what is bounded from above only has none. -/
theorem isAboveText_shorthand (readsVersion : Version.parse? version = some parsed)
    (major minor patch major' minor' patch' : Nat) :
    (∀ text ∈ [numbered [major, minor, patch], "=" ++ numbered [major, minor, patch],
        ">=" ++ numbered [major, minor, patch], "^" ++ numbered [major, minor, patch],
        "~" ++ numbered [major, minor, patch],
        numbered [major, minor, patch] ++ " - " ++ numbered [major', minor', patch']],
      isAboveText (.string text) version =
        .ok (decide (parsed < .release major minor patch))) ∧
    isAboveText (.string (">" ++ numbered [major, minor, patch] : String)) version =
      .ok (decide (parsed ≤ .release major minor patch)) ∧
    (∀ text ∈ [numbered [major], numbered [major] ++ ".x", "^" ++ numbered [major],
        "~" ++ numbered [major]],
      isAboveText (.string text) version = .ok (decide (parsed < .release major 0 0))) ∧
    (∀ text ∈ [numbered [major, minor] ++ ".x", "~" ++ numbered [major, minor]],
      isAboveText (.string text) version = .ok (decide (parsed < .release major minor 0))) ∧
    isAboveText (.string (">" ++ numbered [major] : String)) version =
      .ok (decide (parsed < .release (major + 1) 0 0)) ∧
    ∀ text ∈ ["<" ++ numbered [major, minor, patch], "<=" ++ numbered [major, minor, patch]],
      isAboveText (.string text) version = .ok false := by
  have bound (relation : Relation) := isAboveText_bound readsVersion relation major minor patch
  refine ⟨fun text member => ?_, bound .greater, fun text member => ?_, fun text member => ?_,
    ?_, fun text member => ?_⟩
  · simp only [List.mem_cons, List.not_mem_nil, or_false] at member
    rcases member with rfl | rfl | rfl | rfl | rfl | rfl
    · have plain := bound .plain
      rwa [Relation.text, String.empty_append] at plain
    · exact bound .equal
    · exact bound .atLeast
    · exact isAboveText_of_denotes_pair (Range.denotes_caret major minor patch) rfl readsVersion
    · exact isAboveText_of_denotes_pair (Range.denotes_tilde major minor patch) rfl readsVersion
    · exact isAboveText_of_denotes_pair
        (Range.denotes_interval major minor patch major' minor' patch') rfl readsVersion
  · exact isAboveText_of_denotes_pair (Range.denotes_major major member) rfl readsVersion
  · exact isAboveText_of_denotes_pair (Range.denotes_minor major minor member) rfl readsVersion
  · rw [isAboveText_of_denotes (Range.denotes_above_major major) readsVersion]
    simp [Relation.isLower, Bound.isAbove]
  · simp only [List.mem_cons, List.not_mem_nil, or_false] at member
    rcases member with rfl | rfl
    · exact bound .less
    · exact bound .atMost

/-- A pre-release is below the release it leads to, and below what comes after that. -/
theorem isAboveText_shorthand_prerelease :
    Version.parse? "4.17.0-beta.2" = some ⟨4, 17, 0, [.label "beta", .number 2]⟩ ∧
      isAboveText (.string "^4.17.0") "4.17.0-beta.2" = .ok true ∧
      isAboveText (.string ">4") "4.17.0-beta.2" = .ok true ∧
      isAboveText (.string "4.x") "4.17.0-beta.2" = .ok false := by
  have readsVersion : Version.parse? "4.17.0-beta.2" =
      some ⟨4, 17, 0, [.label "beta", .number 2]⟩ := by
    decide +kernel
  have caret : "^4.17.0" = "^" ++ numbered [4, 17, 0] := by decide +kernel
  have greater : ">4" = ">" ++ numbered [4] := by decide +kernel
  have wildcard : "4.x" = numbered [4] ++ ".x" := by decide +kernel
  obtain ⟨complete, _, wholeMajor, _, above, _⟩ := isAboveText_shorthand readsVersion 4 17 0 0 0 0
  refine ⟨readsVersion, ?_, ?_, ?_⟩
  · rw [caret, complete _ (by simp)]
    decide
  · rw [greater, above]
    decide
  · rw [wildcard, wholeMajor _ (by simp)]
    decide

end Requirement

end ManifestAudit
