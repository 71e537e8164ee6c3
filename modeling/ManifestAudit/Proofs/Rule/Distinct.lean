import ManifestAudit.Proofs.Rule.Specification

/-!
# Which rules make a rule set

Rules make a set unless an identifier occurs twice among them. The search for one goes through
the rules once and remembers what it has passed, so it stops at the least place whose
identifier stands in front of it already, `firstRepeated?_eq_some_iff`: of two pairs that
overlap, the one that is complete first is named, not the one that begins first.
`RuleSet.ofRules_decides` says that there is no other reason to refuse rules, and that a set
which is made keeps them all, in every report on it too.
-/

namespace ManifestAudit

/-! ## The first repetition -/

section Repetition

variable {seen ids : List String} {place : Nat} {id : String}

/-- A text stands at a place of a list, and at another one before it. -/
structure IsRepeat (ids : List String) (place : Nat) (id : String) : Prop where
  here : ids[place]? = some id
  before : ∃ earlier < place, ids[earlier]? = some id

/-- No place before it is such a place. -/
structure IsFirstRepeat (ids : List String) (place : Nat) (id : String) : Prop
    extends IsRepeat ids place id where
  least : ∀ other otherId, IsRepeat ids other otherId → place ≤ other

/-- There is one first repetition at most. -/
theorem IsFirstRepeat.unique {other : Nat} {otherId : String}
    (first : IsFirstRepeat ids place id) (second : IsFirstRepeat ids other otherId) :
    place = other ∧ id = otherId := by
  have same : place = other := by
    have forth := first.least _ _ second.toIsRepeat
    have back := second.least _ _ first.toIsRepeat
    omega
  subst same
  exact ⟨rfl, Option.some.inj (first.here.symm.trans second.here)⟩

/-- A list has a repetition exactly when a text stands at two places of it. -/
theorem exists_isRepeat_iff :
    (∃ place id, IsRepeat ids place id) ↔
      ∃ left right : Nat, ∃ id, left ≠ right ∧ ids[left]? = some id ∧ ids[right]? = some id := by
  constructor
  · rintro ⟨place, id, here, earlier, before, there⟩
    exact ⟨earlier, place, id, by omega, there, here⟩
  · rintro ⟨left, right, id, different, atLeft, atRight⟩
    rcases Nat.lt_or_gt_of_ne different with before | behind
    · exact ⟨right, id, atRight, left, before, atLeft⟩
    · exact ⟨left, id, atLeft, right, behind, atRight⟩

/-- A list without double entries has no repetition. -/
theorem not_isRepeat_of_nodup (distinct : ids.Nodup) : ¬ IsRepeat ids place id := by
  rintro ⟨here, earlier, before, there⟩
  obtain ⟨within, _⟩ := List.getElem?_eq_some_iff.mp here
  apply List.nodup_iff_getElem?_ne_getElem?.mp distinct earlier place before within
  rw [there, here]

/-- The search stops at a text that was seen at first or passed since; up to there it found
nothing. -/
theorem exists_front_of_firstRepeated? (found : firstRepeated? seen ids = some id) :
    ∃ front behind, ids = front ++ id :: behind ∧ (id ∈ seen ∨ id ∈ front) ∧
      firstRepeated? seen front = none := by
  -- What is seen grows by each text that is passed, so the induction is for any of it.
  induction ids generalizing seen with
  | nil => cases found
  | cons first ids inductionHypothesis =>
      by_cases repeated : first ∈ seen
      · have same : first = id := by simpa [firstRepeated?, repeated] using found
        subst same
        exact ⟨[], ids, rfl, .inl repeated, rfl⟩
      · have later : firstRepeated? (first :: seen) ids = some id := by
          simpa [firstRepeated?, repeated] using found
        obtain ⟨front, behind, rfl, passed, nothing⟩ := inductionHypothesis later
        refine ⟨first :: front, behind, rfl, ?_, by simpa [firstRepeated?, repeated] using nothing⟩
        simpa [or_assoc, or_left_comm] using passed

/-- What the search finds is the first repetition. -/
theorem exists_isFirstRepeat_of_firstRepeated? (found : firstRepeated? [] ids = some id) :
    ∃ place, IsFirstRepeat ids place id := by
  obtain ⟨front, behind, rfl, passed, nothing⟩ := exists_front_of_firstRepeated? found
  have distinct : front.Nodup := ((firstRepeated?_eq_none_iff [] front).mp nothing).1
  have inFront (other : Nat) (before : other < front.length) :
      (front ++ id :: behind)[other]? = front[other]? := List.getElem?_append_left before
  refine ⟨front.length, ⟨by simp, ?_⟩, ?_⟩
  · have member : id ∈ front := by simpa using passed
    obtain ⟨earlier, there⟩ := List.mem_iff_getElem?.mp member
    obtain ⟨within, _⟩ := List.getElem?_eq_some_iff.mp there
    exact ⟨earlier, within, by rw [inFront earlier within, there]⟩
  · rintro other otherId ⟨here, earlier, before, there⟩
    apply Nat.le_of_not_gt
    intro within
    rw [inFront other within] at here
    rw [inFront earlier (by omega)] at there
    exact not_isRepeat_of_nodup distinct ⟨here, earlier, before, there⟩

/-- A text is the first to be repeated when the first repetition is one of it. -/
theorem firstRepeated?_eq_some_iff :
    firstRepeated? [] ids = some id ↔ ∃ place, IsFirstRepeat ids place id := by
  refine ⟨exists_isFirstRepeat_of_firstRepeated?, ?_⟩
  rintro ⟨place, first⟩
  cases found : firstRepeated? [] ids with
  | none =>
      have distinct : ids.Nodup := ((firstRepeated?_eq_none_iff [] ids).mp found).1
      exact absurd first.toIsRepeat (not_isRepeat_of_nodup distinct)
  | some other =>
      obtain ⟨otherPlace, second⟩ := exists_isFirstRepeat_of_firstRepeated? found
      rw [(first.unique second).2]

/-- Nothing is repeated first exactly when there is no repetition. -/
theorem firstRepeated?_eq_none_iff_not_isRepeat :
    firstRepeated? [] ids = none ↔ ¬ ∃ place id, IsRepeat ids place id := by
  constructor
  · rintro nothing ⟨place, id, again⟩
    exact not_isRepeat_of_nodup ((firstRepeated?_eq_none_iff [] ids).mp nothing).1 again
  · intro never
    cases found : firstRepeated? [] ids with
    | none => rfl
    | some id =>
        obtain ⟨place, first⟩ := exists_isFirstRepeat_of_firstRepeated? found
        exact absurd ⟨place, id, first.toIsRepeat⟩ never

end Repetition

/-! ## Making a rule set -/

namespace RuleSet

variable {Note : Type} {name defaultPath : String} {rules : List (Rule Note)}

/-- A set keeps the rules that it was made of: it has them in order and under the name, their
identifiers are distinct, and these are what every report on the set lists. -/
structure Keeps (set : RuleSet Note) (title : String) (given : List (Rule Note)) : Prop where
  name : set.name = title
  rules : set.rules = given
  distinct : (given.map Rule.id).Nodup
  skipped : (Report.skippedFor set).results.map Result.ruleId = given.map Rule.id
  reported : ∀ document options found, ∃ run, set.run document options found = .ok run ∧
    run.report.results.map Result.ruleId = given.map Rule.id

/-- A report on a set lists the identifiers of its rules. -/
theorem map_ruleId_specified (set : RuleSet Note) (document : Json.Value) (options : Options)
    (found : Bool) :
    (set.specified document options found).report.results.map Result.ruleId =
      set.rules.map Rule.id := by
  unfold specified
  split
  · simp [Run.ofRules, Rule.evaluated, Result.ofRule, Function.comp_def]
  · simp [Report.skippedFor, Result.ofRule, Function.comp_def]

/-- Rules without a repetition make a set that keeps them. -/
theorem ofRules_of_firstRepeated?_eq_none (name defaultPath : String)
    (nothing : firstRepeated? [] (rules.map Rule.id) = none) :
    ∃ set, ofRules name rules defaultPath = .ok set ∧ set.Keeps name rules := by
  refine ⟨⟨name, rules, if defaultPath.isEmpty then name else defaultPath, nothing⟩, ?_, ?_⟩
  · unfold ofRules
    split
    case h_1 id found => rw [nothing] at found; cases found
    case h_2 => rfl
  · exact
      { name := rfl
        rules := rfl
        distinct := ((firstRepeated?_eq_none_iff [] _).mp nothing).1
        skipped := by simp [Report.skippedFor, Result.ofRule, Function.comp_def]
        reported := fun document options found =>
          ⟨_, run_eq_specified document options _ found, map_ruleId_specified _ _ _ _⟩ }

/-- Rules with a repetition are refused under the identifier that is repeated first. -/
theorem ofRules_of_firstRepeated?_eq_some {id : String}
    (found : firstRepeated? [] (rules.map Rule.id) = some id) :
    ofRules name rules defaultPath = .error (.duplicate id name) := by
  unfold ofRules
  split
  case h_1 other found' => rw [Option.some.inj (found'.symm.trans found)]
  case h_2 nothing => rw [nothing] at found; cases found

/-- Rules are refused exactly when two of them have the same identifier, and the refusal names
the one at the least place whose identifier has occurred before. Other rules make a set that
keeps them. -/
theorem ofRules_decides (name : String) (rules : List (Rule Note)) (defaultPath : String) :
    ((∃ error, ofRules name rules defaultPath = .error error) ↔
      ∃ left right : Nat, ∃ id, left ≠ right ∧ (rules.map Rule.id)[left]? = some id ∧
        (rules.map Rule.id)[right]? = some id) ∧
    (∀ error, ofRules name rules defaultPath = .error error ↔
      ∃ place id, IsFirstRepeat (rules.map Rule.id) place id ∧ error = .duplicate id name ∧
        error.message = "Duplicate rule id " ++ Text.quoted id ++ " in " ++ name) ∧
    ∀ set, ofRules name rules defaultPath = .ok set → set.Keeps name rules := by
  rw [← exists_isRepeat_iff]
  cases found : firstRepeated? [] (rules.map Rule.id) with
  | none =>
      obtain ⟨set, made, keeps⟩ :=
        ofRules_of_firstRepeated?_eq_none name defaultPath found
      have never := firstRepeated?_eq_none_iff_not_isRepeat.mp found
      rw [made]
      refine ⟨⟨nofun, fun again => absurd again never⟩, fun error => ⟨nofun, ?_⟩, ?_⟩
      · rintro ⟨place, id, first, _⟩
        exact absurd ⟨place, id, first.toIsRepeat⟩ never
      · rintro _ ⟨⟩
        exact keeps
  | some id =>
      obtain ⟨place, first⟩ := firstRepeated?_eq_some_iff.mp found
      rw [ofRules_of_firstRepeated?_eq_some found]
      refine ⟨⟨fun _ => ⟨place, id, first.toIsRepeat⟩, fun _ => ⟨_, rfl⟩⟩, fun error => ?_, nofun⟩
      constructor
      · rintro ⟨⟩
        exact ⟨place, id, first, rfl, rfl⟩
      · rintro ⟨otherPlace, otherId, second, rfl, _⟩
        rw [(first.unique second).2]

/-- Of rules on `a`, `b`, `b` and `a`, it is `b` that the refusal names; the first two by
themselves make a set. -/
theorem ofRules_decides_overlapping :
    let rule (id : String) : Rule Unit := .constant id (.value .null)
    ofRules "package.json" (["a", "b", "b", "a"].map rule) "" =
        .error (.duplicate "b" "package.json") ∧
      ∃ set, ofRules "package.json" (["a", "b"].map rule) "" = .ok set ∧
        set.Keeps "package.json" (["a", "b"].map rule) := by
  intro rule
  have first : IsFirstRepeat ["a", "b", "b", "a"] 2 "b" := by
    refine ⟨⟨rfl, 1, by omega, rfl⟩, ?_⟩
    rintro other otherId ⟨here, earlier, before, there⟩
    apply Nat.le_of_not_gt
    intro within
    -- In front of the second place there is one text only, and it is another one.
    have places : earlier = 0 ∧ other = 1 := by omega
    obtain ⟨rfl, rfl⟩ := places
    have same : "b" = "a" := Option.some.inj (here.trans there.symm)
    exact absurd same (by decide)
  constructor
  · exact ((ofRules_decides _ _ _).2.1 _).mpr ⟨2, "b", first, rfl, rfl⟩
  · exact ⟨_, rfl, (ofRules_decides _ _ _).2.2 _ rfl⟩

end RuleSet

end ManifestAudit
