import ManifestAudit.Proofs.Association
import ManifestAudit.Proofs.Report.Agreement

/-!
# Recording a result in place

A report that is changed in place is changed in steps: the outcome is counted, and then the
result is put behind the others. Whether there is a result about the rule already is seen from
the outcomes, which hold each rule once, however often it stands among the results.
`recordInPlace` takes these steps one by one, on a report in any state, and what was written
stays written if a later step fails. None does: all that can be refused is refused before
anything is written, so recording in place is recording at once, `recordInPlace_run`, and
`recordInPlace_atomic` says what becomes of the report.
-/

namespace ManifestAudit

namespace Summary

/-- An outcome that is counted is counted once more, and no other is. -/
theorem count_increment (summary : Summary) (outcome other : Outcome) :
    (summary.increment outcome).count other =
      summary.count other + if other = outcome then 1 else 0 := by
  cases outcome <;> cases other <;> rfl

/-- So there is one outcome more in all. -/
theorem total_increment (summary : Summary) (outcome : Outcome) :
    (summary.increment outcome).total = summary.total + 1 := by
  simp only [total, order, List.foldl_cons, List.foldl_nil, count_increment]
  cases outcome <;> simp <;> omega

end Summary

namespace Report

variable {report after : Report} {result : Result} {error : RecordError}

/-- Steps that change a report and may fail on the way. -/
abbrev Edit := ExceptT RecordError (StateM Report)

/-- Record a result step by step. -/
def recordInPlace (result : Result) : Edit Unit := do
  let report ← get
  if report.skipped then throw (.skippedReport report.name)
  let some outcome := result.outcome | throw (.noOutcome result.ruleId)
  if (Association.get? (· == ·) result.ruleId report.outcomes).isSome then
    throw (.alreadyEvaluated result.ruleId)
  modify fun report => { report with summary := report.summary.increment outcome }
  modify fun report => { report with results := report.results ++ [result] }

/-- A result is refused for the first of three reasons that applies. -/
inductive Refuses (report : Report) (result : Result) : RecordError → Prop where
  | skipped (skipped : report.skipped = true) :
      Refuses report result (.skippedReport report.name)
  | undecided (evaluated : report.skipped = false) (undecided : result.outcome = none) :
      Refuses report result (.noOutcome result.ruleId)
  | repeated (evaluated : report.skipped = false) (decided : result.outcome ≠ none)
      (repeated : ∃ other ∈ report.results, other.ruleId = result.ruleId) :
      Refuses report result (.alreadyEvaluated result.ruleId)

/-- A report is extended by a result: it has the result behind the others, counts its outcome
once more, and is otherwise as it was. -/
structure Extends (after report : Report) (result : Result) : Prop where
  results : after.results = report.results ++ [result]
  counts : ∃ outcome, result.outcome = some outcome ∧
    after.summary.count outcome = report.summary.count outcome + 1 ∧
    ∀ other, other ≠ outcome → after.summary.count other = report.summary.count other
  total : after.summary.total = report.summary.total + 1
  name : after.name = report.name
  skipped : after.skipped = report.skipped

/-! ## The steps -/

section Steps

variable {α : Type}

/-- The state is looked at as it is. -/
theorem run_get_bind (next : Report → Edit α) (report : Report) :
    (get >>= next).run.run report = (next report).run.run report := rfl

/-- A change is made before the next step is taken. -/
theorem run_modify_bind (change : Report → Report) (next : Unit → Edit α) (report : Report) :
    (modify change >>= next).run.run report = (next ()).run.run (change report) := rfl

/-- The last change is the state that is left. -/
theorem run_modify (change : Report → Report) (report : Report) :
    (modify change : Edit Unit).run.run report = (.ok (), change report) := rfl

end Steps

/-- A rule is among the outcomes when some result is about it, be it one or several. -/
theorem isSome_get?_outcomes_iff {ruleId : String} :
    (Association.get? (· == ·) ruleId report.outcomes).isSome = true ↔
      ∃ other ∈ report.results, other.ruleId = ruleId := by
  rw [outcomes, Association.isSome_get?_collect_iff]
  simp

/-- So the outcomes tell what the results tell. -/
theorem isSome_get?_outcomes (report : Report) (ruleId : String) :
    (Association.get? (· == ·) ruleId report.outcomes).isSome = report.mentions ruleId := by
  rw [Bool.eq_iff_iff, isSome_get?_outcomes_iff]
  simp [mentions]

/-- Step by step comes to the same as at once, and a result that is refused leaves nothing
written. -/
theorem recordInPlace_run (report : Report) (result : Result) :
    (recordInPlace result).run.run report =
      match report.record result with
      | .ok after => (.ok (), after)
      | .error error => (.error error, report) := by
  have known := isSome_get?_outcomes report result.ruleId
  unfold recordInPlace record
  rw [run_get_bind]
  cases skipped : report.skipped with
  | true => rfl
  | false =>
      cases decided : result.outcome with
      | none => rfl
      | some outcome =>
          dsimp only
          rw [known]
          cases mentioned : report.mentions result.ruleId with
          | true => rfl
          | false =>
              simp only [Bool.false_eq_true, if_false]
              rw [run_modify_bind, run_modify, skipped]

/-! ## What becomes of the report -/

/-- A refusal has the first reason that applies. -/
theorem record_eq_error_iff : report.record result = .error error ↔ Refuses report result error := by
  have mentioned : report.mentions result.ruleId = true ↔
      ∃ other ∈ report.results, other.ruleId = result.ruleId := by
    simp [mentions]
  unfold record
  constructor
  · intro refused
    split at refused
    case isTrue skipped =>
      cases refused
      exact .skipped skipped
    case isFalse evaluated =>
      split at refused
      case h_1 undecided =>
        cases refused
        exact .undecided (Bool.eq_false_iff.mpr evaluated) undecided
      case h_2 outcome decided =>
        split at refused
        case isTrue repeated =>
          cases refused
          exact .repeated (Bool.eq_false_iff.mpr evaluated) (by simp [decided])
            (mentioned.mp repeated)
        case isFalse => cases refused
  · intro refuses
    cases refuses with
    | skipped skipped => rw [if_pos skipped]
    | undecided evaluated undecided => rw [if_neg (by simp [evaluated]), undecided]
    | repeated evaluated decided repeated =>
        obtain ⟨outcome, decided⟩ := Option.ne_none_iff_exists'.mp decided
        rw [if_neg (by simp [evaluated]), decided]
        exact if_pos (mentioned.mpr repeated)

/-- A result is refused exactly when one of the three reasons applies. -/
theorem exists_refuses_iff :
    (∃ error, Refuses report result error) ↔ report.skipped = true ∨ result.outcome = none ∨
      ∃ other ∈ report.results, other.ruleId = result.ruleId := by
  constructor
  · rintro ⟨error, skipped | ⟨_, undecided⟩ | ⟨_, _, repeated⟩⟩
    · exact .inl skipped
    · exact .inr (.inl undecided)
    · exact .inr (.inr repeated)
  · intro reason
    -- The reasons are gone through in the order in which they are looked at.
    by_cases skipped : report.skipped = true
    · exact ⟨_, .skipped skipped⟩
    · have evaluated : report.skipped = false := Bool.eq_false_iff.mpr skipped
      by_cases undecided : result.outcome = none
      · exact ⟨_, .undecided evaluated undecided⟩
      · rcases reason with skipped' | undecided' | repeated
        · exact absurd skipped' skipped
        · exact absurd undecided' undecided
        · exact ⟨_, .repeated evaluated undecided repeated⟩

/-- A result that is recorded extends the report. -/
theorem extends_of_record (recorded : report.record result = .ok after) :
    Extends after report result := by
  obtain ⟨_, _, outcome, decided, rfl⟩ := record_eq_ok_iff.mp recorded
  refine ⟨rfl, ⟨outcome, decided, ?_, ?_⟩, Summary.total_increment _ _, rfl, rfl⟩
  · simp [Summary.count_increment]
  · intro other different
    simp [Summary.count_increment, different]

/-- Recording a result, step by step on a report in any state, is refused exactly when the
report is skipped, the result has no outcome, or another result is about its rule; the refusal
gives the first reason that applies, and the report is left as it was. Otherwise the report is
extended by the result, and by nothing else. -/
theorem recordInPlace_atomic (report : Report) (result : Result) :
    ∃ answer after, (recordInPlace result).run.run report = (answer, after) ∧
      report.record result = answer.map (fun _ => after) ∧
      ((∃ error, answer = .error error) ↔ report.skipped = true ∨ result.outcome = none ∨
        ∃ other ∈ report.results, other.ruleId = result.ruleId) ∧
      (∀ error, answer = .error error ↔ Refuses report result error) ∧
      (∀ error, answer = .error error → after = report) ∧
      (answer = .ok () → Extends after report result) := by
  rw [← exists_refuses_iff, recordInPlace_run]
  cases recorded : report.record result with
  | error error =>
      have refuses (other : RecordError) :
          Except.error error = (.error other : Except RecordError Unit) ↔
            Refuses report result other := by
        rw [← record_eq_error_iff, recorded, Except.error.injEq, Except.error.injEq]
      exact ⟨.error error, report, rfl, rfl, exists_congr refuses, refuses, fun _ _ => rfl, nofun⟩
  | ok after =>
      have accepts (error : RecordError) : ¬ Refuses report result error := by
        rw [← record_eq_error_iff, recorded]
        exact nofun
      refine ⟨.ok (), after, rfl, rfl, ⟨nofun, ?_⟩, fun error => ⟨nofun, ?_⟩, nofun, fun _ => ?_⟩
      · rintro ⟨error, refuses⟩
        exact absurd refuses (accepts error)
      · exact fun refuses => absurd refuses (accepts error)
      · exact extends_of_record recorded

/-- A report of which nothing is in order: a result without an outcome, two about one rule, and
counts of something else. -/
def untidy : Report where
  name := "package.json"
  results := [⟨"a", "", "", none⟩, ⟨"b", "", "", some .passed⟩, ⟨"b", "", "", some .failed⟩]
  skipped := false
  summary := ⟨7, 0, 0⟩

/-- A new result extends it and one about a rule without an outcome does not. Where several
reasons apply, being skipped comes first, and then the outcome that is wanting. -/
theorem recordInPlace_atomic_untidy :
    (∃ after, (recordInPlace ⟨"c", "", "", some .failed⟩).run.run untidy = (.ok (), after) ∧
      Extends after untidy ⟨"c", "", "", some .failed⟩) ∧
    (recordInPlace ⟨"a", "", "", some .failed⟩).run.run untidy =
      (.error (.alreadyEvaluated "a"), untidy) ∧
    (recordInPlace ⟨"b", "", "", none⟩).run.run untidy = (.error (.noOutcome "b"), untidy) ∧
    (recordInPlace ⟨"b", "", "", none⟩).run.run { untidy with skipped := true } =
      (.error (.skippedReport "package.json"), { untidy with skipped := true }) := by
  -- A refusal is told by its reason, and then the report is the one from before.
  have refused {report : Report} {result : Result} {error : RecordError}
      (refuses : Refuses report result error) :
      (recordInPlace result).run.run report = (.error error, report) := by
    obtain ⟨answer, after, ran, _, _, reasons, unchanged, _⟩ := recordInPlace_atomic report result
    have failed := (reasons error).mpr refuses
    rw [ran, failed, unchanged error failed]
  refine ⟨?_, refused ?_, refused ?_, refused (.skipped rfl)⟩
  · obtain ⟨answer, after, ran, _, reasons, _, _, extended⟩ :=
      recordInPlace_atomic untidy ⟨"c", "", "", some .failed⟩
    have accepted : answer = .ok () := by
      cases answer with
      | ok done => rfl
      | error error => exact absurd (reasons.mp ⟨error, rfl⟩) (by decide)
    exact ⟨after, by rw [ran, accepted], extended accepted⟩
  · exact .repeated rfl (by decide) (by decide)
  · exact .undecided rfl rfl

end Report

end ManifestAudit
