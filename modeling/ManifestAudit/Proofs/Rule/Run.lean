import ManifestAudit.Rule.Run
import Mathlib.Data.List.Nodup

/-!
# What a run comes to

A run records one result after another, and each of these steps could be refused.
None is: the identifiers of a rule set are distinct, so no result is about a rule that
was recorded before. `RuleSet.run_found` gives the whole run without any recording, as
the list of its rules, each with its outcome. What the exit status says is then
read off that list.
-/

namespace ManifestAudit

/-- No text of a list is repeated, and none occurred before, exactly when there is no
first one to be repeated. -/
theorem firstRepeated?_eq_none_iff (seen ids : List String) :
    firstRepeated? seen ids = none ↔ ids.Nodup ∧ ∀ id ∈ ids, id ∉ seen := by
  induction ids generalizing seen with
  | nil => simp [firstRepeated?]
  | cons id ids inductionHypothesis =>
      by_cases repeated : id ∈ seen
      · simp [firstRepeated?, repeated]
      · simp only [firstRepeated?, List.contains_eq_mem, repeated, decide_false,
          Bool.false_eq_true, if_false, inductionHypothesis, List.nodup_cons, List.mem_cons,
          not_or, forall_eq_or_imp, not_false_eq_true, true_and]
        constructor
        · rintro ⟨distinct, fresh⟩
          exact ⟨⟨fun member => (fresh id member).1 rfl, distinct⟩,
            fun other member => (fresh other member).2⟩
        · rintro ⟨⟨notAgain, distinct⟩, fresh⟩
          exact ⟨distinct, fun other member =>
            ⟨fun same => notAgain (same ▸ member), fresh other member⟩⟩

namespace Summary

/-- How often each outcome occurs in a list. -/
def tally (outcomes : List Outcome) : Summary :=
  ⟨outcomes.count .failed, outcomes.count .passed, outcomes.count .notApplicable⟩

/-- One more outcome at the end of a list is counted once more. -/
theorem tally_concat (outcomes : List Outcome) (outcome : Outcome) :
    tally (outcomes ++ [outcome]) = (tally outcomes).increment outcome := by
  cases outcome <;> simp [tally, increment]

end Summary

namespace Report

/-- The exit status is 0 unless it is 1. -/
theorem exitCode_eq_zero_iff {report : Report} : report.exitCode = 0 ↔ ¬ report.exitCode = 1 := by
  unfold exitCode
  cases report.passed <;> simp

end Report

section Run

variable {Note : Type} (document : Json.Value) (options : Options)

namespace Rule

/-- The result of a rule for a document. -/
def evaluated (rule : Rule Note) : Result :=
  Result.ofRule rule (some (rule.outcome document options))

/-- What happens while a rule is asked: its notes, and then its decision. -/
def events (rule : Rule Note) : List (Event Note) :=
  (rule.check document options).notes.map .noted ++
    [.decided rule.id (rule.outcome document options)]

end Rule

namespace Run

/-- What asking the rules of a list comes to. -/
def ofRules (name : String) (rules : List (Rule Note)) : Run Note where
  report :=
    { name := name
      results := rules.map (·.evaluated document options)
      skipped := false
      summary := Summary.tally (rules.map (·.outcome document options)) }
  events := rules.flatMap (·.events document options)

/-- The report mentions the rules of the list and no others. -/
theorem mentions_ofRules {name ruleId : String} {rules : List (Rule Note)} :
    (ofRules document options name rules).report.mentions ruleId = true ↔
      ruleId ∈ rules.map Rule.id := by
  simp [ofRules, Report.mentions, Rule.evaluated, Result.ofRule]

/-- The exit status is 1 exactly when some rule of the list fails. -/
theorem exitCode_ofRules_eq_one_iff {name : String} {rules : List (Rule Note)} :
    (ofRules document options name rules).report.exitCode = 1 ↔
      ∃ rule ∈ rules, rule.outcome document options = .failed := by
  have passed : (ofRules document options name rules).report.passed = true ↔
      ∀ rule ∈ rules, rule.outcome document options ≠ .failed := by
    simp [ofRules, Report.passed, Summary.tally, List.count_eq_zero]
  rw [Report.exitCode, ← not_iff_not]
  push Not
  rw [← passed]
  cases (ofRules document options name rules).report.passed <;> simp

/-- Where each rule of the list has the same outcome, the report is the same. -/
theorem report_ofRules_congr {left right : Json.Value} {leftOptions rightOptions : Options}
    {name : String} {rules : List (Rule Note)}
    (same : ∀ rule ∈ rules, rule.outcome left leftOptions = rule.outcome right rightOptions) :
    (ofRules left leftOptions name rules).report =
      (ofRules right rightOptions name rules).report := by
  have outcomes : rules.map (·.outcome left leftOptions) =
      rules.map (·.outcome right rightOptions) := List.map_congr_left same
  have results : rules.map (·.evaluated left leftOptions) =
      rules.map (·.evaluated right rightOptions) :=
    List.map_congr_left fun rule member => by rw [Rule.evaluated, same rule member]; rfl
  simp only [ofRules, outcomes, results]

/-- The result of a rule counts against the manifest when the rule fails. -/
theorem isFailure_evaluated_iff {rule : Rule Note} :
    (rule.evaluated document options).isFailure = true ↔
      rule.outcome document options = .failed := by
  simp only [Rule.evaluated, Result.ofRule, Result.isFailure, Option.any_some]
  cases rule.outcome document options <;> decide

/-- Where the rules that fail on one document fail on another, the failures on the one are
among those on the other, in the same order. -/
theorem failures_ofRules_sublist {left right : Json.Value} {leftOptions rightOptions : Options}
    {name : String} {rules : List (Rule Note)}
    (fails : ∀ rule ∈ rules, rule.outcome left leftOptions = .failed →
      rule.outcome right rightOptions = .failed) :
    (ofRules left leftOptions name rules).report.failures.Sublist
      (ofRules right rightOptions name rules).report.failures := by
  simp only [Report.failures, ofRules]
  induction rules with
  | nil => exact .refl []
  | cons rule rules inductionHypothesis =>
      obtain ⟨first, rest⟩ := List.forall_mem_cons.mp fails
      have among := inductionHypothesis rest
      rw [List.map_cons, List.map_cons]
      by_cases failed : rule.outcome left leftOptions = .failed
      · have same : rule.evaluated left leftOptions = rule.evaluated right rightOptions := by
          rw [Rule.evaluated, Rule.evaluated, failed, first failed]
        rw [same, List.filter_cons_of_pos ((isFailure_evaluated_iff _ _).mpr (first failed)),
          List.filter_cons_of_pos ((isFailure_evaluated_iff _ _).mpr (first failed))]
        exact among.cons_cons _
      · rw [List.filter_cons_of_neg (mt (isFailure_evaluated_iff _ _).mp failed)]
        apply among.trans
        apply List.Sublist.filter
        exact List.sublist_cons_self _ _

end Run

namespace RuleSet

/-- Asking one more rule of a new identifier puts it at the end of the list. -/
theorem runRule_ofRules {name : String} {asked : List (Rule Note)} {rule : Rule Note}
    (fresh : rule.id ∉ asked.map Rule.id) :
    runRule document options (Run.ofRules document options name asked) rule =
      .ok (Run.ofRules document options name (asked ++ [rule])) := by
  have notMentioned :
      (Run.ofRules document options name asked).report.mentions rule.id = false := by
    rw [← Bool.not_eq_true, Run.mentions_ofRules]
    exact fresh
  have recorded : (Run.ofRules document options name asked).report.record
      (Result.ofRule rule (some (Outcome.ofVerdict (rule.check document options).value))) =
        .ok (Run.ofRules document options name (asked ++ [rule])).report := by
    have notSkipped : (Run.ofRules document options name asked).report.skipped = false := rfl
    simp only [Report.record, notSkipped, Result.ofRule, notMentioned, Bool.false_eq_true, if_false]
    simp [Run.ofRules, Summary.tally_concat, Rule.evaluated, Rule.outcome, Result.ofRule]
  simp only [runRule, recorded, bind, Except.bind, pure, Except.pure]
  simp [Run.ofRules, Rule.events, Rule.outcome]

/-- Asking rules in order, all identifiers being distinct, puts them at the end of the
list in that order. -/
theorem foldlM_runRule {name : String} (asked rules : List (Rule Note))
    (distinct : ((asked ++ rules).map Rule.id).Nodup) :
    rules.foldlM (runRule document options) (Run.ofRules document options name asked) =
      .ok (Run.ofRules document options name (asked ++ rules)) := by
  induction rules generalizing asked with
  | nil => simp [pure, Except.pure]
  | cons rule rules inductionHypothesis =>
      have fresh : rule.id ∉ asked.map Rule.id := by
        intro repeated
        simp only [List.map_append, List.map_cons, List.nodup_append] at distinct
        exact distinct.2.2 _ repeated _ List.mem_cons_self rfl
      rw [List.foldlM_cons, runRule_ofRules document options fresh]
      have rest := inductionHypothesis (asked ++ [rule]) (by rwa [List.append_assoc])
      rw [List.append_assoc] at rest
      exact rest

/-- A document that is there is put to every rule in order, and every result is recorded. -/
theorem run_found (rules : RuleSet Note) (present : document.isNull = false) :
    rules.run document options true =
      .ok (Run.ofRules document options rules.name rules.rules) := by
  have distinct : (rules.rules.map Rule.id).Nodup :=
    ((firstRepeated?_eq_none_iff [] _).mp rules.distinct).1
  rw [run, present]
  exact foldlM_runRule document options [] rules.rules distinct

end RuleSet

end Run

end ManifestAudit
