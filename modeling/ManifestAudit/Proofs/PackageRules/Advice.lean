import ManifestAudit.Proofs.Association
import ManifestAudit.Proofs.PackageRules.Footprint
import ManifestAudit.Proofs.PackageRules.Offence

/-!
# Following an advice

Five rules ask something of the version of a development dependency, and their advice names a
range to set it to. The advice is a text, the question a computation, and nothing but care
keeps the two together. `outcome_withDependency_advised` says that they are together: whoever
fails one of these rules and sets the dependency to the range in its advice passes it then,
and the outcomes of all other rules stay as they were.
-/

namespace ManifestAudit.PackageRules

open Lookup (isDeclared)
open Requirement (Note)

/-! ## The ranges in an advice -/

/-- Every second of several pieces. -/
def everySecond : List (List Char) → List (List Char)
  | _ :: second :: pieces => second :: everySecond pieces
  | _ => []

/-- The texts that an advice puts between quotation marks. -/
def quotations (advice : String) : List String :=
  (everySecond (Text.split '"' advice.toList)).map String.ofList

/-- The quoted texts that are ranges. -/
def advisedRanges (advice : String) : List String :=
  (quotations advice).filter fun text => (Range.parse text).isOk

/-- The version rules: the rule, the dependency it is about, and the range it advises. -/
def versionAdvice : List (String × String × String) :=
  [("karma-phantomjs-launcher-1", "karma-phantomjs-launcher", "^1.0.0"),
    ("eslint-config-gfp-3", "eslint-config-gfp", "^3.0.0"), ("karma-1.7", "karma", "^1.7.0"),
    ("karma-coverage-1.1", "karma-coverage", "^1.1.0"),
    ("karma-jasmine-1.1", "karma-jasmine", "^1.1.0")]

/-! ## Setting a development dependency -/

/-- The document with a development dependency set to a value, where it has an object of
development dependencies. -/
def withDependency (document : Json.Value) (name : Text) (value : Json.Value) : Json.Value :=
  match document with
  | .object members =>
    match Json.Members.get? members "devDependencies" with
    | some (.object dependencies) =>
      .object (Json.Members.insert members "devDependencies"
        (.object (Json.Members.insert dependencies name value)))
    | _ => document
  | _ => document

section Setting

variable {document value held : Json.Value} {dependencies : Json.Members} {name : String}

/-- The development dependencies are found as a whole. -/
theorem dig_devDependencies (holds : DevDependencies document dependencies) :
    Lookup.dig document ["devDependencies"] = .object dependencies := by
  obtain ⟨members, rfl, held⟩ := holds
  exact (Lookup.dig_eq_iff_follows_of_isDeclared rfl).mpr (.member held .here)

/-- Each of them is looked up there. -/
theorem devDependency_eq_dig (holds : DevDependencies document dependencies) (name : String) :
    devDependency document name = Lookup.dig (.object dependencies) [(name : Text)] := by
  obtain ⟨members, rfl, held⟩ := holds
  apply Lookup.dig_cons_of_object
  rw [Lookup.member, held]
  rfl

/-- One of them is set and nothing else. -/
theorem devDependencies_withDependency (holds : DevDependencies document dependencies)
    (name : Text) (value : Json.Value) :
    DevDependencies (withDependency document name value)
      (Json.Members.insert dependencies name value) := by
  obtain ⟨members, rfl, held⟩ := holds
  rw [withDependency, held]
  exact ⟨_, rfl, Association.get?_put_self _ _⟩

/-- The other members of the document stay. -/
theorem member_withDependency {other : Text} (different : other ≠ "devDependencies")
    (name : Text) :
    Lookup.member (withDependency document name value) other = Lookup.member document other := by
  unfold withDependency
  split
  · split
    · simp only [Lookup.member, Json.Members.get?, Json.Members.insert,
        Association.get?_put_of_ne different]
    · rfl
  · rfl

/-- So do the other dependencies. -/
theorem devDependency_withDependency_of_ne (holds : DevDependencies document dependencies)
    {other : String} (different : other ≠ name) :
    devDependency (withDependency document name value) other = devDependency document other := by
  have differs : Text.ofString other ≠ Text.ofString name := by
    intro same
    have chars := List.map_injective_iff.mpr (fun _ _ => Text.Symbol.char.inj) same
    exact different (String.toList_inj.mp chars)
  rw [devDependency_eq_dig holds,
    devDependency_eq_dig (devDependencies_withDependency holds name value)]
  apply Lookup.dig_cons_congr
  simp only [Lookup.member, Json.Members.get?, Json.Members.insert,
    Association.get?_put_of_ne differs]

/-- What was set is looked up. -/
theorem devDependency_withDependency_self (holds : DevDependencies document dependencies)
    (declared : isDeclared value = true) :
    devDependency (withDependency document name value) name = value :=
  (devDependency_eq_iff (Lookup.isNull_eq_false_of_isDeclared declared)).mpr
    ⟨_, devDependencies_withDependency holds name value,
      Association.get?_put_self _ _, declared⟩

/-- A declared dependency that is set to a value that counts as present, too, leaves a
document that agrees with the old one but for this dependency. -/
theorem agreeBut_withDependency (holds : DevDependencies document dependencies)
    (declares : Declares dependencies name held) (declared : isDeclared value = true) :
    AgreeBut [name] (withDependency document name value) document where
  presence := by
    rw [dig_devDependencies holds,
      dig_devDependencies (devDependencies_withDependency holds name value)]
    rfl
  presences := by
    intro other _
    by_cases same : other = name
    · subst same
      have before : (devDependency document other).isNull = false :=
        devDependency_isNull_eq_false_iff.mpr ⟨dependencies, holds, held, declares⟩
      rw [devDependency_withDependency_self holds declared, before]
      exact Lookup.isNull_eq_false_of_isDeclared declared
    · rw [devDependency_withDependency_of_ne holds same]
  dependencies := by
    intro other _ notExcepted
    rw [devDependency_withDependency_of_ne holds (mt List.mem_singleton.mpr notExcepted)]
    exact ⟨rfl, rfl⟩
  scripts := by
    intro other _
    have same : script (withDependency document name value) other = script document other :=
      Lookup.dig_cons_congr (member_withDependency (by decide) name) _
    rw [same]
    exact ⟨rfl, rfl⟩

end Setting

/-! ## The version rules -/

/-- The rule puts a question to a development dependency, if that is declared. -/
def Asks (rule : Rule Note) (name : String) (question : Json.Value → Noted Note Bool) : Prop :=
  ∀ document options, rule.check document options =
    if (devDependency document name).isNull then answer .notApplicable
    else (question (devDependency document name)).map verdict

section Asks

variable {rule : Rule Note} {name : String} {question : Json.Value → Noted Note Bool}
  {document value : Json.Value} {options : Options}

/-- Such a rule fails only a declared dependency. -/
theorem Asks.declares_of_failed (asks : Asks rule name question)
    (failed : rule.outcome document options = .failed) :
    ∃ dependencies, DevDependencies document dependencies ∧
      ∃ value, Declares dependencies name value := by
  rw [Rule.outcome, asks] at failed
  exact devDependency_isNull_eq_false_iff.mp (fails_unless_absent_iff.mp failed).1

/-- It passes one that answers its question with yes. -/
theorem Asks.outcome_eq_passed (asks : Asks rule name question)
    (found : devDependency document name = value) (present : value.isNull = false)
    (satisfied : (question value).value = true) : rule.outcome document options = .passed := by
  rw [Rule.outcome, asks, found, present]
  simp [Noted.map, satisfied, verdict, Outcome.ofVerdict]

end Asks

/-- Each version rule is there, its advice names one range, and that range is the answer to
its question. -/
theorem exists_rule_of_versionAdvice {id name range : String}
    (listed : (id, name, range) ∈ versionAdvice) :
    ∃ rule ∈ rules, rule.id = id ∧ advisedRanges rule.advice = [range] ∧
      isDeclared (.string range) = true ∧
      ∃ question, Asks rule name question ∧ (question (.string range)).value = true := by
  simp only [versionAdvice, List.mem_cons, Prod.mk.injEq, List.not_mem_nil, or_false] at listed
  rcases listed with ⟨rfl, rfl, rfl⟩ | ⟨rfl, rfl, rfl⟩ | ⟨rfl, rfl, rfl⟩ | ⟨rfl, rfl, rfl⟩ |
    ⟨rfl, rfl, rfl⟩
  · exact ⟨rules[6], List.getElem_mem _, rfl, by decide +kernel, rfl,
      (Requirement.admits · (.release 1 0 0)), fun _ _ => rfl, by decide +kernel⟩
  · exact ⟨rules[9], List.getElem_mem _, rfl, by decide +kernel, rfl,
      (Requirement.isAbove · (.release 2 9 9)), fun _ _ => rfl, by decide +kernel⟩
  · exact ⟨rules[11], List.getElem_mem _, rfl, by decide +kernel, rfl,
      (Requirement.isAbove · (.release 1 6 9)), fun _ _ => rfl, by decide +kernel⟩
  · exact ⟨rules[12], List.getElem_mem _, rfl, by decide +kernel, rfl,
      (Requirement.isAbove · (.release 1 0 9)), fun _ _ => rfl, by decide +kernel⟩
  · exact ⟨rules[13], List.getElem_mem _, rfl, by decide +kernel, rfl,
      (Requirement.isAbove · (.release 1 0 9)), fun _ _ => rfl, by decide +kernel⟩

/-- No other rule judges the text of a dependency that a version rule is about. -/
theorem eq_of_judged {id name range other : String} (listed : (id, name, range) ∈ versionAdvice)
    (judges : (other, name) ∈ judged) : other = id := by
  have only : ∀ advice ∈ versionAdvice, ∀ entry ∈ judged, entry.2 = advice.2.1 →
      entry.1 = advice.1 := by
    decide
  exact only _ listed _ judges rfl

/-- A version rule that fails is mended by its advice, and by that alone: the advice names one
range, the dependency is declared, and with that entry set to the range the rule passes and
every other rule has the outcome that it had. -/
theorem outcome_withDependency_advised {id name range : String}
    (listed : (id, name, range) ∈ versionAdvice) :
    ∃ rule ∈ rules, rule.id = id ∧ advisedRanges rule.advice = [range] ∧
      ∀ (document : Json.Value) (options : Options), rule.outcome document options = .failed →
        (∃ dependencies value, DevDependencies document dependencies ∧
          Declares dependencies name value ∧
          DevDependencies (withDependency document name (.string range))
            (Json.Members.insert dependencies name (.string range))) ∧
        rule.outcome (withDependency document name (.string range)) options = .passed ∧
        ∀ other ∈ rules, other.id ≠ id →
          other.outcome (withDependency document name (.string range)) options =
            other.outcome document options := by
  obtain ⟨rule, member, sameId, advised, declared, question, asks, satisfied⟩ :=
    exists_rule_of_versionAdvice listed
  refine ⟨rule, member, sameId, advised, fun document options failed => ?_⟩
  obtain ⟨dependencies, holds, value, declares⟩ := asks.declares_of_failed failed
  refine ⟨⟨dependencies, value, holds, declares, devDependencies_withDependency holds _ _⟩, ?_, ?_⟩
  · exact asks.outcome_eq_passed (devDependency_withDependency_self holds declared)
      (Lookup.isNull_eq_false_of_isDeclared declared) satisfied
  · intro other otherMember different
    have agree := agreeBut_withDependency holds declares declared
    apply agree.outcome_eq options options other otherMember
    intro excepted exceptedMember judges
    rw [List.mem_singleton.mp exceptedMember] at judges
    exact different (eq_of_judged listed judges)

/-- A document in which two dependencies fall behind; one of them is no text, and two rules
look at it. -/
def laggingDocument : Json.Value :=
  .object [("name", .string "widget"),
    ("devDependencies", .object [("karma", .string "^1.6.0"), ("eslint-config-gfp", .integer 2)])]

/-- The advice mends the one, while the other still falls behind. -/
theorem outcome_withDependency_advised_laggingDocument :
    ("eslint-config-gfp-3", "eslint-config-gfp", "^3.0.0") ∈ versionAdvice ∧
      ∃ rule ∈ rules, rule.id = "eslint-config-gfp-3" ∧
        rule.outcome laggingDocument Options.default = .failed ∧
        rule.outcome (withDependency laggingDocument "eslint-config-gfp" (.string "^3.0.0"))
          Options.default = .passed ∧
        ∀ other ∈ rules, other.id = "karma-1.7" →
          other.outcome (withDependency laggingDocument "eslint-config-gfp" (.string "^3.0.0"))
            Options.default = .failed := by
  have listed : ("eslint-config-gfp-3", "eslint-config-gfp", "^3.0.0") ∈ versionAdvice := by decide
  have behind : ∀ rule ∈ rules, rule.id = "eslint-config-gfp-3" ∨ rule.id = "karma-1.7" →
      rule.outcome laggingDocument Options.default = .failed := by
    decide +kernel
  obtain ⟨rule, member, sameId, _, mends⟩ := outcome_withDependency_advised listed
  have failed := behind rule member (.inl sameId)
  obtain ⟨_, passed, unchanged⟩ := mends laggingDocument Options.default failed
  refine ⟨listed, rule, member, sameId, failed, passed, fun other otherMember otherId => ?_⟩
  rw [unchanged other otherMember (by rw [otherId]; decide)]
  exact behind other otherMember (.inr otherId)

end ManifestAudit.PackageRules
