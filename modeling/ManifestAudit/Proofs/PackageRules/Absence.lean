import ManifestAudit.Proofs.Association
import ManifestAudit.Proofs.PackageRules.Offence

/-!
# Absence never fails

The rules that can fail object to an entry of the development dependencies, and to the entry
by itself: what else is declared makes no difference to the objection. So nothing is objected
to in a document that was not objected to before entries of it were deleted.
`failed_of_failed_pruned` says so for every deletion from the two sections that the rules look
into, the sections themselves included.
-/

namespace ManifestAudit.PackageRules

open Requirement (Note)

/-! ## Deletions -/

/-- What is deleted of a section: all of it, or its entries under some names. -/
inductive Deletion where
  | whole
  | entries (dropped : Text → Bool)

/-- An object without its members under some names; no other value has any to lose. -/
def withoutEntries (dropped : Text → Bool) : Json.Value → Json.Value
  | .object members => .object (members.filter fun entry => !dropped entry.1)
  | value => value

namespace Deletion

/-- What is left of a section, if anything. -/
def left? : Deletion → Json.Value → Option Json.Value
  | whole, _ => none
  | entries dropped, value => some (withoutEntries dropped value)

/-- The members of a document after a deletion from the section of the given name. -/
def apply (deletion : Deletion) (name : Text) (members : Json.Members) : Json.Members :=
  match deletion with
  | whole => members.filter fun entry => entry.1 != name
  | entries dropped => members.map fun entry =>
      (entry.1, if entry.1 == name then withoutEntries dropped entry.2 else entry.2)

variable {members kept : Json.Members} {name : Text}

/-- A deletion leaves the other sections as they are. -/
theorem get?_apply_of_ne {other : Text} (different : other ≠ name) (deletion : Deletion) :
    Json.Members.get? (deletion.apply name members) other = Json.Members.get? members other := by
  cases deletion with
  | whole =>
      exact (Association.get?_filter (· != name) other).trans (if_pos (by simpa using different))
  | entries dropped =>
      refine (Association.get?_map name (withoutEntries dropped) other).trans ?_
      simp [different, Json.Members.get?]

/-- What a document holds of the section itself is what is left of it. -/
theorem get?_apply_self (deletion : Deletion) :
    Json.Members.get? (deletion.apply name members) name =
      (Json.Members.get? members name).bind deletion.left? := by
  cases deletion with
  | whole =>
      refine (Association.get?_filter (· != name) name).trans ?_
      cases Json.Members.get? members name <;> simp [left?]
  | entries dropped =>
      refine (Association.get?_map name (withoutEntries dropped) name).trans ?_
      rw [← Json.Members.get?]
      cases Json.Members.get? members name <;> simp [left?]

/-- If that is an object, it was one before, and had all the entries that are left. -/
theorem exists_get?_of_left? {deletion : Deletion} {value : Json.Value}
    (left : deletion.left? value = some (.object kept)) :
    ∃ entries, value = .object entries ∧ ∀ key held, Json.Members.get? kept key = some held →
      Json.Members.get? entries key = some held := by
  cases deletion with
  | whole => cases left
  | entries dropped =>
      cases value with
      | object entries =>
          obtain rfl := Json.Value.object.inj (Option.some.inj left)
          refine ⟨entries, rfl, fun key held found => ?_⟩
          have filtered : Json.Members.get? (entries.filter fun entry => !dropped entry.1) key =
              if !dropped key then Json.Members.get? entries key else none :=
            Association.get?_filter (!dropped ·) key
          rw [filtered] at found
          split at found
          case isTrue => exact found
          case isFalse => cases found
      | _ => cases left

end Deletion

/-- A document after deletions from its development dependencies and from its scripts. -/
def pruned (members : Json.Members) (dependencies scripts : Deletion) : Json.Value :=
  .object (scripts.apply "scripts" (dependencies.apply "devDependencies" members))

/-! ## Objections to what is left -/

/-- Each development dependency that the one document holds is held by the other, too. -/
def Within (pruned document : Json.Value) : Prop :=
  ∀ kept, DevDependencies pruned kept → ∃ dependencies, DevDependencies document dependencies ∧
    ∀ key value, Json.Members.get? kept key = some value →
      Json.Members.get? dependencies key = some value

/-- So it is after deletions. -/
theorem within_pruned (members : Json.Members) (dependencies scripts : Deletion) :
    Within (pruned members dependencies scripts) (.object members) := by
  rintro kept ⟨_, whole, held⟩
  cases whole
  rw [Deletion.get?_apply_of_ne (by decide), Deletion.get?_apply_self] at held
  obtain ⟨value, before, left⟩ := Option.bind_eq_some_iff.mp held
  obtain ⟨entries, rfl, among⟩ := Deletion.exists_get?_of_left? left
  exact ⟨entries, ⟨members, rfl, before⟩, among⟩

namespace Within

variable {pruned document : Json.Value} {name : String}

/-- A declared dependency with a property was one before. -/
theorem declares (within : Within pruned document) (property : Json.Value → Prop) :
    (∃ dependencies, DevDependencies pruned dependencies ∧
        ∃ value, Declares dependencies name value ∧ property value) →
      ∃ dependencies, DevDependencies document dependencies ∧
        ∃ value, Declares dependencies name value ∧ property value := by
  rintro ⟨kept, holds, value, ⟨found, declared⟩, satisfied⟩
  obtain ⟨dependencies, held, among⟩ := within kept holds
  exact ⟨dependencies, held, value, ⟨among _ _ found, declared⟩, satisfied⟩

/-- A text with a property was one before. -/
theorem text (within : Within pruned document) (property : Text → Prop) :
    (∃ dependencies, DevDependencies pruned dependencies ∧
        ∃ text, Json.Members.get? dependencies name = some (.string text) ∧ property text) →
      ∃ dependencies, DevDependencies document dependencies ∧
        ∃ text, Json.Members.get? dependencies name = some (.string text) ∧ property text := by
  rintro ⟨kept, holds, text, found, satisfied⟩
  obtain ⟨dependencies, held, among⟩ := within kept holds
  exact ⟨dependencies, held, text, among _ _ found, satisfied⟩

/-- A floor that is reached was reached before. -/
theorem fails_floorCheck (within : Within pruned document) {text : String} {floor : Version}
    (reads : Version.parse? text = some floor) (fails : Fails (floorCheck pruned name floor)) :
    Fails (floorCheck document name floor) := by
  rw [fails_floorCheck_iff reads] at fails ⊢
  exact within.declares _ fails

/-- A rule that fails did so before: nine rules object to a dependency that was there, and the
other five never fail. -/
theorem failed (within : Within pruned document) (options : Options) :
    ∀ rule ∈ rules, rule.outcome pruned options = .failed →
      rule.outcome document options = .failed := by
  have privateConfig (fails : Fails (publicEslintConfig pruned)) :
      Fails (publicEslintConfig document) := by
    rw [fails_publicEslintConfig_iff] at fails ⊢
    simpa using within.declares (fun _ => True) (by simpa using fails)
  have built (fails : Fails (prebuiltPhantom pruned)) : Fails (prebuiltPhantom document) := by
    rw [fails_prebuiltPhantom_iff] at fails ⊢
    simpa using within.declares (fun _ => True) (by simpa using fails)
  have angular (fails : Fails (publicAngularModule pruned)) :
      Fails (publicAngularModule document) := by
    rw [fails_publicAngularModule_iff] at fails ⊢
    exact within.text _ fails
  have polyfill (fails : Fails (publicPolyfill pruned)) : Fails (publicPolyfill document) := by
    rw [fails_publicPolyfill_iff] at fails ⊢
    exact within.text _ fails
  have launcher (fails : Fails (phantomLauncher pruned)) : Fails (phantomLauncher document) := by
    rw [fails_phantomLauncher_iff] at fails ⊢
    exact within.declares _ fails
  have karma : Version.parse? "1.6.9" = some (.release 1 6 9) := by decide +kernel
  have eslint : Version.parse? "2.9.9" = some (.release 2 9 9) := by decide +kernel
  have plugin : Version.parse? "1.0.9" = some (.release 1 0 9) := by decide +kernel
  simp only [rules, List.forall_mem_cons, List.not_mem_nil, false_implies, implies_true, and_true]
  exact ⟨privateConfig, (absurd · (not_fails_passIfDeclared _)), angular,
    (absurd · (not_fails_passIfDeclared _)), (absurd · (not_fails_passIfDeclared _)), built,
    launcher, (absurd · not_fails_prepushHooks), polyfill, within.fails_floorCheck eslint,
    (absurd · not_fails_runsAfterInstall), within.fails_floorCheck karma,
    within.fails_floorCheck plugin, within.fails_floorCheck plugin⟩

end Within

/-- Whatever is deleted from the development dependencies and the scripts of a document, the
sections themselves included, a rule that fails afterwards failed before. The failures of the
run on what is left are among those of the run on the whole, in the same order. -/
theorem failed_of_failed_pruned (members : Json.Members) (dependencies scripts : Deletion)
    (options : Options) :
    (∀ rule ∈ rules, rule.outcome (pruned members dependencies scripts) options = .failed →
      rule.outcome (.object members) options = .failed) ∧
    ∃ run prunedRun, ruleSet.run (.object members) options true = .ok run ∧
      ruleSet.run (pruned members dependencies scripts) options true = .ok prunedRun ∧
      prunedRun.report.failures.Sublist run.report.failures := by
  have fails := (within_pruned members dependencies scripts).failed options
  exact ⟨fails, _, _, RuleSet.run_found _ options ruleSet rfl,
    RuleSet.run_found _ options ruleSet rfl, Run.failures_ofRules_sublist fails⟩

/-- Without the PhantomJS it objects to, a rule finds the prebuilt one, and without the whole
section it does not apply. -/
example :
    let members : Json.Members := [("devDependencies",
      .object [("phantomjs", .string "^1.9.0"), ("phantomjs-prebuilt", .string "^2.1.0")])]
    let nothing := Deletion.entries fun _ => false
    let outcome (document : Json.Value) := Outcome.ofVerdict (prebuiltPhantom document).value
    outcome (.object members) = .failed ∧
      outcome (pruned members (.entries (· == "phantomjs")) nothing) = .passed ∧
      outcome (pruned members .whole nothing) = .notApplicable := by
  decide +kernel

end ManifestAudit.PackageRules
