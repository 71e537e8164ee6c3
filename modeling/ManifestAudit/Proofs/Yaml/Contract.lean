import ManifestAudit.Yaml.Fault

/-!
# What a reading step may come to

Reading a text passes through several stages, each of which may refuse it. What is proved
of a stage has one shape: if it gives an answer, the answer is good, and if it refuses, the
fault is one of those that are excused. `Yields` says this of a result, and `Keeps` of a
step with a state, which besides keeps an invariant of the state. The lemmas below put
contracts of steps together to contracts of what is made of them.
-/

namespace ManifestAudit.Yaml

variable {α β σ : Type} {excused : Fault → Prop}

/-- Nothing is asked of an answer. -/
abbrev Any : α → Prop :=
  fun _ => True

/-- A result is a good answer or an excused fault. -/
def Yields (excused : Fault → Prop) (good : α → Prop) : Except Fault α → Prop
  | .ok answer => good answer
  | .error fault => excused fault

namespace Yields

variable {good : α → Prop} {result : Except Fault α}

/-- A step whose argument is a good answer keeps the contract. -/
theorem bind {after : β → Prop} {next : α → Except Fault β} (first : Yields excused good result)
    (rest : ∀ answer, good answer → Yields excused after (next answer)) :
    Yields excused after (result >>= next) := by
  cases result with
  | error fault => exact first
  | ok answer => exact rest answer first

/-- What is good in one sense may be good in another. -/
theorem mono {weaker : α → Prop} (yields : Yields excused good result)
    (implied : ∀ answer, good answer → weaker answer) : Yields excused weaker result := by
  cases result with
  | error fault => exact yields
  | ok answer => exact implied answer yields

/-- Every answer is good. -/
theorem of_ok {answer : α} (yields : Yields excused good result) (done : result = .ok answer) :
    good answer := by
  subst done
  exact yields

/-- Every fault is excused. -/
theorem of_error {fault : Fault} (yields : Yields excused good result)
    (failed : result = .error fault) : excused fault := by
  subst failed
  exact yields

/-- Where every answer will do, only the faults have to be excused. -/
theorem of_faults (excuse : ∀ fault, result = .error fault → excused fault) :
    Yields excused Any result := by
  cases result with
  | error fault => exact excuse fault rfl
  | ok answer => trivial

end Yields

/-- A step whose answers are good and whose faults are excused, and which keeps an
invariant of the state. -/
def Keeps (excused : Fault → Prop) (invariant : σ → Prop) (good : α → Prop)
    (step : StateT σ (Except Fault) α) : Prop :=
  ∀ state, invariant state →
    Yields excused (fun answer => good answer.1 ∧ invariant answer.2) (step.run state)

namespace Keeps

variable {invariant : σ → Prop} {good : α → Prop} {step : StateT σ (Except Fault) α}

theorem pure {answer : α} (holds : good answer) :
    Keeps excused invariant good (Pure.pure answer) :=
  fun _ kept => ⟨holds, kept⟩

theorem throw {fault : Fault} (excuse : excused fault) :
    Keeps excused invariant good (throw fault) :=
  fun _ _ => excuse

theorem get : Keeps excused invariant invariant get :=
  fun _ kept => ⟨kept, kept⟩

theorem modify {change : σ → σ} (keeps : ∀ state, invariant state → invariant (change state)) :
    Keeps excused invariant Any (modify change) :=
  fun state kept => ⟨trivial, keeps state kept⟩

theorem lift {result : Except Fault α} (yields : Yields excused good result) :
    Keeps excused invariant good (liftM result) := by
  intro state kept
  cases result with
  | error fault => exact yields
  | ok answer => exact ⟨yields, kept⟩

theorem bind {after : β → Prop} {next : α → StateT σ (Except Fault) β}
    (first : Keeps excused invariant good step)
    (rest : ∀ answer, good answer → Keeps excused invariant after (next answer)) :
    Keeps excused invariant after (step >>= next) := by
  intro state kept
  rw [StateT.run_bind]
  exact (first state kept).bind fun answer holds => rest answer.1 holds.1 answer.2 holds.2

theorem mono {weaker : α → Prop} (keeps : Keeps excused invariant good step)
    (implied : ∀ answer, good answer → weaker answer) : Keeps excused invariant weaker step :=
  fun state kept => (keeps state kept).mono fun _ holds => ⟨implied _ holds.1, holds.2⟩

variable {items : List β}

theorem mapM {step : β → StateT σ (Except Fault) α}
    (each : ∀ item ∈ items, Keeps excused invariant good (step item)) :
    Keeps excused invariant (fun answers => ∀ answer ∈ answers, good answer)
      (items.mapM step) := by
  induction items with
  | nil => exact .pure (by simp)
  | cons item items inductionHypothesis =>
      rw [List.mapM_cons]
      refine .bind (each item List.mem_cons_self) fun answer holds => ?_
      refine .bind (inductionHypothesis fun other member =>
        each other (List.mem_cons_of_mem _ member)) fun answers all => ?_
      exact .pure (List.forall_mem_cons.mpr ⟨holds, all⟩)

theorem forM {step : β → StateT σ (Except Fault) PUnit}
    (each : ∀ item ∈ items, Keeps excused invariant Any (step item)) :
    Keeps excused invariant Any (items.forM step) := by
  induction items with
  | nil => exact .pure trivial
  | cons item items inductionHypothesis =>
      change Keeps excused invariant _ (step item >>= fun _ => items.forM step)
      exact .bind (each item List.mem_cons_self) fun _ _ =>
        inductionHypothesis fun other member => each other (List.mem_cons_of_mem _ member)

theorem foldlM {start : α} {step : α → β → StateT σ (Except Fault) α} (holds : good start)
    (each : ∀ answer item, good answer → Keeps excused invariant good (step answer item)) :
    Keeps excused invariant good (items.foldlM step start) := by
  induction items generalizing start with
  | nil => exact .pure holds
  | cons item items inductionHypothesis =>
      rw [List.foldlM_cons]
      exact .bind (each start item holds) fun answer holds => inductionHypothesis holds

theorem forIn {start : α} {step : β → α → StateT σ (Except Fault) (ForInStep α)}
    (holds : good start)
    (each : ∀ item answer, good answer →
      Keeps excused invariant (fun stepped => good stepped.value) (step item answer)) :
    Keeps excused invariant good (forIn items start step) := by
  induction items generalizing start with
  | nil => exact .pure holds
  | cons item items inductionHypothesis =>
      rw [List.forIn_cons]
      refine .bind (each item start holds) fun stepped holds => ?_
      cases stepped with
      | done answer => exact .pure holds
      | yield answer => exact inductionHypothesis holds

end Keeps

end ManifestAudit.Yaml
