import Wiring.Injection.Run
import Wiring.Proofs.Object.Reach
import Wiring.Proofs.Plan.Selection

/-!
# Runs over planned bindings

An injection tries its bindings one after the other on a changing object, which keeps
its type throughout.  What becomes of a binding is therefore what some object of that
type answers to it, and bindings that fail without a trace can be left out of a run.
-/

namespace Wiring

universe u

/-- The whole is merged from the two other lists, both of which keep their order. -/
inductive Interleaving {α : Type u} : List α → List α → List α → Prop where
  | nil : Interleaving [] [] []
  | left {item : α} {left right whole : List α} (rest : Interleaving left right whole) :
      Interleaving (item :: left) right (item :: whole)
  | right {item : α} {left right whole : List α} (rest : Interleaving left right whole) :
      Interleaving left (item :: right) (item :: whole)

/-- Nothing is added by a merge and nothing is lost. -/
theorem Interleaving.perm {α : Type u} {left right whole : List α}
    (merged : Interleaving left right whole) : (left ++ right).Perm whole := by
  induction merged with
  | nil => exact List.Perm.nil
  | left _ inductionHypothesis => exact inductionHypothesis.cons _
  | right _ inductionHypothesis => exact List.perm_middle.trans (inductionHypothesis.cons _)

namespace Supply

variable {lookup : BindingName → Option Value} {name : BindingName}

theorem ofLookup_of_unknown (unknown : lookup name = none) :
    ofLookup lookup name = .error (.missingResource name.text) := by
  simp [ofLookup, unknown]

theorem ofLookup_of_known {value : Value} (known : lookup name = some value) :
    ofLookup lookup name = .ok value := by
  simp [ofLookup, known]

theorem toOption_ofLookup (lookup : BindingName → Option Value) (name : BindingName) :
    (ofLookup lookup name).toOption = lookup name := by
  unfold ofLookup
  cases lookup name <;> rfl

end Supply

namespace Binding

variable {supply : Supply} {binding : Binding} {bindings : List Binding} {object : Instance}

theorem apply_of_withheld {error : BindError} (withheld : supply binding.name = .error error)
    (object : Instance) : binding.apply supply object = (.error error, object) := by
  simp [apply, withheld]

theorem apply_of_supplied {value : Value} (supplied : supply binding.name = .ok value)
    (object : Instance) :
    binding.apply supply object =
      object.bind binding.found.member binding.found.depth value := by
  simp [apply, Found.bind, supplied]

@[simp]
theorem lineage_apply (supply : Supply) (binding : Binding) (object : Instance) :
    (binding.apply supply object).2.lineage = object.lineage := by
  cases supplied : supply binding.name with
  | error error => rw [apply_of_withheld supplied]
  | ok value =>
      rw [apply_of_supplied supplied]
      exact object.lineage_bind binding.found.member binding.found.depth value

@[simp]
theorem lineage_applyAll (supply : Supply) (bindings : List Binding) (object : Instance) :
    (applyAll supply bindings object).2.lineage = object.lineage := by
  induction bindings generalizing object with
  | nil => rfl
  | cons binding rest inductionHypothesis =>
      rw [applyAll_cons, inductionHypothesis, lineage_apply]

/-- Every outcome is the answer of an object of the same type to a planned binding. -/
theorem exists_object_of_mem_applyAll {outcome : Outcome}
    (present : outcome ∈ (applyAll supply bindings object).1) :
    outcome.binding ∈ bindings ∧ ∃ current : Instance, current.lineage = object.lineage ∧
      (outcome.binding.apply supply current).1 = outcome.result := by
  induction bindings generalizing object with
  | nil => simp at present
  | cons binding rest inductionHypothesis =>
      rw [applyAll_cons] at present
      rcases List.mem_cons.mp present with rfl | later
      · exact ⟨List.mem_cons_self, object, rfl, rfl⟩
      · rcases inductionHypothesis later with ⟨planned, current, sameType, answered⟩
        rw [lineage_apply] at sameType
        exact ⟨List.mem_cons_of_mem binding planned, current, sameType, answered⟩

end Binding

/-- Every planned binding is tried. -/
theorem Binding.exists_outcome {binding : Binding} {bindings : List Binding}
    (planned : binding ∈ bindings) (supply : Supply) (object : Instance) :
    ∃ result, ⟨binding, result⟩ ∈ (applyAll supply bindings object).1 := by
  rw [← map_binding_applyAll supply bindings object] at planned
  obtain ⟨outcome, present, rfl⟩ := List.mem_map.mp planned
  exact ⟨outcome.result, present⟩

/-- A report keeps the order of the outcomes and loses none. -/
theorem Report.interleaving_ofOutcomes (target : String) (outcomes : List Outcome) :
    Interleaving (ofOutcomes target outcomes).bound
      ((ofOutcomes target outcomes).skipped.map (·.binding)) (outcomes.map (·.binding)) := by
  change Interleaving (outcomes.filterMap Outcome.bound?)
    ((outcomes.filterMap Outcome.skipped?).map (·.binding)) _
  induction outcomes with
  | nil => exact Interleaving.nil
  | cons outcome rest inductionHypothesis =>
      obtain ⟨binding, result⟩ := outcome
      cases result with
      | ok _ => exact inductionHypothesis.left
      | error error => exact inductionHypothesis.right

/-- A report mentions the successes among the outcomes. -/
theorem Report.mem_bound_iff {target : String} {outcomes : List Outcome} {binding : Binding} :
    binding ∈ (ofOutcomes target outcomes).bound ↔ ⟨binding, .ok ()⟩ ∈ outcomes := by
  change binding ∈ outcomes.filterMap Outcome.bound? ↔ _
  rw [List.mem_filterMap]
  constructor
  · rintro ⟨⟨other, result⟩, present, bound⟩
    cases result with
    | error error => simp [Outcome.bound?] at bound
    | ok _ =>
        simp only [Outcome.bound?, Option.some.injEq] at bound
        rw [← bound]
        exact present
  · intro present
    exact ⟨_, present, rfl⟩

/-- A report mentions the failures among the outcomes. -/
theorem Report.mem_skipped_iff {target : String} {outcomes : List Outcome} {skipped : Skipped} :
    skipped ∈ (ofOutcomes target outcomes).skipped ↔
      ⟨skipped.binding, .error skipped.error⟩ ∈ outcomes := by
  change skipped ∈ outcomes.filterMap Outcome.skipped? ↔ _
  rw [List.mem_filterMap]
  constructor
  · rintro ⟨⟨binding, result⟩, present, failed⟩
    cases result with
    | ok _ => simp [Outcome.skipped?] at failed
    | error error =>
        simp only [Outcome.skipped?, Option.some.injEq] at failed
        rw [← failed]
        exact present
  · intro present
    exact ⟨_, present, rfl⟩

namespace Injector

variable {injector : Injector} {opening : LogEntry} {filter? : Option TypeFilter}
  {supply : Supply} {object : Instance} {bindings : List Binding} {report : Report}

theorem result_run_of_planned
    (planned : (injector.plan object.lineage filter?).result = .ok bindings) :
    (injector.run opening filter? supply object).pass.result =
      .ok (Report.ofOutcomes object.lineage.name (Binding.applyAll supply bindings object).1) := by
  simp only [run, planned]

theorem object_run_of_planned
    (planned : (injector.plan object.lineage filter?).result = .ok bindings) :
    (injector.run opening filter? supply object).object =
      (Binding.applyAll supply bindings object).2 := by
  simp only [run, planned]

/-- A failed plan is the answer, and the object is not touched. -/
theorem run_of_failed {error : DiscoveryError}
    (failed : (injector.plan object.lineage filter?).result = .error error) :
    (injector.run opening filter? supply object).pass.result = .error error ∧
      (injector.run opening filter? supply object).object = object := by
  simp [run, failed]

/-- An injection leaves an object of the same type. -/
theorem lineage_run :
    (injector.run opening filter? supply object).object.lineage = object.lineage := by
  cases planned : (injector.plan object.lineage filter?).result with
  | error error => rw [(run_of_failed planned).2]
  | ok bindings => rw [object_run_of_planned planned, Binding.lineage_applyAll]

/-- A report is that of the planned bindings. -/
theorem result_run_eq_ok_iff :
    (injector.run opening filter? supply object).pass.result = .ok report ↔
      ∃ bindings, (injector.plan object.lineage filter?).result = .ok bindings ∧
        report =
          Report.ofOutcomes object.lineage.name (Binding.applyAll supply bindings object).1 := by
  cases planned : (injector.plan object.lineage filter?).result with
  | error error => simp [(run_of_failed planned).1]
  | ok bindings =>
      rw [result_run_of_planned planned]
      simp [eq_comm]

theorem result_run_eq_error_iff {error : DiscoveryError} :
    (injector.run opening filter? supply object).pass.result = .error error ↔
      (injector.plan object.lineage filter?).result = .error error := by
  cases planned : (injector.plan object.lineage filter?).result with
  | error other => simp [(run_of_failed planned).1]
  | ok bindings => simp [result_run_of_planned planned]

/-- What a report skips was planned, and failed on some object of the type. -/
theorem planned_of_skipped {skipped : Skipped}
    (reported : (injector.run opening filter? supply object).pass.result = .ok report)
    (present : skipped ∈ report.skipped) :
    (∃ bindings, (injector.plan object.lineage filter?).result = .ok bindings ∧
      skipped.binding ∈ bindings) ∧
      ∃ current : Instance, current.lineage = object.lineage ∧
        (skipped.binding.apply supply current).1 = .error skipped.error := by
  obtain ⟨bindings, planned, rfl⟩ := result_run_eq_ok_iff.mp reported
  have outcome := Report.mem_skipped_iff.mp present
  obtain ⟨listed, current, sameType, answered⟩ := Binding.exists_object_of_mem_applyAll outcome
  exact ⟨⟨bindings, planned, listed⟩, current, sameType, answered⟩

/-- What a plan lists was found along the chain and taken. -/
theorem found_of_planned {lineage : Lineage} {binding : Binding}
    (planned : (injector.plan lineage filter?).result = .ok bindings)
    (present : binding ∈ bindings) :
    (∃ scope, binding.found ∈ lineage.found scope) ∧
      injector.takes filter? binding.found.member = true ∧
        binding.found.member.violation? = none := by
  rcases result_plan_eq_ok_iff.mp planned with ⟨unbroken, -, named, -⟩
  have listed := Binding.map_found_of_resolveAll named
  have taken : binding.found ∈ injector.takenAll filter? lineage := by
    rw [← listed]
    exact List.mem_map_of_mem present
  have sound := unbroken binding.found taken
  rcases List.mem_append.mp taken with field | setter
  · exact ⟨⟨.fields, (mem_taken_iff.mp field).1⟩, (mem_taken_iff.mp field).2, sound⟩
  · exact ⟨⟨.setters, (mem_taken_iff.mp setter).1⟩, (mem_taken_iff.mp setter).2, sound⟩

/-- All that a plan lists was found along the chain. -/
theorem declared_of_planned {lineage : Lineage}
    (planned : (injector.plan lineage filter?).result = .ok bindings) :
    ∀ binding ∈ bindings, ∃ scope, binding.found ∈ lineage.found scope :=
  fun _ present => (found_of_planned planned present).1

end Injector

end Wiring
