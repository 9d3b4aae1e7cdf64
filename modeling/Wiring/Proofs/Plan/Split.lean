import Wiring.Proofs.Plan.Selection
import Wiring.Proofs.Sample

/-!
# Plans for one type and for all others

Every member is either of a given type or of another one, so that the plans under the two
filters of a type share out the whole plan between them.  What can go wrong with a single
member goes wrong in one of the two as well.  Only the comparison of names looks at several
members at once, and it alone can turn down what both filters let pass.
-/

namespace Wiring

namespace Binding

variable {resolve : Found → Except DiscoveryError BindingName} {members : List Found}
  {bindings : List Binding}

/-- Members that are left out take their own bindings with them. -/
theorem resolveAll_filter (named : resolveAll resolve members = .ok bindings)
    (keep : Found → Bool) :
    resolveAll resolve (members.filter keep) =
      .ok (bindings.filter fun binding => keep binding.found) := by
  obtain ⟨rfl, resolved⟩ := resolveAll_eq_ok_iff.mp named
  refine resolveAll_eq_ok_iff.mpr ⟨?_, ?_⟩
  · rw [List.filter_map]
    rfl
  · intro binding present
    exact resolved binding (List.mem_of_mem_filter present)

/-- Names are distinct when they are distinct on both sides and none is on both. -/
theorem distinct_iff_of_filter (keep : Binding → Bool) (bindings : List Binding) :
    Distinct bindings ↔
      Distinct (bindings.filter keep) ∧ Distinct (bindings.filter fun binding => !keep binding) ∧
        ∀ left ∈ bindings.filter keep, ∀ right ∈ bindings.filter fun binding => !keep binding,
          left.name ≠ right.name := by
  have rearranged := (List.filter_append_perm keep bindings).map (·.name)
  unfold Distinct
  rw [← rearranged.nodup_iff, List.map_append, List.nodup_append]
  simp only [List.forall_mem_map]

end Binding

namespace Injector

variable {injector : Injector} {lineage : Lineage} {valueType : ValueType}
  {chosen others : List Binding}

theorem takenAll_some (injector : Injector) (filter : TypeFilter) (lineage : Lineage) :
    injector.takenAll (some filter) lineage =
      (injector.takenAll none lineage).filter fun found =>
        filter.accepts found.member.valueType := by
  unfold takenAll
  rw [taken_some, taken_some, List.filter_append]

/-- A member that is taken passes one of the two filters of a type. -/
theorem forall_mem_takenAll_of_parts (valueType : ValueType) {holds : Found → Prop}
    (including : ∀ found ∈ injector.takenAll (some (.including valueType)) lineage, holds found)
    (excluding : ∀ found ∈ injector.takenAll (some (.excluding valueType)) lineage,
      holds found) : ∀ found ∈ injector.takenAll none lineage, holds found := by
  intro found present
  by_cases wanted : found.member.valueType.type = valueType.type
  · apply including
    rw [takenAll_some]
    exact List.mem_filter.mpr ⟨present, TypeFilter.accepts_including.mpr wanted⟩
  · apply excluding
    rw [takenAll_some]
    exact List.mem_filter.mpr ⟨present, TypeFilter.accepts_excluding.mpr wanted⟩

/-- What is planned under a filter has a name. -/
theorem not_unnamed_of_planned {filter? : Option TypeFilter} {bindings : List Binding}
    (planned : (injector.plan lineage filter?).result = .ok bindings) :
    ∀ found ∈ injector.takenAll filter? lineage, ¬ Unnamed injector.naming.resolve found := by
  obtain ⟨-, -, named, -⟩ := result_plan_eq_ok_iff.mp planned
  obtain ⟨listed, resolved⟩ := Binding.resolveAll_eq_ok_iff.mp named
  rw [← listed]
  rintro found present ⟨error, failed⟩
  obtain ⟨binding, bindingMem, rfl⟩ := List.mem_map.mp present
  rw [resolved binding bindingMem] at failed
  contradiction

/-- Where both filters of a type have their plans, nothing but a clash of names is in the way
of the whole plan, and the two are its parts. -/
theorem exists_whole_of_parts (lenient : injector.config.requireMatch = false)
    (including : (injector.plan lineage (some (.including valueType))).result = .ok chosen)
    (excluding : (injector.plan lineage (some (.excluding valueType))).result = .ok others) :
    ∃ bindings : List Binding,
      chosen = bindings.filter (Binding.isFor valueType.type) ∧
        others = (bindings.filter fun binding => !binding.isFor valueType.type) ∧
        ∀ planned, (injector.plan lineage none).result = .ok planned ↔
          planned = bindings ∧
            (injector.config.distinctNames = true → Binding.Distinct bindings) := by
  obtain ⟨unbrokenChosen, -, namedChosen, -⟩ := result_plan_eq_ok_iff.mp including
  obtain ⟨unbrokenOthers, -, namedOthers, -⟩ := result_plan_eq_ok_iff.mp excluding
  have unbroken := forall_mem_takenAll_of_parts valueType unbrokenChosen unbrokenOthers
  obtain ⟨bindings, named⟩ := Binding.exists_resolveAll
    (forall_mem_takenAll_of_parts valueType (not_unnamed_of_planned including)
      (not_unnamed_of_planned excluding))
  refine ⟨bindings, ?_, ?_, ?_⟩
  · rw [takenAll_some, Binding.resolveAll_filter named] at namedChosen
    exact (Except.ok.inj namedChosen).symm
  · rw [takenAll_some, Binding.resolveAll_filter named] at namedOthers
    exact (Except.ok.inj namedOthers).symm
  · intro planned
    rw [result_plan_eq_ok_iff, named]
    simp only [lenient, Except.ok.injEq]
    constructor
    · rintro ⟨-, -, rfl, distinct⟩
      exact ⟨rfl, distinct⟩
    · rintro ⟨rfl, distinct⟩
      exact ⟨unbroken, by simp, rfl, distinct⟩

/-- There is a plan for the type under the filter. -/
def Plans (injector : Injector) (lineage : Lineage) (filter? : Option TypeFilter) : Prop :=
  ∃ bindings, (injector.plan lineage filter?).result = .ok bindings

/-- The whole plan against those under the two filters of a type. -/
structure Splits (injector : Injector) (lineage : Lineage) (valueType : ValueType) : Prop where
  /-- Where names may be shared, the whole plan stands and falls with its two parts. -/
  undemanding : injector.config.distinctNames = false →
    (injector.Plans lineage none ↔ injector.Plans lineage (some (.including valueType)) ∧
      injector.Plans lineage (some (.excluding valueType)))
  /-- Where they may not, a plan for each part makes a whole plan if no name is in both. -/
  demanding : injector.config.distinctNames = true →
    (injector.Plans lineage none → injector.Plans lineage (some (.including valueType)) ∧
      injector.Plans lineage (some (.excluding valueType))) ∧
    ∀ chosen others,
      (injector.plan lineage (some (.including valueType))).result = .ok chosen →
      (injector.plan lineage (some (.excluding valueType))).result = .ok others →
        (injector.Plans lineage none ↔
          ∀ left ∈ chosen, ∀ right ∈ others, left.name ≠ right.name)
  /-- The parts of a plan are its entries of the type and its entries of other types. -/
  parts : ∀ bindings, (injector.plan lineage none).result = .ok bindings →
    (injector.plan lineage (some (.including valueType))).result =
        .ok (bindings.filter (Binding.isFor valueType.type)) ∧
      (injector.plan lineage (some (.excluding valueType))).result =
        .ok (bindings.filter fun binding => !binding.isFor valueType.type)

/-- Unless something has to be found, the two filters of a type split every plan. -/
theorem filters_split_plans (injector : Injector) (lineage : Lineage) (valueType : ValueType)
    (lenient : injector.config.requireMatch = false) : injector.Splits lineage valueType := by
  have parts : ∀ bindings, (injector.plan lineage none).result = .ok bindings →
      (injector.plan lineage (some (.including valueType))).result =
          .ok (bindings.filter (Binding.isFor valueType.type)) ∧
        (injector.plan lineage (some (.excluding valueType))).result =
          .ok (bindings.filter fun binding => !binding.isFor valueType.type) :=
    fun bindings planned =>
      ⟨result_plan_some (.including valueType) lenient planned,
        result_plan_some (.excluding valueType) lenient planned⟩
  have both : injector.Plans lineage none →
      injector.Plans lineage (some (.including valueType)) ∧
        injector.Plans lineage (some (.excluding valueType)) := by
    rintro ⟨bindings, planned⟩
    exact ⟨⟨_, (parts bindings planned).1⟩, ⟨_, (parts bindings planned).2⟩⟩
  constructor
  case parts => exact parts
  case undemanding =>
    intro shared
    refine ⟨both, ?_⟩
    rintro ⟨⟨chosen, including⟩, ⟨others, excluding⟩⟩
    obtain ⟨bindings, -, -, planned⟩ := exists_whole_of_parts lenient including excluding
    exact ⟨bindings, (planned bindings).mpr ⟨rfl, by simp [shared]⟩⟩
  case demanding =>
    intro demanded
    refine ⟨both, ?_⟩
    intro chosen others including excluding
    obtain ⟨-, -, -, distinctChosen⟩ := result_plan_eq_ok_iff.mp including
    obtain ⟨-, -, -, distinctOthers⟩ := result_plan_eq_ok_iff.mp excluding
    obtain ⟨bindings, rfl, rfl, planned⟩ := exists_whole_of_parts lenient including excluding
    have distinct := Binding.distinct_iff_of_filter (Binding.isFor valueType.type) bindings
    constructor
    · rintro ⟨listed, whole⟩
      exact (distinct.mp (((planned listed).mp whole).2 demanded)).2.2
    · intro apart
      refine ⟨bindings, (planned bindings).mpr ⟨rfl, fun _ => ?_⟩⟩
      exact distinct.mpr ⟨distinctChosen demanded, distinctOthers demanded, apart⟩

end Injector

/-! ## A desk with two labels -/

namespace Desk

open Sample (text count marked)

def desk : Lineage :=
  .child ⟨1, "Desk", ⟨"Desk"⟩, [marked "resource" .field "label" text],
      [marked "Resource" .setter "setLabel" count]⟩
    Upcast.nowhere
    (.root ⟨0, "Table", ⟨"Table"⟩, [marked "resource" .field "width" count], []⟩)

def strict : Injector := ⟨"resource", { distinctNames := true }⟩

def relaxed : Injector := ⟨"resource", {}⟩

/-- The label is a text as well as a count, and with either kept out the desk can be planned
for.  Together they can be planned for only where they may share their name. -/
theorem plans_for_desk :
    (∃ chosen others,
      (strict.plan desk (some (.including ⟨text.type, .void⟩))).result = .ok chosen ∧
        (strict.plan desk (some (.excluding ⟨text.type, .void⟩))).result = .ok others ∧
          chosen.map (·.name.text) = ["label"] ∧ others.map (·.name.text) = ["width", "label"]) ∧
      ¬ strict.Plans desk none ∧ relaxed.Plans desk none := by
  have clash : ∃ chosen others,
      (strict.plan desk (some (.including ⟨text.type, .void⟩))).result = .ok chosen ∧
        (strict.plan desk (some (.excluding ⟨text.type, .void⟩))).result = .ok others ∧
          (chosen.map (·.name.text) = ["label"] ∧ others.map (·.name.text) = ["width", "label"]) ∧
            ∃ left ∈ chosen, ∃ right ∈ others, left.name = right.name :=
    ⟨_, _, rfl, rfl, by decide, by decide⟩
  obtain ⟨chosen, others, including, excluding, names, left, leftMem, right, rightMem, same⟩ :=
    clash
  refine ⟨⟨chosen, others, including, excluding, names⟩, ?_, ?_⟩
  · intro planned
    have splits := Injector.filters_split_plans strict desk ⟨text.type, .void⟩ rfl
    exact ((splits.demanding rfl).2 chosen others including excluding).mp planned left leftMem
      right rightMem same
  · have splits := Injector.filters_split_plans relaxed desk ⟨text.type, .void⟩ rfl
    exact (splits.undemanding rfl).mpr ⟨⟨_, rfl⟩, ⟨_, rfl⟩⟩

end Desk

end Wiring
