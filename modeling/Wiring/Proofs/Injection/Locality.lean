import Wiring.Proofs.Injection.Isolation
import Wiring.Proofs.Registry.History

/-!
# Resources under their own names

An injection of resources asks for nothing but the values under the planned names, and each
entry of the plan takes only what stands under its own name.  What becomes of an entry is
therefore settled by that one value, and registries that differ elsewhere cannot be told
apart by what they do to an object.
-/

namespace Wiring

/-- Two reports say the same of a binding, except for the wording of a refusal: both bind it or
neither does, and an obstacle is reported in both. -/
structure Report.AgreesOn (report other : Report) (obstacle? : Option BindError)
    (binding : Binding) : Prop where
  bound_iff : binding ∈ report.bound ↔ binding ∈ other.bound
  skipped_iff : obstacle?.isSome → ∀ error,
    ⟨binding, error⟩ ∈ report.skipped ↔ ⟨binding, error⟩ ∈ other.skipped

theorem Report.Isolates.agreesOn {report other : Report} {bindings : List Binding}
    {obstacle? otherObstacle? : Binding → Option BindError}
    {alone otherAlone : Binding → Except BindError Unit}
    (isolates : report.Isolates bindings obstacle? alone)
    (otherIsolates : other.Isolates bindings otherObstacle? otherAlone) {binding : Binding}
    (listed : binding ∈ bindings) (same : alone binding = otherAlone binding)
    (sameObstacle : otherObstacle? binding = obstacle? binding) :
    report.AgreesOn other (obstacle? binding) binding := by
  constructor
  · rw [isolates.bound_iff binding listed, otherIsolates.bound_iff binding listed, same]
  · intro met error
    obtain ⟨obstacle, met⟩ := Option.isSome_iff_exists.mp met
    rw [(isolates.skipped_iff binding listed obstacle met).2,
      (otherIsolates.skipped_iff binding listed obstacle (sameObstacle.trans met)).2]

/-! ## Runs on a lookup -/

namespace Binding

/-- Bindings are tried in order, each with the value that stands under its own name, and on
what the ones before it left of the object.  A name under which nothing stands is missed, and
the object stays as it is. -/
inductive Served (values : BindingName → Option Value) :
    List Binding → Instance → List Outcome → Instance → Prop where
  | nil {object : Instance} : Served values [] object [] object
  | missed {binding : Binding} {rest : List Binding} {object final : Instance}
      {outcomes : List Outcome} (unknown : values binding.name = none)
      (others : Served values rest object outcomes final) :
      Served values (binding :: rest) object
        (⟨binding, .error (.missingResource binding.name.text)⟩ :: outcomes) final
  | given {binding : Binding} {rest : List Binding} {object final : Instance}
      {outcomes : List Outcome} {value : Value} (known : values binding.name = some value)
      (others : Served values rest (binding.found.bind object value).2 outcomes final) :
      Served values (binding :: rest) object
        (⟨binding, (binding.found.bind object value).1⟩ :: outcomes) final

variable {binding : Binding} {bindings : List Binding} {supply other : Supply}

theorem served_applyAll (lookup : BindingName → Option Value) (bindings : List Binding)
    (object : Instance) :
    Served lookup bindings object (applyAll (Supply.ofLookup lookup) bindings object).1
      (applyAll (Supply.ofLookup lookup) bindings object).2 := by
  induction bindings generalizing object with
  | nil => exact Served.nil
  | cons binding rest inductionHypothesis =>
      rw [applyAll_cons]
      cases found : lookup binding.name with
      | none =>
          rw [apply_of_withheld (Supply.ofLookup_of_unknown found)]
          exact Served.missed found (inductionHypothesis object)
      | some value =>
          rw [apply_of_supplied (Supply.ofLookup_of_known found)]
          exact Served.given found (inductionHypothesis (binding.found.bind object value).2)

/-- A binding asks for its own name only. -/
theorem apply_congr (same : supply binding.name = other binding.name) (object : Instance) :
    binding.apply supply object = binding.apply other object := by
  unfold apply
  rw [same]

theorem obstacle?_congr_supply (same : supply binding.name = other binding.name)
    (object : Instance) : binding.obstacle? supply object = binding.obstacle? other object := by
  unfold obstacle?
  rw [same]

/-- Bindings ask for their own names only. -/
theorem applyAll_congr (same : ∀ binding ∈ bindings, supply binding.name = other binding.name)
    (object : Instance) : applyAll supply bindings object = applyAll other bindings object := by
  induction bindings generalizing object with
  | nil => rfl
  | cons binding rest inductionHypothesis =>
      obtain ⟨sameHead, sameRest⟩ := List.forall_mem_cons.mp same
      rw [applyAll_cons, applyAll_cons, apply_congr sameHead, inductionHypothesis sameRest]

end Binding

namespace Injector

variable {injector : Injector} {object : Instance} {bindings : List Binding}
  {supply other : Supply}

/-- Lookups that agree on the planned names cannot be told apart. -/
theorem injectResources_congr
    (planned : (injector.plan object.lineage none).result = .ok bindings)
    {first second : BindingName → Option Value}
    (same : ∀ binding ∈ bindings, first binding.name = second binding.name) :
    injector.injectResources object first = injector.injectResources object second := by
  have supplied : ∀ binding ∈ bindings,
      Supply.ofLookup first binding.name = Supply.ofLookup second binding.name := by
    intro binding listed
    unfold Supply.ofLookup
    rw [same binding listed]
  simp only [injectResources, run, planned, Binding.applyAll_congr supplied]

/-- Where ways and successes go by types, the reports on two lookups agree on every entry for
which the lookups do. -/
theorem agreesOn_of_planned
    (planned : (injector.plan object.lineage none).result = .ok bindings)
    (leads : object.lineage.LeadsByType)
    (succeeds : object.lineage.EveryAccessor fun _ accessor => accessor.SucceedsByType)
    {binding : Binding} (listed : binding ∈ bindings)
    (same : supply binding.name = other binding.name) :
    (Report.ofOutcomes object.lineage.name
      (Binding.applyAll supply bindings object).1).AgreesOn
        (Report.ofOutcomes object.lineage.name (Binding.applyAll other bindings object).1)
        (binding.obstacle? supply object) binding := by
  apply (isolates_of_planned planned leads succeeds).agreesOn
    (isolates_of_planned planned leads succeeds) listed
  · exact congrArg Prod.fst (Binding.apply_congr same object)
  · exact (Binding.obstacle?_congr_supply same object).symm

/-- Where refusals are worded by types as well, the reports give the same reasons. -/
theorem skipped_iff_of_planned
    (planned : (injector.plan object.lineage none).result = .ok bindings)
    (leads : object.lineage.LeadsByType)
    (answers : object.lineage.EveryAccessor fun _ accessor => accessor.AnswersByType)
    {binding : Binding} (listed : binding ∈ bindings)
    (same : supply binding.name = other binding.name) (error : BindError) :
    ⟨binding, error⟩ ∈ (Report.ofOutcomes object.lineage.name
        (Binding.applyAll supply bindings object).1).skipped ↔
      ⟨binding, error⟩ ∈ (Report.ofOutcomes object.lineage.name
        (Binding.applyAll other bindings object).1).skipped := by
  rw [mem_skipped_iff_of_planned planned leads answers listed,
    mem_skipped_iff_of_planned planned leads answers listed, Binding.apply_congr same]

theorem exists_served (planned : (injector.plan object.lineage none).result = .ok bindings)
    (lookup : BindingName → Option Value) :
    ∃ outcomes, (injector.injectResources object lookup).pass.result =
        .ok (Report.ofOutcomes object.lineage.name outcomes) ∧
      Binding.Served lookup bindings object outcomes
        (injector.injectResources object lookup).object := by
  refine ⟨_, result_run_of_planned planned, ?_⟩
  have final : (injector.injectResources object lookup).object = _ :=
    object_run_of_planned planned
  rw [final]
  exact Binding.served_applyAll lookup bindings object

/-- With a plan, each entry is tried with what was registered last under its own name, and nothing
else about the history of a registry makes a difference: neither the changes under the empty name
or under names that are not planned, nor the order of changes under different names.  A value
under a planned name is a matter of the entries of that name alone, as far as ways and successes
go by types; for the wording of refusals, accessors have to go by types there too. -/
theorem resources_are_local
    (planned : (injector.plan object.lineage none).result = .ok bindings) :
    (∀ (name : String) (first second : Registry),
      (∀ other, other ≠ "" → other ≠ name → first.find? other = second.find? other) →
        (∃ report other,
          (injector.injectResources object first.lookup).pass.result = .ok report ∧
          (injector.injectResources object second.lookup).pass.result = .ok other ∧
          (object.lineage.LeadsByType →
            (object.lineage.EveryAccessor fun _ accessor => accessor.SucceedsByType) →
              ∀ binding ∈ bindings, binding.name.text ≠ name →
                report.AgreesOn other
                  (binding.obstacle? (Supply.ofLookup first.lookup) object) binding) ∧
          (object.lineage.LeadsByType →
            (object.lineage.EveryAccessor fun _ accessor => accessor.AnswersByType) →
              ∀ binding ∈ bindings, binding.name.text ≠ name → ∀ error,
                ⟨binding, error⟩ ∈ report.skipped ↔ ⟨binding, error⟩ ∈ other.skipped)) ∧
        ((∀ binding ∈ bindings, binding.name.text ≠ name) →
          injector.injectResources object first.lookup =
            injector.injectResources object second.lookup)) ∧
    (∀ history : List Registration, ∃ outcomes,
      (injector.injectResources object (Registry.ofHistory history).lookup).pass.result =
          .ok (Report.ofOutcomes object.lineage.name outcomes) ∧
        Binding.Served (fun name => Registration.latest? name.text history) bindings object
          outcomes
          (injector.injectResources object (Registry.ofHistory history).lookup).object) ∧
    (∀ (registry : Registry) (change : Registration),
      (change.name = "" ∨ ∀ binding ∈ bindings, binding.name.text ≠ change.name) →
        injector.injectResources object (registry.change change).lookup =
          injector.injectResources object registry.lookup) ∧
    ∀ first second : List Registration,
      (∀ binding ∈ bindings, Registration.under binding.name.text first =
        Registration.under binding.name.text second) →
        injector.injectResources object (Registry.ofHistory first).lookup =
          injector.injectResources object (Registry.ofHistory second).lookup := by
  refine ⟨?_, ?_, ?_, ?_⟩
  · intro name first second agree
    have same : ∀ binding : Binding, binding.name.text ≠ name →
        first.lookup binding.name = second.lookup binding.name :=
      fun binding => agree binding.name.text binding.name.text_ne_empty
    have sameSupply : ∀ binding : Binding, binding.name.text ≠ name →
        Supply.ofLookup first.lookup binding.name = Supply.ofLookup second.lookup binding.name := by
      intro binding different
      simp only [Supply.ofLookup, same binding different]
    constructor
    · refine ⟨_, _, result_run_of_planned planned, result_run_of_planned planned, ?_, ?_⟩
      · intro leads succeeds binding listed different
        exact agreesOn_of_planned planned leads succeeds listed (sameSupply binding different)
      · intro leads answers binding listed different
        exact skipped_iff_of_planned planned leads answers listed (sameSupply binding different)
    · intro absent
      exact injectResources_congr planned
        fun binding listed => same binding (absent binding listed)
  · intro history
    rw [Registry.lookup_ofHistory]
    exact exists_served planned _
  · intro registry change apart
    apply injectResources_congr planned
    intro binding listed
    exact registry.lookup_change (apart.imp_right fun absent => absent binding listed)
  · intro first second same
    apply injectResources_congr planned
    intro binding listed
    simp only [Registry.lookup_ofHistory, Registration.latest?, same binding listed]

end Injector

/-! ## A kiosk with two signs -/

namespace Kiosk

open Sample (text count marked stored injector)

def stall : Declaration where
  key := 0
  name := "Stall"
  type := ⟨"Stall"⟩
  fields := [stored "resource" .field "sign" ⟨"Stall"⟩]

def kiosk : Declaration where
  key := 1
  name := "Kiosk"
  type := ⟨"Kiosk"⟩
  fields :=
    [stored "resource" .field "sign" ⟨"Kiosk"⟩,
      stored "resource" .field "lamp" ⟨"Kiosk"⟩]
  setters := [(marked "resource" .setter "setPrice" count).stored ⟨"Kiosk"⟩ none]

def lineage : Lineage := .child kiosk (Upcast.toParent ⟨"Kiosk"⟩) (.root stall)

/-- By day there is a price, of the wrong type, and no lamp. -/
def byDay : List Registration :=
  [.insert "sign" ⟨text.type, .text "closed"⟩, .insert "lamp" ⟨text.type, .text "off"⟩,
    .insert "" ⟨text.type, .text "nobody"⟩, .insert "price" ⟨text.type, .text "free"⟩,
    .insert "sign" ⟨text.type, .text "open"⟩, .remove "lamp"]

def byNight : List Registration :=
  [.insert "price" ⟨text.type, .text "free"⟩, .insert "sign" ⟨text.type, .text "open"⟩,
    .insert "lamp" ⟨text.type, .text "on"⟩]

theorem stores_lineage : lineage.Stores :=
  Lineage.stores_child
    (Declaration.stores_of_lists
      (List.forall_mem_cons.mpr ⟨Member.stores_stored _ _ _,
        List.forall_mem_singleton.mpr (Member.stores_stored _ _ _)⟩)
      (List.forall_mem_singleton.mpr (Member.stores_stored _ _ _)))
    (Lineage.stores_root (Declaration.stores_of_lists
      (List.forall_mem_singleton.mpr (Member.stores_stored _ _ _)) (List.forall_mem_nil _))) _

/-- The lamp makes a difference to itself alone, an awning makes none, and the history of
the night may as well be told backwards. -/
theorem lamp_is_local_to_kiosk :
    ∃ (bindings : List Binding) (day night : Report),
      bindings.map (·.name.text) = ["sign", "lamp", "sign", "price"] ∧
        (injector.injectResources (.fresh lineage)
          (Registry.ofHistory byDay).lookup).pass.result = .ok day ∧
        (injector.injectResources (.fresh lineage)
          (Registry.ofHistory byNight).lookup).pass.result = .ok night ∧
        (∀ binding ∈ bindings, binding.name.text ≠ "lamp" →
          (binding ∈ day.bound ↔ binding ∈ night.bound) ∧
            ∀ error, ⟨binding, error⟩ ∈ day.skipped ↔ ⟨binding, error⟩ ∈ night.skipped) ∧
        injector.injectResources (.fresh lineage) (Registry.ofHistory byNight).lookup =
          injector.injectResources (.fresh lineage)
            ((Registry.ofHistory byNight).change (.insert "awning" ⟨text.type, .null⟩)).lookup ∧
        injector.injectResources (.fresh lineage) (Registry.ofHistory byNight).lookup =
          injector.injectResources (.fresh lineage)
            (Registry.ofHistory byNight.reverse).lookup := by
  have planned : ∃ bindings, (injector.plan lineage none).result = .ok bindings ∧
      bindings.map (·.name.text) = ["sign", "lamp", "sign", "price"] := ⟨_, rfl, by decide⟩
  obtain ⟨bindings, planned, names⟩ := planned
  have named : ∀ binding ∈ bindings, binding.name.text ∈ ["sign", "lamp", "sign", "price"] := by
    intro binding listed
    rw [← names]
    exact List.mem_map.mpr ⟨binding, listed, rfl⟩
  have leads : lineage.LeadsByType := ⟨Upcast.leadsByType_toParent _, trivial⟩
  have answers : lineage.EveryAccessor fun _ accessor => accessor.AnswersByType :=
    stores_lineage.everyAccessor Store.answersByType_accessor
  have succeeds : lineage.EveryAccessor fun _ accessor => accessor.SucceedsByType :=
    Lineage.succeedsByType_of_answersByType answers
  have agree : ∀ other, other ≠ "" → other ≠ "lamp" →
      (Registry.ofHistory byDay).find? other = (Registry.ofHistory byNight).find? other := by
    intro other named dark
    rw [Registry.find?_ofHistory, Registry.find?_ofHistory]
    by_cases sign : other = "sign"
    · rw [sign]
      rfl
    · by_cases price : other = "price"
      · rw [price]
        rfl
      · simp [Registration.latest?, Registration.under, byDay, byNight, Registration.name,
          Ne.symm named, Ne.symm dark, Ne.symm sign, Ne.symm price]
  obtain ⟨locality, -, changes, orders⟩ :=
    @Injector.resources_are_local injector (.fresh lineage) bindings planned
  obtain ⟨⟨day, night, byDayReported, byNightReported, agrees, reasons⟩, -⟩ :=
    locality "lamp" (Registry.ofHistory byDay) (Registry.ofHistory byNight) agree
  refine ⟨bindings, day, night, names, byDayReported, byNightReported, ?_, ?_, ?_⟩
  · intro binding listed apart
    exact ⟨(agrees leads succeeds binding listed apart).bound_iff,
      reasons leads answers binding listed apart⟩
  · have absent : ∀ binding ∈ bindings, binding.name.text ≠ "awning" := by
      intro binding listed awning
      have present := named binding listed
      rw [awning] at present
      exact absurd present (by decide)
    exact (changes _ (.insert "awning" ⟨text.type, .null⟩) (.inr absent)).symm
  · apply orders
    intro binding listed
    have present := named binding listed
    simp only [List.mem_cons, List.not_mem_nil, or_false] at present
    rcases present with same | same | same | same <;> rw [same] <;> rfl

end Kiosk

/-- A token changes the words in which a ticket is turned away, and a chain keeps the flag from
being reached, although both are named otherwise.  Each time only successes go by types. -/
theorem Injector.resources_reach_other_names :
    ((Turnstile.lineage.EveryAccessor fun _ accessor => accessor.SucceedsByType) ∧
      ∃ first second : Registry,
        (∀ other, other ≠ "token" → first.find? other = second.find? other) ∧
        ∃ report other,
          (Sample.injector.injectResources (.fresh Turnstile.lineage)
            first.lookup).pass.result = .ok report ∧
          (Sample.injector.injectResources (.fresh Turnstile.lineage)
            second.lookup).pass.result = .ok other ∧
          ⟨Turnstile.planned, .rejected "tokens: 1"⟩ ∈ report.skipped ∧
          ⟨Turnstile.planned, .rejected "tokens: 0"⟩ ∈ other.skipped) ∧
    (Drawbridge.lineage.EveryAccessor fun _ accessor => accessor.SucceedsByType) ∧
      ∃ first second : Registry,
        (∀ other, other ≠ "chain" → first.find? other = second.find? other) ∧
        ∃ report other,
          (Sample.injector.injectResources (.fresh Drawbridge.lineage)
            first.lookup).pass.result = .ok report ∧
          (Sample.injector.injectResources (.fresh Drawbridge.lineage)
            second.lookup).pass.result = .ok other ∧
          ⟨Drawbridge.planned, .ancestorUnreachable 1⟩ ∈ report.skipped ∧
          Drawbridge.planned ∈ other.bound := by
  have differ : ∀ (registry : Registry) (name other : String), other ≠ name →
      (registry.insert name (Sample.words "new")).find? other = registry.find? other := by
    intro registry name other different
    rw [Registry.find?_insert, if_neg different.symm]
  refine ⟨⟨Turnstile.succeedsByType_lineage,
      (Registry.ofList [("ticket", Sample.words "day")]).insert "token" (Sample.words "new"),
      Registry.ofList [("ticket", Sample.words "day")], differ _ _, _, _, rfl, rfl, ?_, ?_⟩,
    Drawbridge.succeedsByType_lineage,
      (Registry.ofList [("flag", Sample.words "red")]).insert "chain" (Sample.words "new"),
      Registry.ofList [("flag", Sample.words "red")], differ _ _, _, _, rfl, rfl, ?_, ?_⟩
  · exact List.mem_singleton.mpr rfl
  · exact List.mem_of_getElem? (i := 1) rfl
  · exact List.mem_of_getElem? (i := 1) rfl
  · exact List.mem_singleton.mpr rfl

end Wiring
