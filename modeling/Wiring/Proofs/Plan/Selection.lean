import Wiring.Proofs.Plan.Result

/-!
# Parts of plans

A narrower filter or a shorter chain takes some of the members that a plan has
taken before.  If nothing is demanded of their number, the plan for those members
is the corresponding part of the larger plan: no rule, no name and no comparison
of names can stand in its way.
-/

namespace Wiring

namespace Binding

variable {select : Found → Option Found} {bindings : List Binding}

/-- The member is declared to hold values of exactly the type. -/
def isFor (type : TypeId) (binding : Binding) : Bool :=
  binding.found.member.valueType.type == type

/-- A selection takes names away and adds none. -/
theorem names_filterMap_sublist (select : Found → Option Found) (bindings : List Binding) :
    ((bindings.filterMap (select? select)).map (·.name)).Sublist (bindings.map (·.name)) := by
  induction bindings with
  | nil => exact List.Sublist.slnil
  | cons binding rest inductionHypothesis =>
      cases selected : binding.select? select with
      | none =>
          rw [List.filterMap_cons_none selected]
          exact inductionHypothesis.cons _
      | some chosen =>
          rw [List.filterMap_cons_some selected, List.map_cons, List.map_cons,
            (select?_eq_some_iff.mp selected).2]
          exact inductionHypothesis.cons_cons _

theorem Distinct.filterMap_select? (distinct : Distinct bindings) :
    Distinct (bindings.filterMap (select? select)) :=
  distinct.sublist (names_filterMap_sublist select bindings)

end Binding

namespace Injector

variable {injector : Injector} {lineage other : Lineage}
  {filter? otherFilter? : Option TypeFilter} {select : Found → Option Found}
  {bindings : List Binding}

/-- If what is taken elsewhere is a selection of what is taken here, then the plan
there is the same selection of the plan here. -/
theorem result_plan_of_selection
    (keeps : ∀ found chosen, select found = some chosen →
      chosen.declaring = found.declaring ∧ chosen.member = found.member)
    (selected : ∀ scope, injector.taken otherFilter? other scope =
      (injector.taken filter? lineage scope).filterMap select)
    (lenient : injector.config.requireMatch = false)
    (planned : (injector.plan lineage filter?).result = .ok bindings) :
    (injector.plan other otherFilter?).result =
      .ok (bindings.filterMap (Binding.select? select)) := by
  have all : injector.takenAll otherFilter? other =
      (injector.takenAll filter? lineage).filterMap select := by
    unfold takenAll
    rw [selected, selected, List.filterMap_append]
  rcases result_plan_eq_ok_iff.mp planned with ⟨unbroken, -, named, distinct⟩
  refine result_plan_eq_ok_iff.mpr ⟨?_, ?_, ?_, ?_⟩
  · intro chosen present
    rw [all] at present
    rcases List.mem_filterMap.mp present with ⟨found, foundMem, chosenEq⟩
    rw [(keeps found chosen chosenEq).2]
    exact unbroken found foundMem
  · simp [lenient]
  · rw [all]
    apply Binding.resolveAll_filterMap _ named
    intro found chosen chosenEq
    rcases keeps found chosen chosenEq with ⟨sameDeclaring, sameMember⟩
    exact injector.naming.resolve_congr sameDeclaring sameMember
  · intro demanded
    exact (distinct demanded).filterMap_select?

/-- What is taken is what is found and accepted. -/
theorem taken_eq_filter (injector : Injector) (filter? : Option TypeFilter) (lineage : Lineage)
    (scope : MemberScope) :
    injector.taken filter? lineage scope =
      (lineage.found scope).filter fun found => injector.takes filter? found.member := by
  rw [← candidates_scanner, Scanner.candidates, accepts_scanner]
  rfl

/-- A filter takes its part of what is taken without one. -/
theorem taken_some (injector : Injector) (filter : TypeFilter) (lineage : Lineage)
    (scope : MemberScope) :
    injector.taken (some filter) lineage scope =
      (injector.taken none lineage scope).filter fun found =>
        filter.accepts found.member.valueType := by
  rw [taken_eq_filter, taken_eq_filter, List.filter_filter]
  congr 1
  funext found
  simp [takes, Bool.and_comm]

/-- The plan under a filter is the part of the whole plan that passes it. -/
theorem result_plan_some (filter : TypeFilter) (lenient : injector.config.requireMatch = false)
    (planned : (injector.plan lineage none).result = .ok bindings) :
    (injector.plan lineage (some filter)).result =
      .ok (bindings.filter fun binding => filter.accepts binding.found.member.valueType) := by
  have selection : bindings.filterMap (Binding.select? (Option.guard fun found =>
      filter.accepts found.member.valueType)) =
        bindings.filter fun binding => filter.accepts binding.found.member.valueType := by
    rw [← List.filterMap_eq_filter]
    congr 1
    funext binding
    cases accepted : filter.accepts binding.found.member.valueType <;>
      simp [Binding.select?, Option.guard, accepted]
  rw [← selection]
  refine result_plan_of_selection ?_ ?_ lenient planned
  · intro found chosen chosenEq
    simp only [Option.guard_eq_some_iff] at chosenEq
    rcases chosenEq with ⟨rfl, -⟩
    exact ⟨rfl, rfl⟩
  · intro scope
    rw [taken_some, List.filterMap_eq_filter]

end Injector

end Wiring
