import Wiring.Proofs.Plan.Selection

/-!
# Plans of parents

The plan of a type contains that of the type it extends.  Its own members stand
between those of the parent, since all fields come before all setters, but leaving
them out gives the plan of the parent one level up.
-/

namespace Wiring

namespace Found

/-- The find as it is counted from the parent, where a type's own members are not
found. -/
def fromParent? (found : Found) : Option Found :=
  match found.depth with
  | 0 => none
  | depth + 1 => some { found with depth := depth }

theorem fromParent?_of_own {found : Found} (own : found.depth = 0) : found.fromParent? = none := by
  simp [fromParent?, own]

@[simp]
theorem fromParent?_deeper (found : Found) : (found.deeper 1).fromParent? = some found :=
  rfl

theorem fromParent?_eq_some {found chosen : Found} (counted : found.fromParent? = some chosen) :
    found = chosen.deeper 1 := by
  rcases found with ⟨declaring, scope, index, member, depth⟩
  cases depth with
  | zero => simp [fromParent?] at counted
  | succ depth =>
      simp only [fromParent?, Option.some.injEq] at counted
      rw [← counted]
      rfl

end Found

namespace Injector

variable {injector : Injector} {filter? : Option TypeFilter} {own : Declaration}
  {upcast : Upcast} {parent : Lineage} {bindings : List Binding}

theorem taken_parent (injector : Injector) (filter? : Option TypeFilter) (own : Declaration)
    (upcast : Upcast) (parent : Lineage) (scope : MemberScope) :
    injector.taken filter? parent scope =
      (injector.taken filter? (.child own upcast parent) scope).filterMap Found.fromParent? := by
  have nothingOwn : ((own.found scope 0).filter fun found =>
      injector.takes filter? found.member).filterMap Found.fromParent? = [] := by
    rw [List.filterMap_eq_nil_iff]
    intro found present
    have level := Declaration.mem_found_iff.mp (List.mem_of_mem_filter present)
    exact Found.fromParent?_of_own level.2.2.1
  have shifted : ((parent.found scope).map (Found.deeper 1)).filter
      (fun found => injector.takes filter? found.member) =
        ((parent.found scope).filter fun found =>
          injector.takes filter? found.member).map (Found.deeper 1) := by
    rw [List.filter_map]
    rfl
  rw [taken_eq_filter, taken_eq_filter, Lineage.found_child, List.filter_append,
    List.filterMap_append, nothingOwn, List.nil_append, shifted, List.filterMap_map]
  exact List.filterMap_some.symm

/-- A type can be planned for only if its parent can, and the parent's plan is what
the type's plan says of the levels above. -/
theorem result_plan_parent (lenient : injector.config.requireMatch = false)
    (planned : (injector.plan (.child own upcast parent) filter?).result = .ok bindings) :
    (injector.plan parent filter?).result =
      .ok (bindings.filterMap (Binding.select? Found.fromParent?)) := by
  refine result_plan_of_selection ?_ (taken_parent injector filter? own upcast parent) lenient
    planned
  intro found chosen counted
  rw [Found.fromParent?_eq_some counted]
  exact ⟨rfl, rfl⟩

end Injector

end Wiring
