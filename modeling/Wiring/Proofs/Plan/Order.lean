import Wiring.Proofs.Plan.Result

/-!
# The order of plans

A plan lists fields before setters, within a scope the levels from the own one upwards,
and within a level the members as they are declared.  No two entries share their place in
that order, so no member is planned twice.
-/

namespace Wiring

/-- The place of the first find comes before that of the second. -/
def Found.Before (first second : Found) : Prop :=
  (first.scope = .fields ∧ second.scope = .setters) ∨
    (first.scope = second.scope ∧
      (first.depth < second.depth ∨ (first.depth = second.depth ∧ first.index < second.index)))

theorem Found.Before.place_ne {first second : Found} (before : first.Before second) :
    first.place ≠ second.place := by
  intro same
  simp only [Found.place, Found.Place.mk.injEq] at same
  obtain ⟨-, sameScope, sameIndex, sameDepth⟩ := same
  rcases before with ⟨field, setter⟩ | ⟨-, lower | ⟨-, earlier⟩⟩
  · rw [field, setter] at sameScope
    contradiction
  · omega
  · omega

theorem Declaration.pairwise_found (declaration : Declaration) (scope : MemberScope)
    (depth : Nat) : (declaration.found scope depth).Pairwise Found.Before := by
  rw [List.pairwise_iff_getElem]
  intro first second firstBound secondBound earlier
  simp only [found, List.getElem_mapIdx]
  exact Or.inr ⟨rfl, Or.inr ⟨rfl, earlier⟩⟩

namespace Lineage

theorem depth_le_of_mem_foundFrom {lineage : Lineage} {scope : MemberScope} {start : Nat}
    {found : Found} (present : found ∈ lineage.foundFrom scope start) :
    start ≤ found.depth ∧ found.scope = scope := by
  induction lineage generalizing start with
  | root own =>
      have place := Declaration.mem_found_iff.mp present
      exact ⟨Nat.le_of_eq place.2.2.1.symm, place.2.1⟩
  | child own upcast parent inductionHypothesis =>
      rw [foundFrom_child, List.mem_append] at present
      rcases present with own | inherited
      · have place := Declaration.mem_found_iff.mp own
        exact ⟨Nat.le_of_eq place.2.2.1.symm, place.2.1⟩
      · have further := inductionHypothesis inherited
        exact ⟨by omega, further.2⟩

theorem pairwise_foundFrom (lineage : Lineage) (scope : MemberScope) (start : Nat) :
    (lineage.foundFrom scope start).Pairwise Found.Before := by
  induction lineage generalizing start with
  | root own => exact own.pairwise_found scope start
  | child own upcast parent inductionHypothesis =>
      rw [foundFrom_child, List.pairwise_append]
      refine ⟨own.pairwise_found scope start, inductionHypothesis (start + 1), ?_⟩
      intro first ownFirst second inherited
      have place := Declaration.mem_found_iff.mp ownFirst
      have further := depth_le_of_mem_foundFrom inherited
      exact Or.inr ⟨place.2.1.trans further.2.symm, Or.inl (by omega)⟩

end Lineage

namespace Injector

variable {injector : Injector} {filter? : Option TypeFilter} {lineage : Lineage}
  {bindings : List Binding}

theorem pairwise_taken (injector : Injector) (filter? : Option TypeFilter) (lineage : Lineage)
    (scope : MemberScope) : (injector.taken filter? lineage scope).Pairwise Found.Before := by
  rw [← candidates_scanner]
  exact (lineage.pairwise_foundFrom scope 0).filter _

theorem pairwise_takenAll (injector : Injector) (filter? : Option TypeFilter)
    (lineage : Lineage) : (injector.takenAll filter? lineage).Pairwise Found.Before := by
  unfold takenAll
  rw [List.pairwise_append]
  refine ⟨pairwise_taken injector filter? lineage .fields,
    pairwise_taken injector filter? lineage .setters, ?_⟩
  intro field fieldTaken setter setterTaken
  have fieldScope := (Lineage.mem_found_iff.mp (mem_taken_iff.mp fieldTaken).1).2.1
  have setterScope := (Lineage.mem_found_iff.mp (mem_taken_iff.mp setterTaken).1).2.1
  exact Or.inl ⟨fieldScope, setterScope⟩

/-- The entries of a plan stand in the order of their places. -/
theorem pairwise_before_of_planned
    (planned : (injector.plan lineage filter?).result = .ok bindings) :
    bindings.Pairwise fun first second => first.found.Before second.found := by
  obtain ⟨-, -, named, -⟩ := result_plan_eq_ok_iff.mp planned
  rw [← List.pairwise_map, Binding.map_found_of_resolveAll named]
  exact pairwise_takenAll injector filter? lineage

/-- Nothing is planned twice. -/
theorem nodup_of_planned (planned : (injector.plan lineage filter?).result = .ok bindings) :
    bindings.Nodup :=
  (pairwise_before_of_planned planned).imp fun before same =>
    before.place_ne (congrArg (fun binding => binding.found.place) same)

end Injector

end Wiring
