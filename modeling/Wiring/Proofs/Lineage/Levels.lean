import Wiring.Match.Found

/-!
# Levels of a chain

A find says of itself at which level and position it was declared.  This file
shows that a walk along a chain finds exactly the declared members, each under its
own level and position.
-/

namespace Wiring

variable {lineage : Lineage} {declaration : Declaration} {scope : MemberScope}
  {found : Found} {depth start : Nat}

theorem Declaration.mem_found_iff :
    found ∈ declaration.found scope depth ↔
      found.declaring = declaration ∧ found.scope = scope ∧ found.depth = depth ∧
        (declaration.members scope)[found.index]? = some found.member := by
  unfold Declaration.found
  rw [List.mem_mapIdx]
  constructor
  · rintro ⟨index, bound, rfl⟩
    exact ⟨rfl, rfl, rfl, List.getElem?_eq_getElem bound⟩
  · rintro ⟨rfl, rfl, rfl, declared⟩
    rcases List.getElem?_eq_some_iff.mp declared with ⟨bound, member⟩
    exact ⟨found.index, bound, by rw [member]⟩

/-- The same find, counted from a type that lies some levels further down. -/
def Found.deeper (steps : Nat) (found : Found) : Found :=
  { found with depth := found.depth + steps }

theorem Declaration.found_add (declaration : Declaration) (scope : MemberScope)
    (depth steps : Nat) :
    declaration.found scope (depth + steps) =
      (declaration.found scope depth).map (Found.deeper steps) := by
  simp [Declaration.found, List.mapIdx_eq_zipIdx_map, Found.deeper]

namespace Lineage

/-- A walk that starts further down finds the same members, all of them deeper. -/
theorem foundFrom_add (lineage : Lineage) (scope : MemberScope) (start steps : Nat) :
    lineage.foundFrom scope (start + steps) =
      (lineage.foundFrom scope start).map (Found.deeper steps) := by
  induction lineage generalizing start with
  | root own => exact own.found_add scope start steps
  | child own upcast parent inductionHypothesis =>
      have shift : start + steps + 1 = start + 1 + steps := by omega
      rw [foundFrom_child, foundFrom_child, own.found_add, List.map_append, shift,
        inductionHypothesis]

/-- A type finds its own members first, and then those of its parent one level up. -/
theorem found_child (own : Declaration) (upcast : Upcast) (parent : Lineage)
    (scope : MemberScope) :
    (child own upcast parent).found scope =
      own.found scope 0 ++ (parent.found scope).map (Found.deeper 1) := by
  unfold found
  rw [foundFrom_child, parent.foundFrom_add scope 0 1]

/-- The walk as a table, with one line for each level. -/
theorem foundFrom_eq_flatten (lineage : Lineage) (scope : MemberScope) (start : Nat) :
    lineage.foundFrom scope start =
      (lineage.levels.mapIdx fun depth declaration =>
        declaration.found scope (start + depth)).flatten := by
  induction lineage generalizing start with
  | root own => simp
  | child own upcast parent inductionHypothesis =>
      rw [foundFrom_child, inductionHypothesis, levels_child, List.mapIdx_cons, List.flatten_cons]
      have shift : ∀ depth, start + 1 + depth = start + (depth + 1) := by omega
      simp only [shift, Nat.add_zero]

theorem found_eq_flatten (lineage : Lineage) (scope : MemberScope) :
    lineage.found scope =
      (lineage.levels.mapIdx fun depth declaration => declaration.found scope depth).flatten := by
  unfold found
  rw [foundFrom_eq_flatten]
  simp only [Nat.zero_add]

/-- A find names the level and the position where its member is declared. -/
theorem mem_found_iff :
    found ∈ lineage.found scope ↔
      lineage.levels[found.depth]? = some found.declaring ∧ found.scope = scope ∧
        (found.declaring.members scope)[found.index]? = some found.member := by
  rw [found_eq_flatten, List.mem_flatten]
  constructor
  · rintro ⟨level, listed, present⟩
    rcases List.mem_mapIdx.mp listed with ⟨depth, bound, rfl⟩
    rcases Declaration.mem_found_iff.mp present with ⟨declaring, inScope, rfl, declared⟩
    refine ⟨?_, inScope, ?_⟩
    · rw [declaring]
      exact List.getElem?_eq_getElem bound
    · rw [declaring]
      exact declared
  · rintro ⟨level, inScope, declared⟩
    rcases List.getElem?_eq_some_iff.mp level with ⟨bound, declaring⟩
    refine ⟨found.declaring.found scope found.depth, ?_, ?_⟩
    · exact List.mem_mapIdx.mpr ⟨found.depth, bound, by rw [declaring]⟩
    · exact Declaration.mem_found_iff.mpr ⟨rfl, inScope, rfl, declared⟩

/-- The chain of an ancestor is the rest of the chain, from its own place on. -/
theorem drop_ancestors {ancestor : Lineage} {height : Nat}
    (above : lineage.ancestors[height]? = some ancestor) :
    lineage.ancestors.drop height = ancestor.ancestors := by
  induction lineage generalizing height with
  | root own =>
      cases height with
      | zero => rw [← Option.some.inj above, List.drop_zero]
      | succ height => simp [ancestors] at above
  | child own upcast parent inductionHypothesis =>
      cases height with
      | zero => rw [← Option.some.inj above, List.drop_zero]
      | succ height => exact inductionHypothesis above

theorem types_ne_nil (lineage : Lineage) : lineage.types ≠ [] := by
  cases lineage <;> simp

theorem types_getElem? (lineage : Lineage) (depth : Nat) :
    lineage.types[depth]? = lineage.levels[depth]?.map (·.type) := by
  simp [types]

end Lineage

end Wiring
