import Wiring.Match.Naming
import Wiring.Proofs.First

/-!
# Naming a list of members

Members are named one by one, so that a list can be named exactly when each of its
members can.  Leaving members out, or finding them at other depths, takes the same
bindings out of the result and changes none of the remaining names.
-/

namespace Wiring

/-- No name can be found for the member. -/
def Unnamed (resolve : Found → Except DiscoveryError BindingName) (found : Found) : Prop :=
  ∃ error, resolve found = .error error

/-- The depth of a find plays no part in its name, nor does its position. -/
theorem Naming.resolve_congr (naming : Naming) {found other : Found}
    (sameDeclaring : other.declaring = found.declaring) (sameMember : other.member = found.member) :
    naming.resolve other = naming.resolve found := by
  unfold Naming.resolve Naming.derivedName Naming.resolve.nonempty
  simp only [Found.owner, Found.ident, sameDeclaring, sameMember]

namespace Naming

variable {naming : Naming} {found : Found} {name : String} {error : DiscoveryError}

theorem nonempty_error (failed : resolve.nonempty found name = .error error) :
    error = .emptyBindingName found.owner found.ident found.member.kind := by
  unfold resolve.nonempty at failed
  cases checked : BindingName.ofText? name with
  | some name => simp [checked] at failed
  | none =>
      rw [checked] at failed
      exact (Except.error.inj failed).symm

/-- Only the name of a setter has to follow a convention. -/
theorem derivedName_error (failed : naming.derivedName found = .error error) :
    ∃ reason, error = .namingConvention found.owner found.ident naming.setterPrefix reason := by
  unfold derivedName at failed
  cases kind : found.member.kind with
  | field => simp [kind] at failed
  | setter =>
      rw [kind] at failed
      cases property : SetterName.property found.ident naming.setterPrefix
          naming.snakeCaseSetters with
      | ok name =>
          rw [property] at failed
          contradiction
      | error reason =>
          rw [property] at failed
          exact ⟨reason, (Except.error.inj failed).symm⟩

/-- A member without a name breaks the convention for setters or would be bound under an
empty name. -/
theorem resolve_error (naming : Naming) (failed : naming.resolve found = .error error) :
    error = .emptyBindingName found.owner found.ident found.member.kind ∨
      ∃ reason,
        error = .namingConvention found.owner found.ident naming.setterPrefix reason := by
  unfold resolve at failed
  cases explicit : naming.explicitName? found.member with
  | some name =>
      rw [explicit] at failed
      exact Or.inl (nonempty_error failed)
  | none =>
      rw [explicit] at failed
      cases derived : naming.derivedName found with
      | ok name =>
          rw [derived] at failed
          exact Or.inl (nonempty_error failed)
      | error cause =>
          rw [derived] at failed
          rw [← Except.error.inj failed]
          exact Or.inr (derivedName_error derived)

end Naming

namespace Binding

variable {resolve : Found → Except DiscoveryError BindingName} {select : Found → Option Found}
  {members : List Found} {bindings : List Binding} {found : Found} {error : DiscoveryError}

/-- The binding of a selected member, under the name that it had. -/
def select? (select : Found → Option Found) (binding : Binding) : Option Binding :=
  (select binding.found).map fun found => ⟨found, binding.name⟩

theorem select?_eq_some_iff {binding chosen : Binding} :
    binding.select? select = some chosen ↔
      select binding.found = some chosen.found ∧ chosen.name = binding.name := by
  unfold select?
  rw [Option.map_eq_some_iff]
  constructor
  · rintro ⟨found, selected, rfl⟩
    exact ⟨selected, rfl⟩
  · rintro ⟨selected, sameName⟩
    exact ⟨chosen.found, selected, by rw [← sameName]⟩

theorem resolveAll_cons (resolve : Found → Except DiscoveryError BindingName) (found : Found)
    (rest : List Found) :
    resolveAll resolve (found :: rest) =
      (resolve found).bind fun name => (resolveAll resolve rest).map (⟨found, name⟩ :: ·) := by
  rw [resolveAll]
  cases resolve found with
  | error error => rfl
  | ok name => cases resolveAll resolve rest <;> rfl

/-- A list is named exactly when each of its members is. -/
theorem resolveAll_eq_ok_iff :
    resolveAll resolve members = .ok bindings ↔
      bindings.map (·.found) = members ∧
        ∀ binding ∈ bindings, resolve binding.found = .ok binding.name := by
  induction members generalizing bindings with
  | nil => cases bindings <;> simp
  | cons head rest inductionHypothesis =>
      rw [resolveAll_cons]
      constructor
      · intro success
        cases named : resolve head with
        | error error => simp [named, Except.bind] at success
        | ok name =>
            cases restNamed : resolveAll resolve rest with
            | error error => simp [named, restNamed, Except.bind, Except.map] at success
            | ok others =>
                simp only [named, restNamed, Except.bind, Except.map, Except.ok.injEq] at success
                rcases inductionHypothesis.mp restNamed with ⟨listed, resolved⟩
                subst success
                refine ⟨by simp [listed], ?_⟩
                intro binding present
                rcases List.mem_cons.mp present with rfl | present
                · exact named
                · exact resolved binding present
      · rintro ⟨listed, resolved⟩
        rcases List.map_eq_cons_iff.mp listed with ⟨binding, others, rfl, rfl, rfl⟩
        have restNamed := inductionHypothesis.mpr
          ⟨rfl, fun other present => resolved other (List.mem_cons_of_mem binding present)⟩
        rw [resolved binding List.mem_cons_self, restNamed]
        rfl

/-- The first member without a name decides how the naming fails. -/
theorem resolveAll_of_first (first : First (Unnamed resolve) members found)
    (failed : resolve found = .error error) : resolveAll resolve members = .error error := by
  induction members with
  | nil => exact absurd first First.not_nil
  | cons head rest inductionHypothesis =>
      rw [resolveAll_cons]
      rcases First.cons_iff.mp first with ⟨-, rfl⟩ | ⟨named, later⟩
      · rw [failed]
        rfl
      · cases headName : resolve head with
        | error other => exact absurd ⟨other, headName⟩ named
        | ok name =>
            rw [inductionHypothesis later]
            rfl

/-- A list in which every member has a name is named. -/
theorem exists_resolveAll (named : ∀ found ∈ members, ¬ Unnamed resolve found) :
    ∃ bindings, resolveAll resolve members = .ok bindings := by
  induction members with
  | nil => exact ⟨[], rfl⟩
  | cons head rest inductionHypothesis =>
      rcases inductionHypothesis fun found present =>
        named found (List.mem_cons_of_mem head present) with ⟨bindings, restNamed⟩
      cases headName : resolve head with
      | error error => exact absurd ⟨error, headName⟩ (named head List.mem_cons_self)
      | ok name =>
          refine ⟨⟨head, name⟩ :: bindings, ?_⟩
          rw [resolveAll_cons, headName, restNamed]
          rfl

/-- Naming commutes with any selection that keeps the names. -/
theorem resolveAll_filterMap
    (kept : ∀ found chosen, select found = some chosen → resolve chosen = resolve found)
    (named : resolveAll resolve members = .ok bindings) :
    resolveAll resolve (members.filterMap select) = .ok (bindings.filterMap (select? select)) := by
  rcases resolveAll_eq_ok_iff.mp named with ⟨rfl, resolved⟩
  refine resolveAll_eq_ok_iff.mpr ⟨?_, ?_⟩
  · rw [List.map_filterMap, List.filterMap_map]
    congr 1
    funext binding
    simp [select?, Function.comp_def]
  · intro chosen present
    rcases List.mem_filterMap.mp present with ⟨binding, bindingMem, selected⟩
    rcases select?_eq_some_iff.mp selected with ⟨selectedFound, sameName⟩
    rw [kept _ _ selectedFound, sameName]
    exact resolved binding bindingMem

end Binding

end Wiring
