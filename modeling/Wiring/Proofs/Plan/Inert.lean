import Wiring.Proofs.Plan.View

/-!
# Plans without accessors and upcasts

A plan is made from declarations alone.  Where every accessor and every way to a parent is
taken out of a type, the plan fails as it did before, or else lists the same members under
the same names: nothing that was taken out is asked for anything.
-/

namespace Wiring

/-- The member without the way to bind it. -/
def Member.inert (member : Member) : Member :=
  { member with accessor? := none }

/-- The declaration with members that cannot be bound. -/
def Declaration.inert (declaration : Declaration) : Declaration :=
  { declaration with
    fields := declaration.fields.map Member.inert
    setters := declaration.setters.map Member.inert }

/-- The type as it is declared, with nothing in it that could be called. -/
def Lineage.inert : Lineage → Lineage
  | root own => root own.inert
  | child own _ parent => child own.inert Upcast.nowhere parent.inert

/-- The same find in the type as it is declared. -/
def Found.inert (found : Found) : Found :=
  { found with declaring := found.declaring.inert, member := found.member.inert }

/-- The same binding in the type as it is declared. -/
def Binding.inert (binding : Binding) : Binding :=
  { binding with found := binding.found.inert }

theorem Declaration.members_inert (declaration : Declaration) (scope : MemberScope) :
    declaration.inert.members scope = (declaration.members scope).map Member.inert := by
  cases scope <;> rfl

theorem Declaration.found_inert (declaration : Declaration) (scope : MemberScope)
    (depth : Nat) :
    declaration.inert.found scope depth = (declaration.found scope depth).map Found.inert := by
  unfold found
  rw [members_inert, List.mapIdx_eq_zipIdx_map, List.mapIdx_eq_zipIdx_map, List.zipIdx_map,
    List.map_map, List.map_map]
  rfl

namespace Lineage

@[simp]
theorem name_inert (lineage : Lineage) : lineage.inert.name = lineage.name := by
  cases lineage <;> rfl

theorem foundFrom_inert (lineage : Lineage) (scope : MemberScope) (start : Nat) :
    lineage.inert.foundFrom scope start = (lineage.foundFrom scope start).map Found.inert := by
  induction lineage generalizing start with
  | root own => exact own.found_inert scope start
  | child own upcast parent inductionHypothesis =>
      rw [foundFrom_child, List.map_append, ← inductionHypothesis, ← own.found_inert]
      rfl

end Lineage

theorem Binding.resolveAll_inert {resolve : Found → Except DiscoveryError BindingName}
    (alike : ∀ found : Found, resolve found.inert = resolve found) (members : List Found) :
    resolveAll resolve (members.map Found.inert) =
      (resolveAll resolve members).map (List.map Binding.inert) := by
  induction members with
  | nil => rfl
  | cons head rest inductionHypothesis =>
      rw [List.map_cons, resolveAll_cons, resolveAll_cons, alike, inductionHypothesis]
      cases resolve head with
      | error error => rfl
      | ok name => cases resolveAll resolve rest <;> rfl

theorem Binding.ensureDistinct_inert (bindings : List Binding) :
    ensureDistinct (bindings.map Binding.inert) = ensureDistinct bindings := by
  apply ensureDistinct_congr
  rw [List.forall₂_map_left_iff, List.forall₂_same]
  intro binding _
  exact ⟨rfl, rfl⟩

namespace Injector

variable (injector : Injector) (lineage : Lineage) (filter? : Option TypeFilter)

theorem taken_inert (scope : MemberScope) :
    injector.taken filter? lineage.inert scope =
      (injector.taken filter? lineage scope).map Found.inert := by
  rw [← candidates_scanner, ← candidates_scanner]
  unfold Scanner.candidates Lineage.found
  rw [Lineage.foundFrom_inert, List.filter_map]
  rfl

theorem arrange_inert (root : String) (members : List Found) :
    injector.arrange root filter? (members.map Found.inert) =
      (injector.arrange root filter? members).map (List.map Binding.inert) := by
  have presence : injector.checkPresence root filter? (members.map Found.inert) =
      injector.checkPresence root filter? members := by
    unfold checkPresence
    rw [List.isEmpty_map]
  unfold arrange
  rw [presence, Binding.resolveAll_inert fun found => rfl]
  cases injector.checkPresence root filter? members with
  | error error => rfl
  | ok _ =>
      cases Binding.resolveAll injector.naming.resolve members with
      | error error => rfl
      | ok bindings =>
          have distinct : injector.checkDistinct (bindings.map Binding.inert) =
              injector.checkDistinct bindings := by
            unfold checkDistinct
            rw [Binding.ensureDistinct_inert]
          change ((injector.checkDistinct (bindings.map Binding.inert)).bind fun _ => .ok _) =
            ((injector.checkDistinct bindings).bind fun _ => .ok _).map _
          rw [distinct]
          cases injector.checkDistinct bindings <;> rfl

/-- The plan for the type as it is declared is the plan for the type. -/
theorem result_plan_inert :
    (injector.plan lineage.inert filter?).result =
      (injector.plan lineage filter?).result.map (List.map Binding.inert) := by
  have checks : ∀ scope,
      ((injector.scanner filter? scope).checkAll
          (injector.taken filter? lineage.inert scope)).result =
        ((injector.scanner filter? scope).checkAll
          (injector.taken filter? lineage scope)).result := by
    intro scope
    rw [taken_inert]
    exact @Scanner.result_checkAll_map _ Found.inert (fun _ => rfl) _
  have all : injector.takenAll filter? lineage.inert =
      (injector.takenAll filter? lineage).map Found.inert := by
    unfold takenAll
    rw [taken_inert, taken_inert, List.map_append]
  rw [result_plan, result_plan, checks, checks, all, Lineage.name_inert, arrange_inert]
  cases ((injector.scanner filter? .fields).checkAll _).result with
  | error error => rfl
  | ok _ => cases ((injector.scanner filter? .setters).checkAll _).result <;> rfl

end Injector

end Wiring
