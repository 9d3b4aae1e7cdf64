import Wiring.Injection.Plan
import Wiring.Proofs.Lineage.Levels
import Wiring.Proofs.Match.Scan
import Wiring.Proofs.Name.Clash
import Wiring.Proofs.Name.Resolution

/-!
# The answers of plans

The answer of a plan depends on two lists only: the fields and the setters that the
injector takes along the chain.  This file gives both lists without the scans that
collect them, and says when a plan succeeds and with which bindings.
-/

namespace Wiring.Injector

variable {injector : Injector} {filter? : Option TypeFilter} {lineage : Lineage}
  {scope : MemberScope} {root : String} {members : List Found} {bindings : List Binding}

/-- The member carries a marker of the injector's kind and passes the filter. -/
def takes (injector : Injector) (filter? : Option TypeFilter) (member : Member) : Bool :=
  (member.markers.any fun marker => marker.isOf injector.marker) &&
    filter?.all fun filter => filter.accepts member.valueType

/-- What the injector takes from one of the two lists of every level, own level first,
in the order of declaration, and each member under the number of its level. -/
def taken (injector : Injector) (filter? : Option TypeFilter) (lineage : Lineage)
    (scope : MemberScope) : List Found :=
  (lineage.levels.mapIdx fun depth declaration =>
    (declaration.found scope depth).filter fun found =>
      injector.takes filter? found.member).flatten

/-- Everything that the injector takes, fields before setters. -/
def takenAll (injector : Injector) (filter? : Option TypeFilter) (lineage : Lineage) :
    List Found :=
  injector.taken filter? lineage .fields ++ injector.taken filter? lineage .setters

/-- An injector takes marked members only. -/
theorem markers_ne_nil_of_takes {member : Member}
    (takes : injector.takes filter? member = true) : member.markers ≠ [] := by
  intro unmarked
  simp [Injector.takes, unmarked] at takes

theorem accepts_scanner (injector : Injector) (filter? : Option TypeFilter)
    (scope : MemberScope) : (injector.scanner filter? scope).accepts = injector.takes filter? := by
  funext member
  have marked : member.hasMarker injector.marker =
      member.markers.any fun marker => marker.isOf injector.marker := by
    rw [Bool.eq_iff_iff, Member.hasMarker_iff, List.any_eq_true]
  change (member.hasMarker injector.marker && _) = _
  rw [marked]
  rfl

theorem candidates_scanner (injector : Injector) (filter? : Option TypeFilter)
    (lineage : Lineage) (scope : MemberScope) :
    (injector.scanner filter? scope).candidates lineage =
      injector.taken filter? lineage scope := by
  unfold Scanner.candidates taken
  rw [accepts_scanner, Lineage.found_eq_flatten, List.filter_flatten]
  simp only [List.mapIdx_eq_zipIdx_map, List.map_map]
  rfl

theorem mem_taken_iff {found : Found} :
    found ∈ injector.taken filter? lineage scope ↔
      found ∈ lineage.found scope ∧ injector.takes filter? found.member = true := by
  rw [← candidates_scanner, ← accepts_scanner injector filter? scope]
  exact List.mem_filter

/-- The set that the scan of a scope accepts is not checked any further. -/
theorem result_discover_scanner (injector : Injector) (filter? : Option TypeFilter)
    (lineage : Lineage) (scope : MemberScope) :
    ((injector.scanner filter? scope).discover (some lineage)).result =
      ((injector.scanner filter? scope).checkAll
        (injector.taken filter? lineage scope)).result.map fun _ =>
          ⟨some lineage.name, injector.taken filter? lineage scope⟩ := by
  rw [Scanner.result_discover, candidates_scanner]
  cases ((injector.scanner filter? scope).checkAll _).result <;> rfl

/-- Fields are checked before setters, and both before anything else. -/
theorem result_plan (injector : Injector) (lineage : Lineage) (filter? : Option TypeFilter) :
    (injector.plan lineage filter?).result =
      ((injector.scanner filter? .fields).checkAll
        (injector.taken filter? lineage .fields)).result.bind fun _ =>
          ((injector.scanner filter? .setters).checkAll
            (injector.taken filter? lineage .setters)).result.bind fun _ =>
              injector.arrange lineage.name filter? (injector.takenAll filter? lineage) := by
  unfold plan
  rw [Pass.result_bind, result_discover_scanner]
  cases ((injector.scanner filter? .fields).checkAll _).result with
  | error error => rfl
  | ok _ =>
      simp only [Except.map, Except.bind]
      rw [Pass.result_bind, result_discover_scanner]
      cases ((injector.scanner filter? .setters).checkAll _).result with
      | error error => rfl
      | ok _ => rfl

theorem checkPresence_eq_ok_iff :
    injector.checkPresence root filter? members = .ok () ↔
      (injector.config.requireMatch = true → members ≠ []) := by
  unfold checkPresence
  cases injector.config.requireMatch <;> cases members <;> simp

theorem checkDistinct_eq_ok_iff :
    injector.checkDistinct bindings = .ok () ↔
      (injector.config.distinctNames = true → Binding.Distinct bindings) := by
  unfold checkDistinct
  cases injector.config.distinctNames <;> simp [Binding.ensureDistinct_eq_ok_iff]

/-- What is arranged is asked for, named and, where that is demanded, distinct. -/
theorem arrange_eq_ok_iff :
    injector.arrange root filter? members = .ok bindings ↔
      (injector.config.requireMatch = true → members ≠ []) ∧
        Binding.resolveAll injector.naming.resolve members = .ok bindings ∧
          (injector.config.distinctNames = true → Binding.Distinct bindings) := by
  rw [← @checkPresence_eq_ok_iff injector filter? root, ← checkDistinct_eq_ok_iff]
  unfold arrange
  cases injector.checkPresence root filter? members with
  | error error => simp [bind, Except.bind]
  | ok _ =>
      cases named : Binding.resolveAll injector.naming.resolve members with
      | error error => simp [bind, Except.bind]
      | ok others =>
          change ((injector.checkDistinct others).bind fun _ => .ok others) = .ok bindings ↔ _
          simp only [true_and, Except.ok.injEq]
          constructor
          · intro success
            cases distinct : injector.checkDistinct others with
            | error error => simp [distinct, Except.bind] at success
            | ok _ =>
                simp only [distinct, Except.bind, Except.ok.injEq] at success
                subst success
                exact ⟨rfl, distinct⟩
          · rintro ⟨rfl, distinct⟩
            rw [distinct]
            rfl

/-- A check of the structural rules refuses exactly the members that break one. -/
theorem refuses_scanner_iff {found : Found} :
    (injector.scanner filter? scope).Refuses found ↔ found.member.violation? ≠ none := by
  rw [← not_iff_not, Scanner.not_refuses_iff, not_not]
  exact Rules.checkStructure_eq_ok_iff

theorem result_checkAll_scanner_eq_ok_iff :
    ((injector.scanner filter? scope).checkAll members).result = .ok () ↔
      ∀ found ∈ members, found.member.violation? = none := by
  rw [Scanner.result_checkAll_eq_ok_iff]
  exact forall₂_congr fun _ _ => Rules.checkStructure_eq_ok_iff

/-- A plan succeeds when everything that is taken may be bound and can be named, and
it binds exactly that. -/
theorem result_plan_eq_ok_iff :
    (injector.plan lineage filter?).result = .ok bindings ↔
      (∀ found ∈ injector.takenAll filter? lineage, found.member.violation? = none) ∧
        (injector.config.requireMatch = true → injector.takenAll filter? lineage ≠ []) ∧
          Binding.resolveAll injector.naming.resolve (injector.takenAll filter? lineage) =
              .ok bindings ∧
            (injector.config.distinctNames = true → Binding.Distinct bindings) := by
  rw [result_plan, ← @arrange_eq_ok_iff injector filter? lineage.name]
  unfold takenAll
  rw [List.forall_mem_append, ← @result_checkAll_scanner_eq_ok_iff injector filter? .fields,
    ← @result_checkAll_scanner_eq_ok_iff injector filter? .setters]
  cases ((injector.scanner filter? .fields).checkAll _).result with
  | error error => simp [Except.bind]
  | ok _ =>
      cases ((injector.scanner filter? .setters).checkAll _).result with
      | error error => simp [Except.bind]
      | ok _ => simp [Except.bind]

end Wiring.Injector
