import Wiring.Proofs.Plan.View
import Wiring.Proofs.Sample

/-!
# Distinct names of a scan and of a plan

A scan may be asked to refuse a set in which two members share a name, and a plan may be
asked for the same.  The scan compares the names of one scope, right after it has checked
that scope.  The plan compares the names of both scopes, once everything is checked and
named.  So the scans fail in another order, and each by itself misses a name that a field
shares with a setter.  That is all they miss.
-/

namespace Wiring

namespace Binding

variable {resolve : Found → Except DiscoveryError BindingName} {members others : List Found}
  {bindings left right : List Binding} {name : BindingName}

/-- Two lists together have distinct names if each has, and they share none. -/
theorem distinct_append_iff :
    Distinct (left ++ right) ↔
      Distinct left ∧ Distinct right ∧
        ∀ first ∈ left, ∀ second ∈ right, first.name ≠ second.name := by
  unfold Distinct
  rw [List.map_append, List.nodup_append]
  simp only [List.forall_mem_map]

/-- Two lists are named together exactly when each can be named by itself, and then as they
are by themselves. -/
theorem resolveAll_append_eq_ok_iff :
    resolveAll resolve (members ++ others) = .ok bindings ↔
      ∃ left right, resolveAll resolve members = .ok left ∧
        resolveAll resolve others = .ok right ∧ bindings = left ++ right := by
  constructor
  · intro named
    rcases resolveAll_eq_ok_iff.mp named with ⟨listed, resolved⟩
    rcases List.map_eq_append_iff.mp listed with ⟨left, right, rfl, rfl, rfl⟩
    have both := List.forall_mem_append.mp resolved
    exact ⟨left, right, resolveAll_eq_ok_iff.mpr ⟨rfl, both.1⟩,
      resolveAll_eq_ok_iff.mpr ⟨rfl, both.2⟩, rfl⟩
  · rintro ⟨left, right, leftNamed, rightNamed, rfl⟩
    rcases resolveAll_eq_ok_iff.mp leftNamed with ⟨rfl, leftResolved⟩
    rcases resolveAll_eq_ok_iff.mp rightNamed with ⟨rfl, rightResolved⟩
    exact resolveAll_eq_ok_iff.mpr
      ⟨List.map_append, List.forall_mem_append.mpr ⟨leftResolved, rightResolved⟩⟩

end Binding

/-- A member of the list is bound under the name. -/
def Naming.Uses (naming : Naming) (members : List Found) (name : BindingName) : Prop :=
  ∃ found ∈ members, naming.resolve found = .ok name

theorem Naming.uses_iff {naming : Naming} {members : List Found} {bindings : List Binding}
    {name : BindingName} (named : Binding.resolveAll naming.resolve members = .ok bindings) :
    naming.Uses members name ↔ ∃ binding ∈ bindings, binding.name = name := by
  rcases Binding.resolveAll_eq_ok_iff.mp named with ⟨rfl, resolved⟩
  constructor
  · rintro ⟨found, present, named⟩
    rcases List.mem_map.mp present with ⟨binding, bindingMem, rfl⟩
    rw [resolved binding bindingMem] at named
    exact ⟨binding, bindingMem, Except.ok.inj named⟩
  · rintro ⟨binding, bindingMem, rfl⟩
    exact ⟨binding.found, List.mem_map_of_mem bindingMem, resolved binding bindingMem⟩

/-- No name is used in both lists. -/
def Naming.Apart (naming : Naming) (members others : List Found) : Prop :=
  ∀ name, naming.Uses members name → ¬ naming.Uses others name

theorem Naming.apart_iff {naming : Naming} {members others : List Found}
    {left right : List Binding} (leftNamed : Binding.resolveAll naming.resolve members = .ok left)
    (rightNamed : Binding.resolveAll naming.resolve others = .ok right) :
    naming.Apart members others ↔
      ∀ first ∈ left, ∀ second ∈ right, first.name ≠ second.name := by
  unfold Apart
  simp only [uses_iff leftNamed, uses_iff rightNamed]
  constructor
  · intro apart first firstMem second secondMem same
    exact apart first.name ⟨first, firstMem, rfl⟩ ⟨second, secondMem, same.symm⟩
  · rintro apart name ⟨first, firstMem, rfl⟩ ⟨second, secondMem, same⟩
    exact apart first firstMem second secondMem same.symm

/-! ## Scans that compare names -/

/-- The rule of distinct names comes after the rules that it is laid on. -/
theorem Rules.checkSet_withDistinctNames_eq_ok_iff {rules : Rules}
    {resolve : Found → Except DiscoveryError BindingName} {accepted : MatchSet} :
    (rules.withDistinctNames resolve).checkSet accepted = .ok () ↔
      rules.checkSet accepted = .ok () ∧ ∃ bindings,
        Binding.resolveAll resolve accepted.members = .ok bindings ∧
          Binding.Distinct bindings := by
  unfold withDistinctNames
  cases checked : rules.checkSet accepted with
  | error error => simp [checked, bind, Except.bind]
  | ok _ =>
      cases named : Binding.resolveAll resolve accepted.members with
      | error error => simp [checked, named, bind, Except.bind]
      | ok bindings =>
          simp [checked, named, bind, Except.bind, Binding.ensureDistinct_eq_ok_iff]

/-- The scan of one scope that also refuses a set in which two members share a name. -/
def Scanner.distinct (predicate : MarkerPredicate) (rules : Rules) (naming : Naming)
    (scope : MemberScope) : Scanner where
  scope := scope
  accepts := predicate.accepts
  rules := rules.withDistinctNames naming.resolve

namespace Injector

variable {injector : Injector} {lineage : Lineage} {scope : MemberScope} {accepted : MatchSet}

/-- The scan of one scope with everything that the injector scans, checks and names with, which
compares the names as well. -/
def distinctScan (injector : Injector) (scope : MemberScope) : Scanner :=
  Scanner.distinct ⟨injector.marker, none⟩ (Rules.structural injector.marker false)
    injector.naming scope

/-- Such a scan takes what the injector takes, and succeeds when all of that may be bound and
has names of its own. -/
theorem result_discover_distinctScan_eq_ok_iff :
    ((injector.distinctScan scope).discover (some lineage)).result = .ok accepted ↔
      (∀ found ∈ injector.taken none lineage scope, found.member.violation? = none) ∧
        (∃ bindings, Binding.resolveAll injector.naming.resolve
            (injector.taken none lineage scope) = .ok bindings ∧ Binding.Distinct bindings) ∧
          accepted = ⟨some lineage.name, injector.taken none lineage scope⟩ := by
  have taken : (injector.distinctScan scope).candidates lineage =
      injector.taken none lineage scope := candidates_scanner injector none lineage scope
  have members : ∀ found, (injector.distinctScan scope).rules.checkMember found = .ok () ↔
      found.member.violation? = none := fun _ => Rules.checkStructure_eq_ok_iff
  have set : (Rules.structural injector.marker false).checkSet
      ⟨some lineage.name, injector.taken none lineage scope⟩ = .ok () := rfl
  rw [Scanner.discover_succeeds_iff, taken]
  simp only [members]
  change _ ∧ (Rules.withDistinctNames _ _).checkSet _ = _ ∧ _ ↔ _
  rw [Rules.checkSet_withDistinctNames_eq_ok_iff]
  simp only [set, true_and]

/-- The plan of an injector, told from two scans that compare names by themselves. -/
structure PlansByScans (injector : Injector) (naming : Naming) (scan : MemberScope → Scanner)
    (lineage : Lineage) : Prop where
  /-- The plan succeeds when both scans do and no name is used in both of their sets. -/
  ok_iff : (∃ bindings, (injector.plan lineage none).result = .ok bindings) ↔
    ∃ fields setters, ((scan .fields).discover (some lineage)).result = .ok fields ∧
      ((scan .setters).discover (some lineage)).result = .ok setters ∧
        naming.Apart fields.members setters.members
  /-- It lists what one scan found and then what the other did. -/
  listed : ∀ bindings fields setters, (injector.plan lineage none).result = .ok bindings →
    ((scan .fields).discover (some lineage)).result = .ok fields →
      ((scan .setters).discover (some lineage)).result = .ok setters →
        bindings.map (·.found) = fields.members ++ setters.members
  named : ∀ bindings, (injector.plan lineage none).result = .ok bindings →
    ∀ binding ∈ bindings, naming.resolve binding.found = .ok binding.name
  distinct : ∀ bindings, (injector.plan lineage none).result = .ok bindings →
    Binding.Distinct bindings

variable {bindings : List Binding}

/-- A plan for distinct names names both scopes, each with names of its own that the other does
not use. -/
theorem result_plan_distinct_eq_ok_iff (optional : injector.config.requireMatch = false)
    (demanded : injector.config.distinctNames = true) :
    (injector.plan lineage none).result = .ok bindings ↔
      ∃ fields setters, bindings = fields ++ setters ∧
        ((∀ found ∈ injector.taken none lineage .fields, found.member.violation? = none) ∧
          Binding.resolveAll injector.naming.resolve (injector.taken none lineage .fields) =
            .ok fields ∧ Binding.Distinct fields) ∧
        ((∀ found ∈ injector.taken none lineage .setters, found.member.violation? = none) ∧
          Binding.resolveAll injector.naming.resolve (injector.taken none lineage .setters) =
            .ok setters ∧ Binding.Distinct setters) ∧
        injector.naming.Apart (injector.taken none lineage .fields)
          (injector.taken none lineage .setters) := by
  rw [result_plan_eq_ok_iff, takenAll, List.forall_mem_append,
    Binding.resolveAll_append_eq_ok_iff]
  constructor
  · rintro ⟨⟨soundFields, soundSetters⟩, -, ⟨fields, setters, named, settersNamed, rfl⟩, distinct⟩
    rcases Binding.distinct_append_iff.mp (distinct demanded) with ⟨own, settersOwn, apart⟩
    exact ⟨fields, setters, rfl, ⟨soundFields, named, own⟩,
      ⟨soundSetters, settersNamed, settersOwn⟩, (Naming.apart_iff named settersNamed).mpr apart⟩
  · rintro ⟨fields, setters, rfl, ⟨soundFields, named, own⟩,
      ⟨soundSetters, settersNamed, settersOwn⟩, apart⟩
    have disjoint := (Naming.apart_iff named settersNamed).mp apart
    refine ⟨⟨soundFields, soundSetters⟩, by simp [optional],
      ⟨fields, setters, named, settersNamed, rfl⟩, ?_⟩
    intro _
    exact Binding.distinct_append_iff.mpr ⟨own, settersOwn, disjoint⟩

theorem plansByScans (optional : injector.config.requireMatch = false)
    (demanded : injector.config.distinctNames = true) (lineage : Lineage) :
    injector.PlansByScans injector.naming injector.distinctScan lineage where
  ok_iff := by
    simp only [result_plan_distinct_eq_ok_iff optional demanded,
      result_discover_distinctScan_eq_ok_iff]
    constructor
    · rintro ⟨bindings, fields, setters, rfl, ⟨soundFields, named, own⟩,
        ⟨soundSetters, settersNamed, settersOwn⟩, apart⟩
      exact ⟨_, _, ⟨soundFields, ⟨fields, named, own⟩, rfl⟩,
        ⟨soundSetters, ⟨setters, settersNamed, settersOwn⟩, rfl⟩, apart⟩
    · rintro ⟨_, _, ⟨soundFields, ⟨fields, named, own⟩, rfl⟩,
        ⟨soundSetters, ⟨setters, settersNamed, settersOwn⟩, rfl⟩, apart⟩
      exact ⟨_, fields, setters, rfl, ⟨soundFields, named, own⟩,
        ⟨soundSetters, settersNamed, settersOwn⟩, apart⟩
  listed := by
    intro bindings fields setters planned fieldsFound settersFound
    rcases result_discover_distinctScan_eq_ok_iff.mp fieldsFound with ⟨-, -, rfl⟩
    rcases result_discover_distinctScan_eq_ok_iff.mp settersFound with ⟨-, -, rfl⟩
    rcases result_plan_eq_ok_iff.mp planned with ⟨-, -, named, -⟩
    exact (Binding.resolveAll_eq_ok_iff.mp named).1
  named := by
    intro bindings planned
    rcases result_plan_eq_ok_iff.mp planned with ⟨-, -, named, -⟩
    exact (Binding.resolveAll_eq_ok_iff.mp named).2
  distinct := by
    intro bindings planned
    rcases result_plan_eq_ok_iff.mp planned with ⟨-, -, -, distinct⟩
    exact distinct demanded

/-- An injector that demands distinct names agrees with two scans that do, one for each scope
and made for the same marker and configuration: it plans for a type exactly where both scans
succeed and share no name, it binds what they found, fields first, and under the names that the
resolver gives, which are distinct over both scopes and all levels. -/
theorem plans_as_distinct_scans (spelling : String) (config : Config) (lineage : Lineage)
    (given : spelling ≠ "") (valid : config.validate = .ok ())
    (optional : config.requireMatch = false) (demanded : config.distinctNames = true) :
    ∃ (injector : Injector) (predicate : MarkerPredicate) (rules : Rules) (naming : Naming),
      create spelling config = .ok injector ∧
        MarkerPredicate.create spelling none = .ok predicate ∧
        Rules.createStructural spelling false = .ok rules ∧
        Naming.create spelling config = .ok naming ∧
        injector.PlansByScans naming (Scanner.distinct predicate rules naming) lineage := by
  have made : MadeFor ⟨MarkerKind.fold spelling, config⟩ spelling config :=
    madeFor_of_valid given valid rfl
  exact ⟨_, _, _, _, made.created, made.predicate none, made.rules, made.naming,
    plansByScans optional demanded lineage⟩

end Injector

/-! ## Lanterns with and without a shared name -/

namespace Lantern

open Sample (text marked)

/-- A lantern with a field that goes by the given name, a setter of the given identifier, and a
field on the level above. -/
def lantern (label setter : String) : Lineage :=
  .child
    ⟨1, "Lantern", ⟨"Lantern"⟩,
      [⟨"label", .field, text, {}, [Marker.named "resource" label], none⟩],
      [marked "Resource" .setter setter text]⟩
    Upcast.nowhere
    (.root ⟨0, "Light", ⟨"Light"⟩, [marked "resource" .field "colour" text], []⟩)

def strict : Config := { distinctNames := true }

def strictInjector : Injector := ⟨"resource", strict⟩

/-- A lantern is planned for if its setter goes by another name than its field.  If they share
one, both scans succeed and the plan does not. -/
theorem lanterns_are_planned_if_apart :
    (∃ bindings, (strictInjector.plan (lantern "main" "set_shade") none).result = .ok bindings ∧
        bindings.map (·.found.ident) = ["label", "colour", "set_shade"]) ∧
      (∃ fields setters,
        ((strictInjector.distinctScan .fields).discover
            (some (lantern "main" "set_main"))).result = .ok fields ∧
          ((strictInjector.distinctScan .setters).discover
            (some (lantern "main" "set_main"))).result = .ok setters) ∧
        ¬ ∃ bindings,
          (strictInjector.plan (lantern "main" "set_main") none).result = .ok bindings := by
  have agree : ∀ lineage, strictInjector.PlansByScans strictInjector.naming
      strictInjector.distinctScan lineage := by
    intro lineage
    obtain ⟨injector, predicate, rules, naming, made, predicateMade, rulesMade, namingMade,
      agrees⟩ := Injector.plans_as_distinct_scans "resource" strict lineage (by decide) rfl rfl rfl
    cases made
    cases predicateMade
    cases rulesMade
    cases namingMade
    exact agrees
  refine ⟨?_, ⟨_, _, rfl, rfl⟩, ?_⟩
  · obtain ⟨bindings, planned⟩ := (agree (lantern "main" "set_shade")).ok_iff.mpr
      ⟨_, _, rfl, rfl, (Naming.apart_iff rfl rfl).mpr (by decide)⟩
    have listed := (agree (lantern "main" "set_shade")).listed bindings _ _ planned rfl rfl
    have idents := congrArg (List.map Found.ident) listed
    rw [List.map_map] at idents
    exact ⟨bindings, planned, idents⟩
  · intro planned
    obtain ⟨fields, setters, found, settersFound, apart⟩ :=
      (agree (lantern "main" "set_main")).ok_iff.mp planned
    cases found
    cases settersFound
    exact absurd ((Naming.apart_iff rfl rfl).mp apart) (by decide)

end Lantern

end Wiring
