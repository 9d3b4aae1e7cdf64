import Wiring.Proofs.Member.Rule
import Wiring.Proofs.Plan.Result

/-!
# Which failure a plan reports

A type may give several causes for a plan to fail.  The verdict on it is stated here
case by case, each case with all that must not have happened before it: a broken rule
among the setters of the last ancestor comes before a name that is missing on the very
first field.  The cases leave nothing out, and the answer of every plan is the verdict.
-/

namespace Wiring

/-- The member breaks one of the structural rules. -/
def Found.Broken (found : Found) : Prop :=
  ∃ constraint : Constraint, constraint.Broken found.member

theorem Found.not_broken_iff {found : Found} :
    ¬ found.Broken ↔ found.member.violation? = none := by
  rw [Member.violation?_eq_none_iff, Broken, not_exists]

namespace Injector

variable {injector : Injector} {lineage : Lineage} {filter? : Option TypeFilter}
  {outcome : Except DiscoveryError (List Binding)}

/-- No member that is taken breaks a rule, and there is one if there has to be. -/
structure Sound (injector : Injector) (lineage : Lineage) (filter? : Option TypeFilter) :
    Prop where
  unbroken : ∀ found ∈ injector.takenAll filter? lineage, ¬ found.Broken
  present : injector.config.requireMatch = true → injector.takenAll filter? lineage ≠ []

/-- The bindings of everything that is taken, in order and each under its name. -/
structure Named (injector : Injector) (lineage : Lineage) (filter? : Option TypeFilter)
    (bindings : List Binding) : Prop where
  listed : bindings.map (·.found) = injector.takenAll filter? lineage
  resolved : ∀ binding ∈ bindings, injector.naming.resolve binding.found = .ok binding.name

/-- The name of the one type that an including filter lets through. -/
def wantedName? : Option TypeFilter → Option String
  | some (.including valueType) => some valueType.name
  | some (.excluding _) => none
  | none => none

/-- The verdict on a type. -/
inductive Verdict (injector : Injector) (lineage : Lineage) (filter? : Option TypeFilter) :
    Except DiscoveryError (List Binding) → Prop where
  | brokenField {found : Found} {constraint : Constraint}
      (first : First Found.Broken (injector.taken filter? lineage .fields) found)
      (rule : First (Constraint.Broken found.member) Constraint.all constraint) :
      Verdict injector lineage filter?
        (.error (.structural found.owner found.ident found.member.kind injector.marker
          constraint))
  | brokenSetter {found : Found} {constraint : Constraint}
      (fields : ∀ field ∈ injector.taken filter? lineage .fields, ¬ field.Broken)
      (first : First Found.Broken (injector.taken filter? lineage .setters) found)
      (rule : First (Constraint.Broken found.member) Constraint.all constraint) :
      Verdict injector lineage filter?
        (.error (.structural found.owner found.ident found.member.kind injector.marker
          constraint))
  | nothing (required : injector.config.requireMatch = true)
      (empty : injector.takenAll filter? lineage = []) :
      Verdict injector lineage filter?
        (.error (.emptyMatchSet lineage.name injector.marker (wantedName? filter?)))
  | unnamed {found : Found} {error : DiscoveryError}
      (sound : injector.Sound lineage filter?)
      (first : First (Unnamed injector.naming.resolve) (injector.takenAll filter? lineage) found)
      (failed : injector.naming.resolve found = .error error) :
      Verdict injector lineage filter? (.error error)
  | clash {bindings : List Binding} {first second : Binding}
      (sound : injector.Sound lineage filter?)
      (named : injector.Named lineage filter? bindings)
      (demanded : injector.config.distinctNames = true)
      (clashes : Binding.Clashes bindings first second) :
      Verdict injector lineage filter?
        (.error (.duplicateBindingName second.name.text first.found.qualifiedName
          second.found.qualifiedName))
  | planned {bindings : List Binding}
      (sound : injector.Sound lineage filter?)
      (named : injector.Named lineage filter? bindings)
      (distinct : injector.config.distinctNames = true → Binding.Distinct bindings) :
      Verdict injector lineage filter? (.ok bindings)

theorem named_iff {bindings : List Binding} :
    injector.Named lineage filter? bindings ↔
      Binding.resolveAll injector.naming.resolve (injector.takenAll filter? lineage) =
        .ok bindings := by
  rw [Binding.resolveAll_eq_ok_iff]
  constructor
  · intro named
    exact ⟨named.listed, named.resolved⟩
  · rintro ⟨listed, resolved⟩
    exact ⟨listed, resolved⟩

/-- The checks of one scope report the first member that breaks a rule. -/
theorem result_checkAll_scanner_of_first {scope : MemberScope} {members : List Found}
    {found : Found} {constraint : Constraint} (first : First Found.Broken members found)
    (rule : First (Constraint.Broken found.member) Constraint.all constraint) :
    ((injector.scanner filter? scope).checkAll members).result =
      .error (.structural found.owner found.ident found.member.kind injector.marker
        constraint) := by
  have refused : First (injector.scanner filter? scope).Refuses members found := by
    apply first.congr
    intro found
    rw [refuses_scanner_iff, Ne, ← Found.not_broken_iff, not_not]
  rw [Scanner.result_checkAll_of_first refused]
  change Rules.checkStructure injector.marker found = _
  unfold Rules.checkStructure
  rw [Member.violation?_eq_some_iff.mpr rule]

theorem result_checkAll_scanner_of_unbroken {scope : MemberScope} {members : List Found}
    (unbroken : ∀ found ∈ members, ¬ found.Broken) :
    ((injector.scanner filter? scope).checkAll members).result = .ok () := by
  rw [result_checkAll_scanner_eq_ok_iff]
  intro found present
  exact Found.not_broken_iff.mp (unbroken found present)

/-- Once the scans have found no broken rule, the rest is up to the arrangement. -/
theorem result_plan_of_unbroken
    (unbroken : ∀ found ∈ injector.takenAll filter? lineage, ¬ found.Broken) :
    (injector.plan lineage filter?).result =
      injector.arrange lineage.name filter? (injector.takenAll filter? lineage) := by
  rcases List.forall_mem_append.mp unbroken with ⟨fields, setters⟩
  rw [result_plan, result_checkAll_scanner_of_unbroken fields,
    result_checkAll_scanner_of_unbroken setters]
  rfl

theorem Sound.result_plan (sound : injector.Sound lineage filter?) :
    (injector.plan lineage filter?).result =
      (Binding.resolveAll injector.naming.resolve (injector.takenAll filter? lineage)).bind
        fun bindings => (injector.checkDistinct bindings).map fun _ => bindings := by
  rw [result_plan_of_unbroken sound.unbroken]
  unfold arrange
  rw [checkPresence_eq_ok_iff.mpr sound.present]
  cases Binding.resolveAll injector.naming.resolve (injector.takenAll filter? lineage) with
  | error error => rfl
  | ok bindings =>
      change ((injector.checkDistinct bindings).bind fun _ => .ok bindings) = _
      simp only [Except.bind]
      cases injector.checkDistinct bindings <;> rfl

/-- What the verdict is, the plan answers. -/
theorem Verdict.result_plan (verdict : injector.Verdict lineage filter? outcome) :
    (injector.plan lineage filter?).result = outcome := by
  cases verdict with
  | brokenField first rule =>
      rw [Injector.result_plan, result_checkAll_scanner_of_first first rule]
      rfl
  | brokenSetter fields first rule =>
      rw [Injector.result_plan, result_checkAll_scanner_of_unbroken fields,
        result_checkAll_scanner_of_first first rule]
      rfl
  | nothing required empty =>
      have unbroken : ∀ found ∈ injector.takenAll filter? lineage, ¬ found.Broken := by
        simp [empty]
      rw [result_plan_of_unbroken unbroken, empty]
      have wanted : (filter?.bind TypeFilter.included?).map ValueType.name =
          wantedName? filter? := by
        rcases filter? with - | - | - <;> rfl
      simp [arrange, checkPresence, required, wanted, bind, Except.bind]
  | unnamed sound first failed =>
      rw [sound.result_plan, Binding.resolveAll_of_first first failed]
      rfl
  | clash sound named demanded clashes =>
      rw [sound.result_plan, named_iff.mp named]
      simp [Except.bind, checkDistinct, demanded, Binding.ensureDistinct,
        Binding.clash?_eq_some_iff.mpr clashes, Except.map]
  | planned sound named distinct =>
      rw [sound.result_plan, named_iff.mp named]
      simp [Except.bind, checkDistinct_eq_ok_iff.mpr distinct, Except.map]

/-- Some rule of a broken member is the first that it breaks. -/
theorem exists_first_rule {found : Found} (broken : found.Broken) :
    ∃ constraint, First (Constraint.Broken found.member) Constraint.all constraint := by
  rcases exists_first_or_forall_not (Constraint.Broken found.member) Constraint.all with
    reported | kept
  · exact reported
  · rcases broken with ⟨constraint, breaks⟩
    exact absurd breaks (kept constraint constraint.mem_all)

/-- A sound type is planned, or else names are missing or clash. -/
theorem Sound.exists_verdict (sound : injector.Sound lineage filter?) :
    ∃ outcome, injector.Verdict lineage filter? outcome := by
  rcases exists_first_or_forall_not (Unnamed injector.naming.resolve)
      (injector.takenAll filter? lineage) with ⟨found, first⟩ | resolvable
  · rcases first.holds with ⟨error, failed⟩
    exact ⟨.error error, .unnamed sound first failed⟩
  · obtain ⟨bindings, resolved⟩ := Binding.exists_resolveAll resolvable
    have named := named_iff.mpr resolved
    by_cases distinct : injector.config.distinctNames = true → Binding.Distinct bindings
    · exact ⟨.ok bindings, .planned sound named distinct⟩
    · rw [Classical.not_imp, ← Binding.clash?_eq_none_iff] at distinct
      rcases distinct with ⟨demanded, clashing⟩
      obtain ⟨⟨first, second⟩, clash⟩ := Option.ne_none_iff_exists'.mp clashing
      exact ⟨_, .clash sound named demanded (Binding.clash?_eq_some_iff.mp clash)⟩

/-- There is a verdict on every type. -/
theorem exists_verdict (injector : Injector) (lineage : Lineage) (filter? : Option TypeFilter) :
    ∃ outcome, injector.Verdict lineage filter? outcome := by
  rcases exists_first_or_forall_not Found.Broken (injector.taken filter? lineage .fields) with
    ⟨found, first⟩ | fields
  · obtain ⟨constraint, rule⟩ := exists_first_rule first.holds
    exact ⟨_, .brokenField first rule⟩
  · rcases exists_first_or_forall_not Found.Broken (injector.taken filter? lineage .setters) with
      ⟨found, first⟩ | setters
    · obtain ⟨constraint, rule⟩ := exists_first_rule first.holds
      exact ⟨_, .brokenSetter fields first rule⟩
    · by_cases present :
          injector.config.requireMatch = true → injector.takenAll filter? lineage ≠ []
      · exact Sound.exists_verdict ⟨List.forall_mem_append.mpr ⟨fields, setters⟩, present⟩
      · rw [Classical.not_imp, Ne, not_not] at present
        exact ⟨_, .nothing present.1 present.2⟩

/-- The answer of a plan is the verdict on the type: the earliest cause for failure in
the order of the cases, and the bindings of all that is taken if there is no cause. -/
theorem result_plan_eq_iff_verdict :
    (injector.plan lineage filter?).result = outcome ↔
      injector.Verdict lineage filter? outcome := by
  constructor
  · rintro rfl
    obtain ⟨outcome, verdict⟩ := exists_verdict injector lineage filter?
    rw [verdict.result_plan]
    exact verdict
  · exact Verdict.result_plan

end Injector

end Wiring
