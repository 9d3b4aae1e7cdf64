import Wiring.Proofs.Injection.Constant
import Wiring.Proofs.Injection.Outcomes
import Wiring.Proofs.Object.Accessor
import Wiring.Proofs.Plan.Order

/-!
# Failures stay with their members

A report loses nothing of the plan: its two lists, merged in the right way, are the plan
again.  A value that is missing is missed before anything else.  What else becomes of an entry
could depend on all that was written before it.  It does not where ways and accessors go by the
types of the parts: then every outcome is the answer of some object of the type, and all objects
of a type give the same answer.
-/

namespace Wiring

namespace Report

/-- The report accounts for every entry of the plan, for each of them once. -/
structure Accounts (report : Report) (bindings : List Binding) : Prop where
  /-- The bound and the skipped entries stand in the order of the plan. -/
  merged : Interleaving report.bound (report.skipped.map (·.binding)) bindings
  /-- No member is mentioned twice. -/
  once : (report.bound ++ report.skipped.map (·.binding)).Pairwise
    fun first second => first.found.place ≠ second.found.place

/-- What becomes of an entry is what becomes of it when it is the only one to be bound, except
for the wording of a refusal. -/
structure Isolates (report : Report) (bindings : List Binding)
    (obstacle? : Binding → Option BindError) (alone : Binding → Except BindError Unit) : Prop where
  bound_iff : ∀ binding ∈ bindings, binding ∈ report.bound ↔ alone binding = .ok ()
  /-- An obstacle is no matter of wording. -/
  skipped_iff : ∀ binding ∈ bindings, ∀ obstacle, obstacle? binding = some obstacle →
    alone binding = .error obstacle ∧
      ∀ error, ⟨binding, error⟩ ∈ report.skipped ↔ error = obstacle

end Report

/-- What comes of a binding for which a value is looked up, when it is the only one. -/
def Binding.alone (lookup : BindingName → Option Value) (object : Instance)
    (binding : Binding) : Except BindError Unit :=
  match lookup binding.name with
  | none => .error (.missingResource binding.name.text)
  | some value => (binding.found.bind object value).1

theorem Binding.alone_eq_apply (lookup : BindingName → Option Value) (object : Instance)
    (binding : Binding) :
    binding.alone lookup object = (binding.apply (Supply.ofLookup lookup) object).1 := by
  unfold alone apply Supply.ofLookup
  cases lookup binding.name <;> rfl

namespace Binding

/-- What keeps the accessor of a binding from being run: no value is supplied, there is no
accessor, or the climb to its part ends. -/
def obstacle? (supply : Supply) (object : Instance) (binding : Binding) : Option BindError :=
  match supply binding.name with
  | .error error => some error
  | .ok _ =>
      match binding.found.member.accessor? with
      | none => some .inaccessible
      | some _ =>
          match object.reach binding.found.depth with
          | .error error => some error
          | .ok _ => none

variable {supply : Supply} {binding : Binding} {bindings : List Binding} {scope : MemberScope}
  {object current : Instance} {error : BindError} {result : Except BindError Unit}

/-- An obstacle is the outcome, and leaves the object as it is. -/
theorem apply_of_obstacle (met : binding.obstacle? supply object = some error) :
    binding.apply supply object = (.error error, object) := by
  unfold obstacle? at met
  cases supplied : supply binding.name with
  | error withheld =>
      simp only [supplied, Option.some.injEq] at met
      rw [apply_of_withheld supplied, met]
  | ok value =>
      rw [apply_of_supplied supplied]
      cases given : binding.found.member.accessor? with
      | none =>
          simp only [supplied, given, Option.some.injEq] at met
          rw [Instance.bind_of_inaccessible given, met]
      | some accessor =>
          cases reached : object.reach binding.found.depth with
          | ok distance => simp [supplied, given, reached] at met
          | error ended =>
              simp only [supplied, given, reached, Option.some.injEq] at met
              rw [Instance.bind_of_unreachable given reached, met]

/-- Without an obstacle, the accessor is run on the part that is reached. -/
theorem apply_of_unobstructed (free : binding.obstacle? supply object = none) :
    ∃ value accessor distance, supply binding.name = .ok value ∧
      binding.found.member.accessor? = some accessor ∧
        object.reach binding.found.depth = .ok distance ∧
          binding.apply supply object = object.update distance accessor value := by
  unfold obstacle? at free
  cases supplied : supply binding.name with
  | error withheld => simp [supplied] at free
  | ok value =>
      cases given : binding.found.member.accessor? with
      | none => simp [supplied, given] at free
      | some accessor =>
          cases reached : object.reach binding.found.depth with
          | error ended => simp [supplied, given, reached] at free
          | ok distance =>
              refine ⟨value, accessor, distance, rfl, rfl, rfl, ?_⟩
              rw [apply_of_supplied supplied, Instance.bind_of_reached given reached]

/-- Where ways go by types, the objects of a type put the same obstacles in the way. -/
theorem obstacle?_congr (leads : object.lineage.LeadsByType)
    (sameType : current.lineage = object.lineage) :
    binding.obstacle? supply current = binding.obstacle? supply object := by
  unfold obstacle?
  rw [Instance.reach_congr leads sameType]

/-- Two objects of one type answer alike if their accessors do, whatever is meant by alike. -/
theorem apply_alike (alike : Except BindError Unit → Except BindError Unit → Prop)
    (refl : ∀ result, alike result result) (leads : object.lineage.LeadsByType)
    (respects : object.lineage.EveryAccessor fun _ accessor => ∀ target other value,
      Target.types target = Target.types other →
        alike (accessor.run target value).1 (accessor.run other value).1)
    (found : binding.found ∈ object.lineage.found scope)
    (sameType : current.lineage = object.lineage) :
    alike (binding.apply supply current).1 (binding.apply supply object).1 := by
  cases met : binding.obstacle? supply object with
  | some error =>
      rw [apply_of_obstacle met, apply_of_obstacle ((obstacle?_congr leads sameType).trans met)]
      exact refl _
  | none =>
      obtain ⟨value, accessor, distance, supplied, given, reached, applied⟩ :=
        apply_of_unobstructed met
      have arrived := (Instance.reach_congr leads sameType binding.found.depth).trans reached
      rw [applied, apply_of_supplied supplied, Instance.bind_of_reached given arrived]
      exact respects.of_found found given _ _ value (Instance.types_drop_parts sameType distance)

theorem success_congr (leads : object.lineage.LeadsByType)
    (succeeds : object.lineage.EveryAccessor fun _ accessor => accessor.SucceedsByType)
    (found : binding.found ∈ object.lineage.found scope)
    (sameType : current.lineage = object.lineage) :
    (binding.apply supply current).1 = .ok () ↔ (binding.apply supply object).1 = .ok () :=
  apply_alike (fun left right => left = .ok () ↔ right = .ok ()) (fun _ => Iff.rfl) leads succeeds
    found sameType

/-- Where answers go by types, every object of the type has the outcomes that the bindings have
one by one. -/
theorem applyAll_of_answersByType (leads : object.lineage.LeadsByType)
    (answers : object.lineage.EveryAccessor fun _ accessor => accessor.AnswersByType)
    (found : ∀ binding ∈ bindings, ∃ scope, binding.found ∈ object.lineage.found scope)
    (sameType : current.lineage = object.lineage) :
    (applyAll supply bindings current).1 =
      bindings.map fun binding => ⟨binding, (binding.apply supply object).1⟩ := by
  induction bindings generalizing current with
  | nil => rfl
  | cons binding rest inductionHypothesis =>
      obtain ⟨⟨scope, foundHead⟩, foundRest⟩ := List.forall_mem_cons.mp found
      have same : (binding.apply supply current).1 = (binding.apply supply object).1 :=
        apply_alike Eq (fun _ => rfl) leads answers foundHead sameType
      have others := inductionHypothesis foundRest
        ((lineage_apply supply binding current).trans sameType)
      rw [applyAll_cons, List.map_cons, others, same]

/-- A withheld value settles the outcome. -/
theorem result_of_withheld (withheld : supply binding.name = .error error)
    (present : ⟨binding, result⟩ ∈ (applyAll supply bindings object).1) :
    result = .error error := by
  obtain ⟨-, current, -, answered⟩ := exists_object_of_mem_applyAll present
  change (binding.apply supply current).1 = result at answered
  rw [← answered, apply_of_withheld withheld]

/-- Where ways go by types, an obstacle settles the outcome. -/
theorem result_of_obstacle (leads : object.lineage.LeadsByType)
    (met : binding.obstacle? supply object = some error)
    (present : ⟨binding, result⟩ ∈ (applyAll supply bindings object).1) :
    result = .error error := by
  obtain ⟨-, current, sameType, answered⟩ := exists_object_of_mem_applyAll present
  change (binding.apply supply current).1 = result at answered
  rw [← answered, apply_of_obstacle ((obstacle?_congr leads sameType).trans met)]

/-- Neither the climb nor an accessor that leaves lookups alone speaks of missing values. -/
theorem apply_ne_missing {value : Value} (supplied : supply binding.name = .ok value)
    (leaves : ∀ accessor, binding.found.member.accessor? = some accessor →
      accessor.LeavesLookups)
    (object : Instance) (name : String) :
    (binding.apply supply object).1 ≠ .error (.missingResource name) := by
  rw [apply_of_supplied supplied]
  cases given : binding.found.member.accessor? with
  | none =>
      rw [Instance.bind_of_inaccessible given]
      simp
  | some accessor =>
      cases reached : object.reach binding.found.depth with
      | error error =>
          rw [Instance.bind_of_unreachable given reached]
          obtain ⟨step, rfl, -⟩ := Instance.exists_step_of_reach_error reached
          simp
      | ok distance =>
          rw [Instance.bind_of_reached given reached]
          exact leaves accessor given _ value name

/-- What settles the outcome of a planned binding is what the report says of it. -/
theorem mem_skipped_iff_of_settled {target : String} (listed : binding ∈ bindings)
    (settled : ∀ result, ⟨binding, result⟩ ∈ (applyAll supply bindings object).1 →
      result = .error error) (reported : BindError) :
    ⟨binding, reported⟩ ∈ (Report.ofOutcomes target (applyAll supply bindings object).1).skipped ↔
      reported = error := by
  rw [Report.mem_skipped_iff]
  constructor
  · intro skipped
    exact Except.error.inj (settled _ skipped)
  · rintro rfl
    obtain ⟨result, present⟩ := exists_outcome listed supply object
    rw [← settled result present]
    exact present

end Binding

namespace Injector

variable {injector : Injector} {opening : LogEntry} {filter? : Option TypeFilter}
  {supply : Supply} {object : Instance} {bindings : List Binding} {report : Report}

theorem accounts_of_planned
    (planned : (injector.plan object.lineage filter?).result = .ok bindings) :
    (Report.ofOutcomes object.lineage.name
      (Binding.applyAll supply bindings object).1).Accounts bindings := by
  have merged := Report.interleaving_ofOutcomes object.lineage.name
    (Binding.applyAll supply bindings object).1
  rw [Binding.map_binding_applyAll] at merged
  refine ⟨merged, ?_⟩
  rw [merged.perm.pairwise_iff fun different => different.symm]
  exact (pairwise_before_of_planned planned).imp Found.Before.place_ne

theorem isolates_of_planned
    (planned : (injector.plan object.lineage filter?).result = .ok bindings)
    (leads : object.lineage.LeadsByType)
    (succeeds : object.lineage.EveryAccessor fun _ accessor => accessor.SucceedsByType) :
    (Report.ofOutcomes object.lineage.name
      (Binding.applyAll supply bindings object).1).Isolates bindings
        (Binding.obstacle? supply object) fun binding => (binding.apply supply object).1 := by
  constructor
  · intro binding listed
    obtain ⟨scope, found⟩ := declared_of_planned planned binding listed
    have same : ∀ result, ⟨binding, result⟩ ∈ (Binding.applyAll supply bindings object).1 →
        (result = .ok () ↔ (binding.apply supply object).1 = .ok ()) := by
      intro result present
      obtain ⟨-, current, sameType, answered⟩ := Binding.exists_object_of_mem_applyAll present
      change (binding.apply supply current).1 = result at answered
      rw [← answered]
      exact Binding.success_congr leads succeeds found sameType
    rw [Report.mem_bound_iff]
    constructor
    · intro bound
      exact (same _ bound).mp rfl
    · intro alone
      obtain ⟨result, present⟩ := Binding.exists_outcome listed supply object
      rw [← (same result present).mpr alone]
      exact present
  · intro binding listed obstacle met
    refine ⟨congrArg Prod.fst (Binding.apply_of_obstacle met), ?_⟩
    exact Binding.mem_skipped_iff_of_settled listed
      fun result => Binding.result_of_obstacle leads met

/-- Where refusals are worded by types as well, an entry is skipped as it would be alone. -/
theorem mem_skipped_iff_of_planned
    (planned : (injector.plan object.lineage filter?).result = .ok bindings)
    (leads : object.lineage.LeadsByType)
    (answers : object.lineage.EveryAccessor fun _ accessor => accessor.AnswersByType)
    {binding : Binding} (listed : binding ∈ bindings) (error : BindError) :
    ⟨binding, error⟩ ∈ (Report.ofOutcomes object.lineage.name
        (Binding.applyAll supply bindings object).1).skipped ↔
      (binding.apply supply object).1 = .error error := by
  have declared := declared_of_planned planned
  rw [Report.mem_skipped_iff, Binding.applyAll_of_answersByType leads answers declared rfl,
    List.mem_map]
  constructor
  · rintro ⟨other, -, same⟩
    obtain ⟨rfl, alone⟩ := Outcome.mk.inj same
    exact alone
  · intro alone
    exact ⟨binding, listed, by rw [alone]⟩

/-- Where the lookup knows no value, that is the failure, whatever else could have gone wrong. -/
theorem missing_of_planned {lookup : BindingName → Option Value} {binding : Binding}
    (listed : binding ∈ bindings) (unknown : lookup binding.name = none) :
    binding ∉ (Report.ofOutcomes object.lineage.name
        (Binding.applyAll (Supply.ofLookup lookup) bindings object).1).bound ∧
      ∀ error, ⟨binding, error⟩ ∈ (Report.ofOutcomes object.lineage.name
          (Binding.applyAll (Supply.ofLookup lookup) bindings object).1).skipped ↔
        error = .missingResource binding.name.text := by
  have withheld := Supply.ofLookup_of_unknown unknown
  constructor
  · intro bound
    have failed := Binding.result_of_withheld withheld (Report.mem_bound_iff.mp bound)
    contradiction
  · exact Binding.mem_skipped_iff_of_settled listed fun result =>
      Binding.result_of_withheld withheld

/-- A value that is reported missing is not known, unless the accessor says so itself. -/
theorem unknown_of_missing {lookup : BindingName → Option Value} {binding : Binding}
    (leaves : ∀ accessor, binding.found.member.accessor? = some accessor →
      accessor.LeavesLookups)
    (skipped : ⟨binding, .missingResource binding.name.text⟩ ∈
      (Report.ofOutcomes object.lineage.name
        (Binding.applyAll (Supply.ofLookup lookup) bindings object).1).skipped) :
    lookup binding.name = none := by
  cases known : lookup binding.name with
  | none => rfl
  | some value =>
      have supplied := Supply.ofLookup_of_known known
      obtain ⟨-, current, -, failed⟩ :=
        Binding.exists_object_of_mem_applyAll (Report.mem_skipped_iff.mp skipped)
      exact absurd failed (Binding.apply_ne_missing supplied leaves current _)

/-- An injection reports on its whole plan.  Where ways and successes go by types, it says of each
entry what would have become of it by itself; only how an accessor words a refusal could differ,
and it does not where wordings go by types too.  A value that is not known is missed before
anything else, and only then, unless an accessor claims that itself. -/
theorem failures_are_isolated (injector : Injector) (object : Instance) :
    (∀ value report, (injector.inject object value).pass.result = .ok report →
      ∃ bindings,
        (injector.plan object.lineage (some (.including ⟨value.type, .reference⟩))).result =
            .ok bindings ∧
          report.Accounts bindings ∧
          (object.lineage.LeadsByType →
            (object.lineage.EveryAccessor fun _ accessor => accessor.SucceedsByType) →
              report.Isolates bindings (Binding.obstacle? (Supply.constant value) object)
                fun binding => (binding.found.bind object value).1) ∧
          (object.lineage.LeadsByType →
            (object.lineage.EveryAccessor fun _ accessor => accessor.AnswersByType) →
              ∀ binding ∈ bindings, ∀ error, ⟨binding, error⟩ ∈ report.skipped ↔
                (binding.found.bind object value).1 = .error error)) ∧
    ∀ lookup report, (injector.injectResources object lookup).pass.result = .ok report →
      ∃ bindings, (injector.plan object.lineage none).result = .ok bindings ∧
        report.Accounts bindings ∧
        (object.lineage.LeadsByType →
          (object.lineage.EveryAccessor fun _ accessor => accessor.SucceedsByType) →
            report.Isolates bindings (Binding.obstacle? (Supply.ofLookup lookup) object)
              (Binding.alone lookup object)) ∧
        (object.lineage.LeadsByType →
          (object.lineage.EveryAccessor fun _ accessor => accessor.AnswersByType) →
            ∀ binding ∈ bindings, ∀ error, ⟨binding, error⟩ ∈ report.skipped ↔
              binding.alone lookup object = .error error) ∧
        (∀ binding ∈ bindings, lookup binding.name = none →
          binding ∉ report.bound ∧ ∀ error, ⟨binding, error⟩ ∈ report.skipped ↔
            error = .missingResource binding.name.text) ∧
        ∀ binding ∈ bindings,
          (∀ accessor, binding.found.member.accessor? = some accessor →
            accessor.LeavesLookups) →
          ⟨binding, .missingResource binding.name.text⟩ ∈ report.skipped →
            lookup binding.name = none := by
  constructor
  · intro value report reported
    obtain ⟨bindings, planned, rfl⟩ := result_run_eq_ok_iff.mp reported
    refine ⟨bindings, planned, accounts_of_planned planned, ?_, ?_⟩
    · exact isolates_of_planned planned
    · intro leads answers binding listed error
      exact mem_skipped_iff_of_planned planned leads answers listed error
  · intro lookup report reported
    obtain ⟨bindings, planned, rfl⟩ := result_run_eq_ok_iff.mp reported
    have alone : Binding.alone lookup object = fun binding =>
        (binding.apply (Supply.ofLookup lookup) object).1 := by
      funext binding
      exact binding.alone_eq_apply lookup object
    rw [alone]
    refine ⟨bindings, planned, accounts_of_planned planned, ?_, ?_, ?_, ?_⟩
    · exact isolates_of_planned planned
    · intro leads answers binding listed error
      exact mem_skipped_iff_of_planned planned leads answers listed error
    · intro binding listed
      exact missing_of_planned listed
    · intro binding listed
      exact unknown_of_missing

end Injector

/-! ## A reader that something was bound to -/

namespace Reader

open Sample (text count)

/-- The label of the reader is taken. -/
def labelled : Instance :=
  (injector.inject (.fresh lineage) ⟨text.type, .text "spine"⟩).object

/-- It has no title, and a text in the place of the size. -/
def shelf (name : BindingName) : Option Value :=
  if name.text = "title" then none
  else if name.text = "limit" then some ⟨count.type, .int 3⟩
  else some ⟨text.type, .text "cover"⟩

/-- Of the labelled reader, the label alone is bound anew, by a text for it and from the
shelf, and only the title is missed. -/
theorem isolated_in_labelled_reader :
    (∃ typed bindings,
      (injector.inject labelled ⟨text.type, .null⟩).pass.result = .ok typed ∧
        typed.Accounts bindings ∧
          ∀ binding ∈ bindings,
            binding ∈ typed.bound ↔
              (binding.found.bind labelled ⟨text.type, .null⟩).1 = .ok ()) ∧
    ∃ report bindings, (injector.injectResources labelled shelf).pass.result = .ok report ∧
      report.skipped.map Skipped.error =
          [.valueMismatch count.type, .missingResource "title", .rejected "sealed",
            .inaccessible] ∧
        report.Accounts bindings ∧
          ∀ binding ∈ bindings,
            (∀ error, ⟨binding, error⟩ ∈ report.skipped ↔
              binding.alone shelf labelled = .error error) ∧
            (shelf binding.name = none → binding ∉ report.bound) ∧
            (⟨binding, .missingResource binding.name.text⟩ ∈ report.skipped →
              shelf binding.name = none) := by
  have typedReported : ∃ report,
      (injector.inject labelled ⟨text.type, .null⟩).pass.result = .ok report := ⟨_, rfl⟩
  have reported : ∃ report, (injector.injectResources labelled shelf).pass.result = .ok report ∧
      report.skipped.map Skipped.error =
        [.valueMismatch count.type, .missingResource "title", .rejected "sealed",
          .inaccessible] := ⟨_, rfl, by decide⟩
  have leads : labelled.lineage.LeadsByType := ⟨Upcast.leadsByType_nowhere, trivial⟩
  have answers : labelled.lineage.EveryAccessor fun _ accessor => accessor.AnswersByType :=
    stores_lineage.everyAccessor Store.answersByType_accessor
  have succeeds : labelled.lineage.EveryAccessor fun _ accessor => accessor.SucceedsByType :=
    Lineage.succeedsByType_of_answersByType answers
  have leaves : labelled.lineage.EveryAccessor fun _ accessor => accessor.LeavesLookups :=
    stores_lineage.everyAccessor Store.leavesLookups_accessor
  obtain ⟨typed, typedReported⟩ := typedReported
  obtain ⟨report, reported, errors⟩ := reported
  constructor
  · obtain ⟨bindings, -, accounts, isolates, -⟩ :=
      (Injector.failures_are_isolated injector labelled).1 _ typed typedReported
    exact ⟨typed, bindings, typedReported, accounts, (isolates leads succeeds).bound_iff⟩
  · obtain ⟨bindings, planned, accounts, -, asAlone, missing, unknown⟩ :=
      (Injector.failures_are_isolated injector labelled).2 shelf report reported
    refine ⟨report, bindings, reported, errors, accounts, ?_⟩
    intro binding listed
    obtain ⟨scope, found⟩ := Injector.declared_of_planned planned binding listed
    refine ⟨asAlone leads answers binding listed, ?_, ?_⟩
    · intro absent
      exact (missing binding listed absent).1
    · intro skipped
      exact unknown binding listed
        (fun accessor given => leaves.of_found found given) skipped

end Reader

/-! ## A turnstile that counts its tokens

It turns every ticket away, and says how many tokens were put in before. -/

namespace Turnstile

open Sample (text marked stored)

def turningAway : Accessor where
  run target _ :=
    (.error (.rejected ("tokens: " ++ toString (target.flatMap Part.journal).length)), target)
  types_run _ _ := rfl

def ticket : Member :=
  { marked "resource" .setter "setTicket" text with accessor? := some turningAway }

def turnstile : Declaration where
  key := 0
  name := "Turnstile"
  type := ⟨"Turnstile"⟩
  fields := [stored "resource" .field "token" ⟨"Turnstile"⟩]
  setters := [ticket]

def lineage : Lineage := .root turnstile

/-- The ticket as it is planned, after the token. -/
def planned : Binding := ⟨⟨turnstile, .setters, 0, ticket, 0⟩, ⟨"ticket", by decide⟩⟩

theorem succeedsByType_turningAway : turningAway.SucceedsByType := by
  intro target other value _
  simp [turningAway]

theorem succeedsByType_lineage :
    lineage.EveryAccessor fun _ accessor => accessor.SucceedsByType := by
  apply Lineage.everyAccessor_root
  apply Declaration.everyAccessor_of_lists
  · exact List.forall_mem_singleton.mpr
      (Member.holds_of_given rfl (Store.answersByType_accessor _).succeedsByType)
  · exact List.forall_mem_singleton.mpr (Member.holds_of_given rfl succeedsByType_turningAway)

end Turnstile

/-! ## A drawbridge that is raised

The far bank can be reached until something is bound to the chain of the bridge. -/

namespace Drawbridge

open Sample (stored)

def whileLowered : Upcast where
  levels target := if target.head?.all (·.journal.isEmpty) then some 1 else none

def bank : Declaration where
  key := 0
  name := "Bank"
  type := ⟨"Bank"⟩
  fields := [stored "resource" .field "post" ⟨"Bank"⟩]
  setters := [stored "resource" .setter "setFlag" ⟨"Bank"⟩]

def bridge : Declaration where
  key := 1
  name := "Bridge"
  type := ⟨"Bridge"⟩
  setters := [stored "resource" .setter "setChain" ⟨"Bridge"⟩]

def lineage : Lineage := .child bridge whileLowered (.root bank)

/-- The flag as it is planned, after the post and the chain. -/
def planned : Binding :=
  ⟨⟨bank, .setters, 0, stored "resource" .setter "setFlag" ⟨"Bank"⟩, 1⟩,
    ⟨"flag", by decide⟩⟩

theorem stores_lineage : lineage.Stores :=
  Lineage.stores_child
    (Declaration.stores_of_lists (List.forall_mem_nil _)
      (List.forall_mem_singleton.mpr (Member.stores_stored _ _ _)))
    (Lineage.stores_root (Declaration.stores_of_lists
      (List.forall_mem_singleton.mpr (Member.stores_stored _ _ _))
      (List.forall_mem_singleton.mpr (Member.stores_stored _ _ _)))) _

theorem succeedsByType_lineage :
    lineage.EveryAccessor fun _ accessor => accessor.SucceedsByType :=
  stores_lineage.everyAccessor fun store => store.answersByType_accessor.succeedsByType

end Drawbridge

/-! ## A cloakroom that disowns what it was given -/

namespace Cloakroom

open Sample (text marked)

def disowning : Accessor where
  run target _ := (.error (.missingResource "coat"), target)
  types_run _ _ := rfl

def coat : Member := { marked "resource" .field "coat" text with accessor? := some disowning }

def cloakroom : Declaration where
  key := 0
  name := "Cloakroom"
  type := ⟨"Cloakroom"⟩
  fields := [coat]

def planned : Binding := ⟨⟨cloakroom, .fields, 0, coat, 0⟩, ⟨"coat", by decide⟩⟩

end Cloakroom

/-- Successes that go by types are not enough.  The ticket is turned away in other words after a
token than without one, the flag is not reached after the chain, and the coat is said to be missing
although there is one. -/
theorem Injector.failures_are_worded_by_what_precedes :
    ((Turnstile.lineage.EveryAccessor fun _ accessor => accessor.SucceedsByType) ∧
      ∃ report,
        (Sample.injector.inject (.fresh Turnstile.lineage) (Sample.words "day")).pass.result =
            .ok report ∧
          ⟨Turnstile.planned, .rejected "tokens: 1"⟩ ∈ report.skipped ∧
            (Turnstile.planned.found.bind (.fresh Turnstile.lineage) (Sample.words "day")).1 =
              .error (.rejected "tokens: 0")) ∧
    ((Drawbridge.lineage.EveryAccessor fun _ accessor => accessor.SucceedsByType) ∧
      ∃ report,
        (Sample.injector.inject (.fresh Drawbridge.lineage) (Sample.words "up")).pass.result =
            .ok report ∧
          ⟨Drawbridge.planned, .ancestorUnreachable 1⟩ ∈ report.skipped ∧
            (Drawbridge.planned.found.bind (.fresh Drawbridge.lineage) (Sample.words "up")).1 =
              .ok ()) ∧
    ∃ report,
      (Sample.injector.injectResources (.fresh (.root Cloakroom.cloakroom)) fun _ =>
          some (Sample.words "coat")).pass.result = .ok report ∧
        ⟨Cloakroom.planned, .missingResource "coat"⟩ ∈ report.skipped := by
  refine ⟨⟨Turnstile.succeedsByType_lineage, _, rfl, ?_, rfl⟩,
    ⟨Drawbridge.succeedsByType_lineage, _, rfl, ?_, rfl⟩, _, rfl, ?_⟩
  · exact List.mem_singleton.mpr rfl
  · exact List.mem_singleton.mpr rfl
  · exact List.mem_singleton.mpr rfl

end Wiring
