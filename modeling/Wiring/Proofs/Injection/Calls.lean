import Wiring.Proofs.Injection.Outcomes
import Wiring.Proofs.Plan.Inert
import Wiring.Proofs.Sample

/-!
# What an injection calls

An injection is given things that it can call: a lookup for values, the ways between the
levels of a type, and the accessors of its members.  The steps of an injection are gone
through here once more, with a record of every call.  The answers stay the same, and the
record of an injection that fails is empty: its plan needs no call, and without a plan there
is nothing to call for.
-/

namespace Wiring

/-- A call to something that was given to an injection. -/
inductive Call where
  /-- The lookup is asked for the value of a name. -/
  | lookup (name : BindingName)
  /-- The way to the parent is taken from a level of the object. -/
  | upcast (level : Nat)
  /-- The accessor of the member in a place is run. -/
  | accessor (place : Found.Place)
  deriving DecidableEq

/-- The name that the lookup is asked for in a call. -/
def Call.asked? : Call → Option BindingName
  | lookup name => some name
  | upcast _ => none
  | accessor _ => none

/-- An answer and the calls that were made for it, earliest first. -/
structure Recorded (α : Type) where
  calls : List Call
  answer : α

namespace Recorded

variable {α β : Type}

/-- The answer of a single call. -/
def calling (call : Call) (answer : α) : Recorded α := ⟨[call], answer⟩

/-- Go on with an answer, and keep the record. -/
def andThen (first : Recorded α) (next : α → Recorded β) : Recorded β :=
  ⟨first.calls ++ (next first.answer).calls, (next first.answer).answer⟩

instance : Monad Recorded where
  pure answer := ⟨[], answer⟩
  bind := andThen

@[simp]
theorem calls_pure (answer : α) : (pure answer : Recorded α).calls = [] :=
  rfl

@[simp]
theorem answer_pure (answer : α) : (pure answer : Recorded α).answer = answer :=
  rfl

@[simp]
theorem answer_calling (call : Call) (answer : α) : (calling call answer).answer = answer :=
  rfl

@[simp]
theorem calls_bind (first : Recorded α) (next : α → Recorded β) :
    (first >>= next).calls = first.calls ++ (next first.answer).calls :=
  rfl

@[simp]
theorem answer_bind (first : Recorded α) (next : α → Recorded β) :
    (first >>= next).answer = (next first.answer).answer :=
  rfl

/-- The lookup is not asked for anything. -/
def AsksNothing (recorded : Recorded α) : Prop :=
  recorded.calls.filterMap Call.asked? = []

theorem AsksNothing.bind {first : Recorded α} {next : α → Recorded β}
    (silent : first.AsksNothing) (silentAfter : ∀ answer, (next answer).AsksNothing) :
    (first >>= next).AsksNothing := by
  unfold AsksNothing at silent silentAfter ⊢
  rw [calls_bind, List.filterMap_append, silent, silentAfter, List.append_nil]

end Recorded

/-! ## The steps of an injection, with their calls -/

/-- The climb from a level of the object. -/
def Lineage.ascendRecorded : Lineage → Nat → Nat → Target → Recorded (Except Nat Nat)
  | _, _, 0, _ => pure (.ok 0)
  | root _, _, _ + 1, _ => pure (.error 1)
  | child _ upcast parent, level, steps + 1, target => do
      match ← Recorded.calling (.upcast level) (upcast.climb target) with
      | none => pure (.error 1)
      | some distance =>
          match ← parent.ascendRecorded (level + 1) steps (target.drop distance) with
          | .ok rest => pure (.ok (distance + rest))
          | .error step => pure (.error (step + 1))

/-- Bind a value to a found member. -/
def Found.bindRecorded (found : Found) (object : Instance) (value : Value) :
    Recorded (Except BindError Unit × Instance) :=
  match found.member.accessor? with
  | none => pure (.error .inaccessible, object)
  | some accessor => do
      match ← object.lineage.ascendRecorded 0 found.depth object.parts with
      | .error step => pure (.error (.ancestorUnreachable step), object)
      | .ok distance =>
          Recorded.calling (.accessor found.place) (object.update distance accessor value)

/-- Where the value for a binding comes from. -/
abbrev RecordedSupply := BindingName → Recorded (Except BindError Value)

namespace RecordedSupply

/-- The supply, whatever it calls. -/
def answers (supply : RecordedSupply) : Supply := fun name => (supply name).answer

/-- The same value for every binding, for which nothing is called. -/
def constant (value : Value) : RecordedSupply := fun _ => pure (.ok value)

/-- The value that a lookup knows. -/
def ofLookup (lookup : BindingName → Option Value) : RecordedSupply := fun name => do
  match ← Recorded.calling (.lookup name) (lookup name) with
  | some value => pure (.ok value)
  | none => pure (.error (.missingResource name.text))

@[simp]
theorem answers_ofLookup (lookup : BindingName → Option Value) :
    (ofLookup lookup).answers = Supply.ofLookup lookup := by
  funext name
  unfold answers ofLookup Supply.ofLookup
  cases lookup name <;> rfl

/-- The lookup is asked once. -/
theorem calls_ofLookup (lookup : BindingName → Option Value) (name : BindingName) :
    (ofLookup lookup name).calls = [.lookup name] := by
  unfold ofLookup
  rw [Recorded.calls_bind]
  cases lookup name <;> rfl

end RecordedSupply

namespace Binding

/-- Try one binding. -/
def applyRecorded (supply : RecordedSupply) (binding : Binding) (object : Instance) :
    Recorded (Except BindError Unit × Instance) := do
  match ← supply binding.name with
  | .error error => pure (.error error, object)
  | .ok value => binding.found.bindRecorded object value

/-- Try bindings in order. -/
def applyAllRecorded (supply : RecordedSupply) :
    List Binding → Instance → Recorded (List Outcome × Instance)
  | [], object => pure ([], object)
  | binding :: rest, object => do
      let tried ← binding.applyRecorded supply object
      let others ← applyAllRecorded supply rest tried.2
      pure (⟨binding, tried.1⟩ :: others.1, others.2)

end Binding

namespace Injector

/-- Plan for the type of an object and bind what the supply has. -/
def runRecorded (injector : Injector) (opening : LogEntry) (filter? : Option TypeFilter)
    (supply : RecordedSupply) (object : Instance) : Recorded Injection :=
  let planned := injector.plan object.lineage filter?
  match planned.result with
  | .error error => pure ⟨⟨opening :: planned.log, .error error⟩, object⟩
  | .ok bindings => do
      let applied ← Binding.applyAllRecorded supply bindings object
      pure ⟨⟨opening :: (planned.log ++ applied.1.map Outcome.entry),
        .ok (Report.ofOutcomes object.lineage.name applied.1)⟩, applied.2⟩

/-- Bind a value to every marked member of exactly its type. -/
def injectRecorded (injector : Injector) (object : Instance) (value : Value) :
    Recorded Injection :=
  injector.runRecorded (.injecting injector.marker object.lineage.name value.type.name)
    (some (.including ⟨value.type, .reference⟩)) (RecordedSupply.constant value) object

/-- Bind every marked member to what a lookup knows under its name. -/
def injectResourcesRecorded (injector : Injector) (object : Instance)
    (lookup : BindingName → Option Value) : Recorded Injection :=
  injector.runRecorded (.injectingResources injector.marker object.lineage.name) none
    (RecordedSupply.ofLookup lookup) object

end Injector

/-! ## The record changes no answer -/

theorem Lineage.answer_ascendRecorded (lineage : Lineage) (level steps : Nat)
    (target : Target) :
    (lineage.ascendRecorded level steps target).answer = lineage.ascend steps target := by
  induction lineage generalizing level steps target with
  | root own => cases steps <;> rfl
  | child own upcast parent inductionHypothesis =>
      cases steps with
      | zero => rfl
      | succ steps =>
          rw [ascendRecorded, ascend_child_succ, Recorded.answer_bind, Recorded.answer_calling]
          cases upcast.climb target with
          | none => rfl
          | some distance =>
              simp only [Recorded.answer_bind, inductionHypothesis]
              cases parent.ascend steps (target.drop distance) <;> rfl

theorem Found.answer_bindRecorded (found : Found) (object : Instance) (value : Value) :
    (found.bindRecorded object value).answer = found.bind object value := by
  unfold bindRecorded bind Instance.bind Instance.reach
  cases found.member.accessor? with
  | none => rfl
  | some accessor =>
      simp only [Recorded.answer_bind, Lineage.answer_ascendRecorded]
      cases object.lineage.ascend found.depth object.parts <;> rfl

namespace Binding

variable {supply : RecordedSupply}

theorem answer_applyRecorded (supply : RecordedSupply) (binding : Binding)
    (object : Instance) :
    (binding.applyRecorded supply object).answer = binding.apply supply.answers object := by
  unfold applyRecorded apply RecordedSupply.answers
  rw [Recorded.answer_bind]
  cases (supply binding.name).answer with
  | error error => rfl
  | ok value => exact binding.found.answer_bindRecorded object value

theorem answer_applyAllRecorded (supply : RecordedSupply) (bindings : List Binding)
    (object : Instance) :
    (applyAllRecorded supply bindings object).answer =
      applyAll supply.answers bindings object := by
  induction bindings generalizing object with
  | nil => rfl
  | cons binding rest inductionHypothesis =>
      rw [applyAllRecorded, applyAll_cons]
      simp only [Recorded.answer_bind, Recorded.answer_pure, answer_applyRecorded,
        inductionHypothesis]

end Binding

namespace Injector

variable {injector : Injector} {opening : LogEntry} {filter? : Option TypeFilter}
  {supply : RecordedSupply} {object : Instance} {bindings : List Binding}

theorem answer_runRecorded (injector : Injector) (opening : LogEntry)
    (filter? : Option TypeFilter) (supply : RecordedSupply) (object : Instance) :
    (injector.runRecorded opening filter? supply object).answer =
      injector.run opening filter? supply.answers object := by
  unfold runRecorded run
  cases planned : (injector.plan object.lineage filter?).result with
  | error error => simp only [planned, Recorded.answer_pure]
  | ok bindings =>
      simp only [planned, Recorded.answer_bind, Recorded.answer_pure,
        Binding.answer_applyAllRecorded]

end Injector

/-! ## What the lookup is asked -/

theorem Lineage.asksNothing_ascendRecorded (lineage : Lineage) (level steps : Nat)
    (target : Target) : (lineage.ascendRecorded level steps target).AsksNothing := by
  induction lineage generalizing level steps target with
  | root own => cases steps <;> rfl
  | child own upcast parent inductionHypothesis =>
      cases steps with
      | zero => rfl
      | succ steps =>
          refine Recorded.AsksNothing.bind rfl fun climbed => ?_
          cases climbed with
          | none => rfl
          | some distance =>
              refine (inductionHypothesis (level + 1) steps (target.drop distance)).bind ?_
              intro rest
              cases rest <;> rfl

theorem Found.asksNothing_bindRecorded (found : Found) (object : Instance) (value : Value) :
    (found.bindRecorded object value).AsksNothing := by
  unfold bindRecorded
  cases found.member.accessor? with
  | none => rfl
  | some accessor =>
      refine (object.lineage.asksNothing_ascendRecorded 0 found.depth object.parts).bind ?_
      intro reached
      cases reached <;> rfl

namespace Binding

/-- A binding asks for what its supply asks for. -/
theorem asked_applyRecorded (supply : RecordedSupply) (binding : Binding) (object : Instance) :
    (binding.applyRecorded supply object).calls.filterMap Call.asked? =
      (supply binding.name).calls.filterMap Call.asked? := by
  have after : ∀ supplied : Except BindError Value, (match supplied with
      | .error error => pure (.error error, object)
      | .ok value => binding.found.bindRecorded object value :
        Recorded (Except BindError Unit × Instance)).AsksNothing := by
    intro supplied
    cases supplied with
    | error error => rfl
    | ok value => exact binding.found.asksNothing_bindRecorded object value
  unfold applyRecorded
  rw [Recorded.calls_bind, List.filterMap_append]
  exact (congrArg _ (after _)).trans (List.append_nil _)

theorem asked_applyAllRecorded (supply : RecordedSupply) (bindings : List Binding)
    (object : Instance) :
    (applyAllRecorded supply bindings object).calls.filterMap Call.asked? =
      bindings.flatMap fun binding => (supply binding.name).calls.filterMap Call.asked? := by
  induction bindings generalizing object with
  | nil => rfl
  | cons binding rest inductionHypothesis =>
      rw [applyAllRecorded, List.flatMap_cons, ← binding.asked_applyRecorded supply object]
      simp only [Recorded.calls_bind, Recorded.calls_pure, List.append_nil,
        List.filterMap_append, inductionHypothesis]

end Binding

namespace Injector

variable {injector : Injector} {opening : LogEntry} {filter? : Option TypeFilter}
  {supply : RecordedSupply} {object : Instance} {bindings : List Binding}

/-- Without a plan, nothing is called. -/
theorem calls_runRecorded_of_failed {error : DiscoveryError}
    (failed : (injector.plan object.lineage filter?).result = .error error) :
    (injector.runRecorded opening filter? supply object).calls = [] := by
  simp only [runRecorded, failed, Recorded.calls_pure]

theorem asked_runRecorded_of_planned
    (planned : (injector.plan object.lineage filter?).result = .ok bindings) :
    (injector.runRecorded opening filter? supply object).calls.filterMap Call.asked? =
      bindings.flatMap fun binding => (supply binding.name).calls.filterMap Call.asked? := by
  simp only [runRecorded, planned, Recorded.calls_bind, Recorded.calls_pure, List.append_nil,
    Binding.asked_applyAllRecorded]

/-- A run on a supply that asks nothing asks nothing either. -/
theorem asksNothing_runRecorded (silent : ∀ name, (supply name).AsksNothing) :
    (injector.runRecorded opening filter? supply object).AsksNothing := by
  cases planned : (injector.plan object.lineage filter?).result with
  | error error =>
      exact congrArg (List.filterMap Call.asked?) (calls_runRecorded_of_failed planned)
  | ok bindings =>
      refine (asked_runRecorded_of_planned planned).trans ?_
      exact List.flatMap_eq_nil_iff.mpr fun binding _ => silent binding.name

end Injector

/-! ## Failed injections -/

/-- An injection fails with its plan, and then it has done nothing at all. -/
structure Injection.FailsWith (injection : Injection) (recorded : Recorded Injection)
    (object : Instance) (plan : Lineage → Except DiscoveryError (List Binding)) : Prop where
  /-- The record is that of the injection. -/
  answer : recorded.answer = injection
  error_iff : ∀ error,
    injection.pass.result = .error error ↔ plan object.lineage = .error error
  untouched : ∀ error, plan object.lineage = .error error → injection.object = object
  uncalled : ∀ error, plan object.lineage = .error error → recorded.calls = []
  /-- The plan itself would have failed alike if there had been nothing to call. -/
  inert_iff : ∀ error,
    plan object.lineage.inert = .error error ↔ plan object.lineage = .error error

theorem Injector.failsWith_plan (injector : Injector) (opening : LogEntry)
    (filter? : Option TypeFilter) (supply : RecordedSupply) (object : Instance) :
    (injector.run opening filter? supply.answers object).FailsWith
      (injector.runRecorded opening filter? supply object) object
      fun lineage => (injector.plan lineage filter?).result := by
  constructor
  case answer => exact injector.answer_runRecorded opening filter? supply object
  case error_iff => exact fun error => result_run_eq_error_iff
  case untouched => exact fun error failed => (run_of_failed failed).2
  case uncalled => exact fun error failed => calls_runRecorded_of_failed failed
  case inert_iff =>
    intro error
    rw [result_plan_inert]
    cases (injector.plan object.lineage filter?).result <;> simp [Except.map]

/-- A failure to discover is the failure of the plan and all there is to it: the object stays
as it is, and neither an accessor nor a way nor the lookup has been called.  Only with a plan
is the lookup asked, once for each of its entries, and for a single value it is never asked. -/
theorem Injector.discovery_failures_are_atomic (injector : Injector) (object : Instance) :
    (∀ (value : Value) (kind : ValueKind),
      (injector.inject object value).FailsWith (injector.injectRecorded object value) object
          (fun lineage =>
            (injector.plan lineage (some (.including ⟨value.type, kind⟩))).result) ∧
        (injector.injectRecorded object value).AsksNothing) ∧
    ∀ lookup : BindingName → Option Value,
      (injector.injectResources object lookup).FailsWith
          (injector.injectResourcesRecorded object lookup) object
          (fun lineage => (injector.plan lineage none).result) ∧
        ∀ bindings, (injector.plan object.lineage none).result = .ok bindings →
          (injector.injectResourcesRecorded object lookup).calls.filterMap Call.asked? =
            bindings.map (·.name) := by
  constructor
  · intro value kind
    exact ⟨injector.failsWith_plan _ _ (RecordedSupply.constant value) object,
      asksNothing_runRecorded fun _ => rfl⟩
  · intro lookup
    have fails := injector.failsWith_plan
      (.injectingResources injector.marker object.lineage.name) none
      (RecordedSupply.ofLookup lookup) object
    rw [RecordedSupply.answers_ofLookup] at fails
    refine ⟨fails, ?_⟩
    intro bindings planned
    refine (asked_runRecorded_of_planned planned).trans ?_
    simp only [RecordedSupply.calls_ofLookup, List.filterMap_cons, Call.asked?,
      List.filterMap_nil]
    exact List.map_eq_flatMap.symm

/-! ## A cabinet that is refused in three ways -/

namespace Cabinet

open Sample (text stored)

/-- The label is bound without trouble, but the very last setter is static. -/
def box : Declaration where
  key := 0
  name := "Box"
  type := ⟨"Box"⟩
  setters := [stored "context" .setter "setKey" ⟨"Cabinet"⟩,
    { stored "resource" .setter "setLock" ⟨"Cabinet"⟩ with modifiers := { isStatic := true } }]

def cabinet : Declaration where
  key := 1
  name := "Cabinet"
  type := ⟨"Cabinet"⟩
  fields :=
    [stored "resource" .field "label" ⟨"Cabinet"⟩, stored "context" .field "key" ⟨"Cabinet"⟩]

def lineage : Lineage := .child cabinet Upcast.itself (.root box)

def label : Found := ⟨cabinet, .fields, 0, stored "resource" .field "label" ⟨"Cabinet"⟩, 0⟩

/-- A cabinet that has a label already. -/
def labelled : Instance := (label.bind (.fresh lineage) ⟨text.type, .text "tools"⟩).2

def value : Value := ⟨text.type, .text "paper"⟩

/-- A broken rule, a clash of names, and nothing to be found. -/
def refusals : List (Injector × DiscoveryError) :=
  [(⟨"resource", {}⟩, .structural "Box" "setLock" .setter "resource" .static),
    (⟨"context", { distinctNames := true }⟩,
      .duplicateBindingName "key" "Cabinet::key" "Box::setKey"),
    (⟨"service_ref", { requireMatch := true }⟩,
      .emptyMatchSet "Cabinet" "service_ref" (some "Text"))]

/-- The label could be bound anew, but no refused injection gets as far as that. -/
theorem refused_cabinet_is_untouched :
    (label.bind labelled value).1 = .ok () ∧
    ∀ refusal ∈ refusals, (refusal.1.inject labelled value).pass.result = .error refusal.2 ∧
      (refusal.1.inject labelled value).object = labelled ∧
        (refusal.1.injectRecorded labelled value).calls = [] ∧
          (refusal.1.injectResources labelled fun _ => some value).object = labelled ∧
            (refusal.1.injectResourcesRecorded labelled fun _ => some value).calls = [] := by
  refine ⟨rfl, ?_⟩
  rintro ⟨injector, error⟩ refused
  have failed : (injector.plan lineage (some (.including ⟨text.type, .void⟩))).result =
        .error error ∧
      ∃ other, (injector.plan lineage none).result = .error other := by
    simp only [refusals, List.mem_cons, Prod.mk.injEq, List.not_mem_nil, or_false] at refused
    rcases refused with ⟨rfl, rfl⟩ | ⟨rfl, rfl⟩ | ⟨rfl, rfl⟩ <;> exact ⟨rfl, _, rfl⟩
  obtain ⟨failed, other, failedResources⟩ := failed
  obtain ⟨typed, resources⟩ := injector.discovery_failures_are_atomic labelled
  obtain ⟨typed, -⟩ := typed value .void
  obtain ⟨resources, -⟩ := resources fun _ => some value
  exact ⟨(typed.error_iff error).mpr failed, typed.untouched error failed,
    typed.uncalled error failed, resources.untouched other failedResources,
    resources.uncalled other failedResources⟩

end Cabinet

end Wiring
