import Mathlib.Logic.Function.Basic
import Wiring.Proofs.Injection.Attempts
import Wiring.Proofs.Object.Gain
import Wiring.Proofs.Plan.Order
import Wiring.Proofs.Sample

/-!
# Books on what was written

A run of operations works on several objects, in any order.  The books on such a run list its
successes: which find was bound, to which value, and how far its climb had got at that moment.
They can be checked against the answers, since a report speaks of each success of its pass and a
direct binding of its own.  The parts of every object have then gained exactly what the books
say, in the same order.
-/

namespace Wiring

/-- What can be done to a live object. -/
inductive Operation where
  | inject (injector : Injector) (value : Value)
  | injectResources (injector : Injector) (lookup : BindingName → Option Value)
  /-- Bind a value to a single find, which may come from any plan. -/
  | bind (found : Found) (value : Value)

/-- What the caller of an operation is told. -/
inductive Answer where
  | reported (result : Except DiscoveryError Report)
  | bound (result : Except BindError Unit)

/-- What a success writes, and to which part. -/
def Success.posting (slotOf : Member → String) (success : Success) : Posting :=
  success.found.posting slotOf success.value success.position

/-- The successes among the attempts at what an injector plans for an object. -/
def Injector.successes (injector : Injector) (filter? : Option TypeFilter) (supply : Supply)
    (object : Instance) : List Success :=
  match (injector.plan object.lineage filter?).result with
  | .error _ => []
  | .ok bindings => (Binding.attempts supply bindings object).filterMap (Attempt.success? supply)

namespace Operation

/-- The answer of the operation, and the object afterwards. -/
def perform : Operation → Instance → Answer × Instance
  | inject injector value, object =>
      let injection := injector.inject object value
      (.reported injection.pass.result, injection.object)
  | injectResources injector lookup, object =>
      let injection := injector.injectResources object lookup
      (.reported injection.pass.result, injection.object)
  | bind found value, object =>
      let tried := found.bind object value
      (.bound tried.1, tried.2)

/-- What the operation binds on the object as it is. -/
def successes : Operation → Instance → List Success
  | inject injector value, object =>
      injector.successes (some (.including ⟨value.type, .reference⟩)) (Supply.constant value)
        object
  | injectResources injector lookup, object =>
      injector.successes none (Supply.ofLookup lookup) object
  | bind found value, object =>
      match (found.bind object value).1, object.reach found.depth with
      | .ok _, .ok position => [⟨found, value, position⟩]
      | _, _ => []

/-- The finds that the operation has bound according to its answer, each with the value that was
supplied for it. -/
def told : Operation → Answer → List (Found × Value)
  | inject _ value, .reported (.ok report) =>
      report.bound.map fun binding => (binding.found, value)
  | injectResources _ lookup, .reported (.ok report) =>
      report.bound.filterMap fun binding => (lookup binding.name).map (binding.found, ·)
  | bind found value, .bound (.ok _) => [(found, value)]
  | _, _ => []

end Operation

section

variable {slotOf : Member → String} {object : Instance} {found : Found} {value : Value}
  {position : Nat}

theorem Lineage.WritesOnce.of_found {lineage : Lineage} {scope : MemberScope}
    (faithful : lineage.WritesOnce slotOf) (present : found ∈ lineage.found scope) :
    found.member.WritesOnce slotOf := by
  intro accessor given
  exact EveryAccessor.of_found faithful present given

end

/-! ## One pass -/

namespace Binding

variable {slotOf : Member → String} {supply : Supply} {binding : Binding}
  {bindings : List Binding} {object : Instance} {value : Value} {position : Nat}

end Binding

namespace Injector

variable {slotOf : Member → String} {injector : Injector} {opening : LogEntry}
  {filter? : Option TypeFilter} {supply : Supply} {object : Instance} {report : Report}

theorem successes_of_planned {bindings : List Binding}
    (planned : (injector.plan object.lineage filter?).result = .ok bindings) :
    injector.successes filter? supply object =
      (Binding.attempts supply bindings object).filterMap (Attempt.success? supply) := by
  simp only [successes, planned]

/-- A report speaks of the successes of its pass. -/
theorem map_told_successes_of_reported
    (reported : (injector.run opening filter? supply object).pass.result = .ok report) :
    (injector.successes filter? supply object).map Success.told =
      report.bound.filterMap fun binding =>
        (supply binding.name).toOption.map (binding.found, ·) := by
  obtain ⟨bindings, planned, rfl⟩ := result_run_eq_ok_iff.mp reported
  rw [successes_of_planned planned]
  exact Binding.map_told_successes supply bindings object

end Injector

/-! ## One operation -/

namespace Operation

variable {slotOf : Member → String} {object : Instance} {operation : Operation}

/-- The member of a direct binding writes once to its slot. -/
def WritesOnce (slotOf : Member → String) : Operation → Prop
  | inject _ _ => True
  | injectResources _ _ => True
  | bind found _ => found.member.WritesOnce slotOf

/-- The successes of an operation are those that its answer tells. -/
theorem map_told_successes (operation : Operation) (object : Instance) :
    (operation.successes object).map Success.told =
      operation.told (operation.perform object).1 := by
  cases operation with
  | inject injector value =>
      cases reported : (injector.inject object value).pass.result with
      | error error =>
          have failed := Injector.result_run_eq_error_iff.mp reported
          simp only [successes, Injector.successes, failed, perform, reported, told, List.map_nil]
      | ok report =>
          simp only [perform, reported, told]
          refine (Injector.map_told_successes_of_reported reported).trans ?_
          exact congrFun (@List.filterMap_eq_map _ _ fun binding : Binding =>
            (binding.found, value)) report.bound
  | injectResources injector lookup =>
      cases reported : (injector.injectResources object lookup).pass.result with
      | error error =>
          have failed := Injector.result_run_eq_error_iff.mp reported
          simp only [successes, Injector.successes, failed, perform, reported, told, List.map_nil]
      | ok report =>
          simp only [perform, reported, told]
          refine (Injector.map_told_successes_of_reported reported).trans ?_
          simp only [Supply.toOption_ofLookup]
  | bind found value =>
      cases bound : (found.bind object value).1 with
      | error error => simp only [successes, perform, bound, told, List.map_nil]
      | ok _ =>
          obtain ⟨position, reached⟩ := Instance.exists_reach_of_bound bound
          simp only [successes, perform, bound, reached, told]
          rfl

end Operation

/-! ## A run of operations -/

section

variable {Key : Type} [DecidableEq Key] {slotOf : Member → String}
  {steps : List (Key × Operation)} {objects : Key → Instance} {key : Key}
  {operation : Operation}

end

/-! ## Two lamps -/

namespace Lamp

open Sample (text sharing injector)

/-- The bulb is a part of the device that is looked for in the lamp itself. -/
def device : Declaration where
  key := 0
  name := "Device"
  type := ⟨"Device"⟩
  fields :=
    [sharing "light" .field "bulb" ⟨"Lamp"⟩ none, sharing "mains" .field "plug" ⟨"Device"⟩ none]

def lamp : Declaration where
  key := 1
  name := "Lamp"
  type := ⟨"Lamp"⟩
  fields := [sharing "light" .field "glow" ⟨"Lamp"⟩ none]
  setters := [sharing "light" .setter "setShade" ⟨"Lamp"⟩ none]

def lineage (upcast : Upcast) : Lineage := .child lamp upcast (.root device)

def slotOf (member : Member) : String :=
  if member.ident = "plug" then "mains" else "light"

def demanding : Injector := ⟨"context", { requireMatch := true }⟩

/-- There is no shade in store. -/
def store (name : BindingName) : Option Value :=
  if name.text = "shade" then none else some ⟨text.type, .text name.text⟩

end Lamp

end Wiring
