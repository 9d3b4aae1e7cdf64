import Wiring.Injection.Plan
import Wiring.Injection.Report
import Wiring.Object.Instance

/-!
# Injection

An injection plans first and binds afterwards.  If the plan fails, that failure
is the answer and the object is left as it was.  Otherwise every planned binding
is tried in order, each on what the ones before it left of the object.  A
binding that fails is reported and skipped; it keeps none of the others from
being tried.

Values come from a supply, which is asked once for each planned binding: a typed
injection supplies one value to all members of its type, and an injection of
resources looks a value up under the name of each member.
-/

namespace Wiring

/-- Bind a value to a found member of an object. -/
def Found.bind (found : Found) (object : Instance) (value : Value) :
    Except BindError Unit × Instance :=
  object.bind found.member found.depth value

/-- Where the value for a binding comes from. -/
abbrev Supply := BindingName → Except BindError Value

namespace Supply

/-- The same value for every binding. -/
def constant (value : Value) : Supply := fun _ => .ok value

/-- The value that a lookup knows under the name of the binding. -/
def ofLookup (lookup : BindingName → Option Value) : Supply := fun name =>
  match lookup name with
  | some value => .ok value
  | none => .error (.missingResource name.text)

end Supply

namespace Binding

/-- Try one binding. -/
def apply (supply : Supply) (binding : Binding) (object : Instance) :
    Except BindError Unit × Instance :=
  match supply binding.name with
  | .error error => (.error error, object)
  | .ok value => binding.found.bind object value

/-- Try bindings in order. -/
def applyAll (supply : Supply) : List Binding → Instance → List Outcome × Instance
  | [], object => ([], object)
  | binding :: rest, object =>
      let tried := binding.apply supply object
      let others := applyAll supply rest tried.2
      (⟨binding, tried.1⟩ :: others.1, others.2)

@[simp]
theorem applyAll_nil (supply : Supply) (object : Instance) :
    applyAll supply [] object = ([], object) :=
  rfl

theorem applyAll_cons (supply : Supply) (binding : Binding) (rest : List Binding)
    (object : Instance) :
    applyAll supply (binding :: rest) object =
      (⟨binding, (binding.apply supply object).1⟩ ::
          (applyAll supply rest (binding.apply supply object).2).1,
        (applyAll supply rest (binding.apply supply object).2).2) :=
  rfl

/-- Every binding has its outcome, in the order of the plan. -/
theorem map_binding_applyAll (supply : Supply) (bindings : List Binding) (object : Instance) :
    (applyAll supply bindings object).1.map Outcome.binding = bindings := by
  induction bindings generalizing object with
  | nil => rfl
  | cons binding rest inductionHypothesis =>
      simp [applyAll_cons, inductionHypothesis]

end Binding

/-- What is logged about a binding that was tried. -/
def Outcome.entry (outcome : Outcome) : LogEntry :=
  match outcome.result with
  | .ok _ => .bound outcome.binding.found.qualifiedName outcome.binding.name.text
  | .error error =>
      .skipped outcome.binding.found.qualifiedName outcome.binding.name.text error

/-- The whole effect of an injection: its report or failure with the log, and
the object afterwards. -/
structure Injection where
  pass : Pass Report
  object : Instance

namespace Injector

/-- Plan for the type of an object and bind what the supply has. -/
def run (injector : Injector) (opening : LogEntry) (filter? : Option TypeFilter)
    (supply : Supply) (object : Instance) : Injection :=
  let planned := injector.plan object.lineage filter?
  match planned.result with
  | .error error => ⟨⟨opening :: planned.log, .error error⟩, object⟩
  | .ok bindings =>
      let applied := Binding.applyAll supply bindings object
      ⟨⟨opening :: (planned.log ++ applied.1.map Outcome.entry),
          .ok (Report.ofOutcomes object.lineage.name applied.1)⟩,
        applied.2⟩

/-- Bind a value to every marked member of exactly its type. -/
def inject (injector : Injector) (object : Instance) (value : Value) : Injection :=
  injector.run (.injecting injector.marker object.lineage.name value.type.name)
    (some (.including ⟨value.type, .reference⟩)) (Supply.constant value) object

/-- Bind every marked member to what a lookup knows under its name.  A name that
the lookup does not know skips the member. -/
def injectResources (injector : Injector) (object : Instance)
    (lookup : BindingName → Option Value) : Injection :=
  injector.run (.injectingResources injector.marker object.lineage.name) none
    (Supply.ofLookup lookup) object

end Injector

end Wiring
