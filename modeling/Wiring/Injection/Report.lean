import Wiring.Match.Naming

/-!
# Reports

The report of a pass lists what it bound and what it skipped, each in the order
of the plan.  Only failures to bind are reported; a pass whose plan fails has no
report at all.
-/

namespace Wiring

/-- What became of one planned binding. -/
structure Outcome where
  binding : Binding
  result : Except BindError Unit

/-- A planned binding that failed. -/
structure Skipped where
  binding : Binding
  error : BindError

namespace Skipped

/-- Skipped bindings are compared with their failures. -/
instance : BEq Skipped where
  beq left right := left.binding == right.binding && left.error == right.error

end Skipped

namespace Outcome

/-- The binding, if it succeeded. -/
def bound? (outcome : Outcome) : Option Binding :=
  match outcome.result with
  | .ok _ => some outcome.binding
  | .error _ => none

/-- The binding and its failure, if it failed. -/
def skipped? (outcome : Outcome) : Option Skipped :=
  match outcome.result with
  | .ok _ => none
  | .error error => some ⟨outcome.binding, error⟩

end Outcome

/-- What a pass did to one object. -/
structure Report where
  /-- The name of the object's type. -/
  target : String
  bound : List Binding
  skipped : List Skipped

namespace Report

/-- Reports are compared by all that they list. -/
instance : BEq Report where
  beq left right :=
    left.target == right.target && left.bound == right.bound && left.skipped == right.skipped

/-- The report of what became of the bindings of a plan. -/
def ofOutcomes (target : String) (outcomes : List Outcome) : Report where
  target := target
  bound := outcomes.filterMap Outcome.bound?
  skipped := outcomes.filterMap Outcome.skipped?

/-- Whether every planned binding succeeded. -/
def isComplete (report : Report) : Bool := report.skipped.isEmpty

/-- The names that were bound, in the order of the plan. -/
def boundNames (report : Report) : List BindingName := report.bound.map (·.name)

/-- The names that were skipped, in the order of the plan. -/
def skippedNames (report : Report) : List BindingName := report.skipped.map (·.binding.name)

/-- A line for the object, then one for each binding, bound before skipped. -/
def describe (report : Report) : String :=
  report.target ++ ": " ++ toString report.bound.length ++ " bound, " ++
    toString report.skipped.length ++ " skipped\n" ++
    String.join (report.bound.map fun binding => "  bound " ++ binding.describe ++ "\n") ++
    String.join (report.skipped.map fun skipped =>
      "  skipped " ++ skipped.binding.describe ++ ": " ++ skipped.error.message ++ "\n")

end Report

end Wiring
