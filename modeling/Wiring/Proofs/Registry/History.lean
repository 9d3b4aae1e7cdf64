import Mathlib.Data.List.Induction
import Wiring.Injection.Registry

/-!
# Histories of registries

A registry comes about by registrations and removals.  Of all that was done to it, only the
last change under a name decides what stands under that name, so that changes under one
name are never seen under another.
-/

namespace Wiring

/-- One change to a registry. -/
inductive Registration where
  | insert (name : String) (value : Value)
  | remove (name : String)

namespace Registration

/-- The name that the change is made under. -/
def name : Registration → String
  | insert name _ => name
  | remove name => name

/-- The value that the change leaves under its name. -/
def value? : Registration → Option Value
  | insert _ value => some value
  | remove _ => none

/-- The changes of a history that were made under a name, in order. -/
def under (name : String) (history : List Registration) : List Registration :=
  history.filter fun change => change.name = name

/-- The value that was registered under a name most recently and has not been removed
since. -/
def latest? (name : String) (history : List Registration) : Option Value :=
  (under name history).getLast?.bind value?

theorem latest?_append_singleton (name : String) (history : List Registration)
    (change : Registration) :
    latest? name (history ++ [change]) =
      if change.name = name then change.value? else latest? name history := by
  by_cases same : change.name = name <;> simp [latest?, under, same]

end Registration

namespace Registry

/-- Make one change. -/
def change (registry : Registry) : Registration → Registry
  | .insert name value => registry.insert name value
  | .remove name => (registry.remove name).2

/-- The registry that a history leads to. -/
def ofHistory (history : List Registration) : Registry := history.foldl change empty

/-- A change is seen under its own name only. -/
theorem find?_change (registry : Registry) (registration : Registration) (name : String) :
    (registry.change registration).find? name =
      if registration.name = name then registration.value? else registry.find? name := by
  cases registration with
  | insert other value => exact registry.find?_insert other name value
  | remove other => exact registry.find?_remove other name

/-- What stands under a name is what was registered there last. -/
theorem find?_ofHistory (history : List Registration) (name : String) :
    (ofHistory history).find? name = Registration.latest? name history := by
  induction history using List.reverseRecOn with
  | nil => exact find?_empty name
  | append_singleton history last inductionHypothesis =>
      have step : ofHistory (history ++ [last]) = (ofHistory history).change last := by
        simp [ofHistory]
      rw [step, find?_change, Registration.latest?_append_singleton, inductionHypothesis]

theorem lookup_ofHistory (history : List Registration) :
    (ofHistory history).lookup = fun name => Registration.latest? name.text history := by
  funext name
  exact find?_ofHistory history name.text

/-- A change under the empty name or under some other name is not looked up. -/
theorem lookup_change {registration : Registration} {name : BindingName} (registry : Registry)
    (apart : registration.name = "" ∨ name.text ≠ registration.name) :
    (registry.change registration).lookup name = registry.lookup name := by
  have elsewhere : registration.name ≠ name.text := by
    rcases apart with empty | other
    · rw [empty]
      exact name.text_ne_empty.symm
    · exact other.symm
  exact (registry.find?_change registration name.text).trans (if_neg elsewhere)

end Registry

end Wiring
