import Wiring.Proofs.Injection.Attempts
import Wiring.Proofs.Name.Resolution
import Wiring.Proofs.Plan.Parent

/-!
# Reports as the parent counts them

A report on an object also speaks of the levels above the own one.  Counted from the
parent, own members are not reported, all others are one level nearer, and a climb that
ended is one step shorter.  The last holds only of climbs: an accessor may word a refusal
as it likes, and the parent meets with it in the same words.  Which of the two a failure is
can be told from the attempt and not from the report.
-/

namespace Wiring

/-- The failure as it is counted from one level higher up. -/
def BindError.fromParent : BindError → BindError
  | .ancestorUnreachable depth => .ancestorUnreachable (depth - 1)
  | error => error

theorem BindError.fromParent_of_ne {error : BindError}
    (other : ∀ depth, error ≠ .ancestorUnreachable depth) : error.fromParent = error := by
  cases error with
  | ancestorUnreachable depth => exact absurd rfl (other depth)
  | _ => rfl

/-- No value is withheld for the reason that a climb ended. -/
def Supply.LeavesClimbs (supply : Supply) : Prop :=
  ∀ name depth, supply name ≠ .error (.ancestorUnreachable depth)

theorem Supply.leavesClimbs_constant (value : Value) : (constant value).LeavesClimbs := by
  intro name depth withheld
  contradiction

theorem Supply.leavesClimbs_ofLookup (lookup : BindingName → Option Value) :
    (ofLookup lookup).LeavesClimbs := by
  intro name depth withheld
  unfold ofLookup at withheld
  cases known : lookup name <;> simp [known] at withheld

/-- The skipped binding as it is counted from the parent, where own bindings of the
type are not reported. -/
def Skipped.fromParent? (skipped : Skipped) : Option Skipped :=
  (skipped.binding.select? Found.fromParent?).map fun binding =>
    ⟨binding, skipped.error.fromParent⟩

/-- What a report says of the levels above the own one, as a report on the parent. -/
def Report.fromParent (target : String) (report : Report) : Report where
  target := target
  bound := report.bound.filterMap (Binding.select? Found.fromParent?)
  skipped := report.skipped.filterMap Skipped.fromParent?

/-- The failure of an attempt as the parent meets with it.  Only if the climb ended, which the
accessor then was not asked about, it is counted from one level higher up. -/
def BindError.metByParent (climb : Except BindError Nat) (error : BindError) : BindError :=
  match climb with
  | .ok _ => error
  | .error _ => error.fromParent

@[simp]
theorem BindError.metByParent_ok (distance : Nat) (error : BindError) :
    error.metByParent (.ok distance) = error :=
  rfl

@[simp]
theorem BindError.metByParent_error (ended error : BindError) :
    error.metByParent (.error ended) = error.fromParent :=
  rfl

/-- Failures that are not the end of a climb are met with unchanged. -/
theorem BindError.metByParent_eq_self {error : BindError} (kept : error.fromParent = error)
    (climb : Except BindError Nat) : error.metByParent climb = error := by
  cases climb with
  | ok distance => rfl
  | error ended => exact kept

/-- The outcome of an attempt as the parent meets with it, where own bindings of the type are
not tried. -/
def Attempt.metByParent? (attempt : Attempt) : Option Outcome :=
  (attempt.binding.select? Found.fromParent?).map fun binding =>
    ⟨binding, attempt.result.mapError (BindError.metByParent attempt.climb)⟩

theorem Attempt.skipped?_metByParent? {attempt : Attempt}
    (counted : ∀ error, attempt.result = .error error →
      error.metByParent attempt.climb = error.fromParent) :
    attempt.metByParent?.bind Outcome.skipped? =
      attempt.toOutcome.skipped?.bind Skipped.fromParent? := by
  obtain ⟨⟨binding, result⟩, climb⟩ := attempt
  unfold metByParent?
  cases selected : binding.select? Found.fromParent? <;> cases result <;>
    simp [Outcome.skipped?, Skipped.fromParent?, Except.mapError, selected]
  exact counted _ rfl

theorem Attempt.bound?_metByParent? (attempt : Attempt) :
    attempt.metByParent?.bind Outcome.bound? =
      attempt.toOutcome.bound?.bind (Binding.select? Found.fromParent?) := by
  obtain ⟨⟨binding, result⟩, climb⟩ := attempt
  unfold metByParent?
  cases selected : binding.select? Found.fromParent? <;> cases result <;>
    simp [Outcome.bound?, Except.mapError, selected]

/-- Where every end of a climb in a report is one, the parent's report can be read off it. -/
theorem Report.ofOutcomes_metByParent? {attempts : List Attempt} (target parentTarget : String)
    (counted : ∀ attempt ∈ attempts, ∀ error, attempt.result = .error error →
      error.metByParent attempt.climb = error.fromParent) :
    ofOutcomes parentTarget (attempts.filterMap Attempt.metByParent?) =
      (ofOutcomes target (attempts.map Attempt.toOutcome)).fromParent parentTarget := by
  unfold ofOutcomes fromParent
  simp only [List.filterMap_filterMap, List.filterMap_map]
  congr 1
  · exact List.filterMap_congr fun attempt _ => attempt.bound?_metByParent?
  · exact List.filterMap_congr fun attempt present =>
      Attempt.skipped?_metByParent? (counted attempt present)

end Wiring
