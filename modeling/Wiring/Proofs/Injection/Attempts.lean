import Wiring.Proofs.Injection.Outcomes

/-!
# The attempts of a run

Every binding that an injection tries may change what the next one finds.  Where the climb to a
member leads is therefore a matter of the moment, and reports do not tell it.  The attempts of a
run are its outcomes, and keep beside each of them how far the climb got when the binding was
tried.
-/

namespace Wiring

/-- What became of a planned binding, and how far the climb to its member got at the time. -/
structure Attempt extends Outcome where
  climb : Except BindError Nat

/-- A value that was bound to a find, in the part that the climb had reached then. -/
structure Success where
  found : Found
  value : Value
  position : Nat

/-- What a report can tell of a success. -/
def Success.told (success : Success) : Found × Value := (success.found, success.value)

/-- The attempt with what was supplied for it, if it succeeded. -/
def Attempt.success? (supply : Supply) (attempt : Attempt) : Option Success :=
  match attempt.result, supply attempt.binding.name, attempt.climb with
  | .ok _, .ok value, .ok position => some ⟨attempt.binding.found, value, position⟩
  | _, _, _ => none

namespace Binding

/-- Try one binding, and see how far the climb gets. -/
def attempt (supply : Supply) (object : Instance) (binding : Binding) : Attempt :=
  ⟨⟨binding, (binding.apply supply object).1⟩, object.reach binding.found.depth⟩

/-- Try bindings in order, each on what the ones before it left of the object. -/
def attempts (supply : Supply) : List Binding → Instance → List Attempt
  | [], _ => []
  | binding :: rest, object =>
      binding.attempt supply object :: attempts supply rest (binding.apply supply object).2

variable {supply : Supply} {binding : Binding} {bindings : List Binding} {object : Instance}
  {value : Value} {position : Nat}

theorem attempts_cons (supply : Supply) (binding : Binding) (rest : List Binding)
    (object : Instance) :
    attempts supply (binding :: rest) object =
      binding.attempt supply object :: attempts supply rest (binding.apply supply object).2 :=
  rfl

/-- The attempts of a run are its outcomes, and only tell more about them. -/
theorem map_toOutcome_attempts (supply : Supply) (bindings : List Binding) (object : Instance) :
    (attempts supply bindings object).map Attempt.toOutcome =
      (applyAll supply bindings object).1 := by
  induction bindings generalizing object with
  | nil => rfl
  | cons binding rest inductionHypothesis =>
      rw [attempts_cons, applyAll_cons, List.map_cons, inductionHypothesis]
      rfl

/-- What an attempt tells was so on some object of the type. -/
theorem exists_object_of_mem_attempts {attempt : Attempt}
    (present : attempt ∈ attempts supply bindings object) :
    attempt.binding ∈ bindings ∧ ∃ current : Instance, current.lineage = object.lineage ∧
      attempt = attempt.binding.attempt supply current := by
  induction bindings generalizing object with
  | nil => simp [attempts] at present
  | cons binding rest inductionHypothesis =>
      rw [attempts_cons] at present
      rcases List.mem_cons.mp present with rfl | later
      · exact ⟨List.mem_cons_self, object, rfl, rfl⟩
      · obtain ⟨planned, current, sameType, told⟩ := inductionHypothesis later
        rw [lineage_apply] at sameType
        exact ⟨List.mem_cons_of_mem binding planned, current, sameType, told⟩

/-- A binding succeeds only with a value, and only where the climb arrives. -/
theorem arrives_of_apply_ok (success : (binding.apply supply object).1 = .ok ()) :
    ∃ value position, supply binding.name = .ok value ∧
      object.reach binding.found.depth = .ok position := by
  cases supplied : supply binding.name with
  | error error =>
      rw [apply_of_withheld supplied] at success
      contradiction
  | ok value =>
      rw [apply_of_supplied supplied] at success
      obtain ⟨position, reached⟩ := Instance.exists_reach_of_bound success
      exact ⟨value, position, rfl, reached⟩

theorem success?_attempt_of_ok (supplied : supply binding.name = .ok value)
    (reached : object.reach binding.found.depth = .ok position)
    (success : (binding.apply supply object).1 = .ok ()) :
    (binding.attempt supply object).success? supply = some ⟨binding.found, value, position⟩ := by
  simp only [attempt, Attempt.success?, success, supplied, reached]

theorem success?_attempt_of_error {error : BindError}
    (failed : (binding.apply supply object).1 = .error error) :
    (binding.attempt supply object).success? supply = none := by
  simp only [attempt, Attempt.success?, failed]

/-- The successes of a run are what its report calls bound, with the values supplied for it. -/
theorem map_told_successes (supply : Supply) (bindings : List Binding) (object : Instance) :
    ((attempts supply bindings object).filterMap (Attempt.success? supply)).map Success.told =
      ((applyAll supply bindings object).1.filterMap Outcome.bound?).filterMap fun binding =>
        (supply binding.name).toOption.map (binding.found, ·) := by
  induction bindings generalizing object with
  | nil => rfl
  | cons binding rest inductionHypothesis =>
      rw [attempts_cons, applyAll_cons]
      cases result : (binding.apply supply object).1 with
      | error error =>
          rw [List.filterMap_cons_none (success?_attempt_of_error result)]
          exact inductionHypothesis _
      | ok _ =>
          obtain ⟨value, position, supplied, reached⟩ := arrives_of_apply_ok result
          have told : (supply binding.name).toOption.map (binding.found, ·) =
              some (binding.found, value) := by
            rw [supplied]
            rfl
          rw [List.filterMap_cons_some (success?_attempt_of_ok supplied reached result),
            List.map_cons, inductionHypothesis]
          simp [Outcome.bound?, told, Success.told]

end Binding

end Wiring
