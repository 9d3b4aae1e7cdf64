import Wiring.Log

/-!
# Passes

A pass answers or fails, and either way it has logged what it did until then.
Passes are run one after the other: the second starts only when the first has
answered, and its log follows that of the first.
-/

namespace Wiring

/-- The outcome of a pass and what it logged, earliest first. -/
structure Pass (α : Type) where
  log : List LogEntry
  result : Except DiscoveryError α

namespace Pass

variable {α β : Type}

/-- An answer that logs nothing. -/
def answer (value : α) : Pass α := ⟨[], .ok value⟩

/-- A check that logs nothing. -/
def check (result : Except DiscoveryError α) : Pass α := ⟨[], result⟩

/-- Log one entry. -/
def note (entry : LogEntry) : Pass Unit := ⟨[entry], .ok ()⟩

/-- Run a pass and then, if it answered, another. -/
def andThen (first : Pass α) (next : α → Pass β) : Pass β :=
  match first.result with
  | .error error => ⟨first.log, .error error⟩
  | .ok value => ⟨first.log ++ (next value).log, (next value).result⟩

instance : Monad Pass where
  pure := answer
  bind := andThen

@[simp]
theorem log_pure (value : α) : (pure value : Pass α).log = [] :=
  rfl

@[simp]
theorem result_pure (value : α) : (pure value : Pass α).result = .ok value :=
  rfl

@[simp]
theorem log_check (result : Except DiscoveryError α) : (check result).log = [] :=
  rfl

@[simp]
theorem result_check (result : Except DiscoveryError α) : (check result).result = result :=
  rfl

@[simp]
theorem log_note (entry : LogEntry) : (note entry).log = [entry] :=
  rfl

@[simp]
theorem result_note (entry : LogEntry) : (note entry).result = .ok () :=
  rfl

theorem log_bind_of_ok {first : Pass α} {value : α} (next : α → Pass β)
    (answered : first.result = .ok value) :
    (first >>= next).log = first.log ++ (next value).log := by
  change (andThen first next).log = _
  simp [andThen, answered]

theorem result_bind_of_ok {first : Pass α} {value : α} (next : α → Pass β)
    (answered : first.result = .ok value) : (first >>= next).result = (next value).result := by
  change (andThen first next).result = _
  simp [andThen, answered]

theorem log_bind_of_error {first : Pass α} {error : DiscoveryError} (next : α → Pass β)
    (failed : first.result = .error error) : (first >>= next).log = first.log := by
  change (andThen first next).log = _
  simp [andThen, failed]

/-- A failure ends the whole run. -/
theorem result_bind_of_error {first : Pass α} {error : DiscoveryError} (next : α → Pass β)
    (failed : first.result = .error error) : (first >>= next).result = .error error := by
  change (andThen first next).result = _
  simp [andThen, failed]

/-- The answer of a run is the answer of the second pass to that of the
first. -/
theorem result_bind (first : Pass α) (next : α → Pass β) :
    (first >>= next).result = first.result.bind fun value => (next value).result := by
  cases answered : first.result with
  | ok value => exact result_bind_of_ok next answered
  | error error => exact result_bind_of_error next answered

end Pass

end Wiring
