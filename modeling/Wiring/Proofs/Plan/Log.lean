import Wiring.Proofs.Plan.Verdict

/-!
# What plans log

A reader of the log sees spans and events, each with its fields.  A scan opens a span and
tells of the members that pass, one by one, until the first one that breaks a rule.  The
setters are scanned only when all the fields have passed, and whatever else a plan may still
fail for, nothing is said of it.
-/

namespace Wiring

/-- What a reader sees of a log entry. -/
structure LogLine where
  heading : LogHeading
  fields : List (String × LogField)
  deriving DecidableEq, Repr

/-- A log entry as it is seen. -/
def LogEntry.line (entry : LogEntry) : LogLine := ⟨entry.heading, entry.fields⟩

namespace LogLine

/-- The opening of a span. -/
def span (name : String) (fields : List (String × LogField)) : LogLine := ⟨.span name, fields⟩

/-- An event; its message stands before the other fields. -/
def event (severity : Severity) (message : String) (fields : List (String × LogField)) :
    LogLine :=
  ⟨.event severity, ("message", .text message) :: fields⟩

/-- A scan of some type begins. -/
def scanning (scope : MemberScope) (root : String) : LogLine :=
  span "discover" [("scope", .text scope.word), ("root", .text root)]

/-- A member is accepted. -/
def acceptedMember (found : Found) : LogLine :=
  event .debug "accepted member"
    [("member", .text found.qualifiedName), ("depth", .number found.depth)]

end LogLine

instance (found : Found) : Decidable found.Broken :=
  decidable_of_iff (found.member.violation? ≠ none) (by rw [Ne, ← Found.not_broken_iff, not_not])

/-- A continuation that logs nothing leaves the log as it is, whether it is reached or not. -/
theorem Pass.log_bind_of_silent {α β : Type} (first : Pass α) {next : α → Pass β}
    (silent : ∀ value, (next value).log = []) : (first >>= next).log = first.log := by
  cases answered : first.result with
  | ok value => rw [log_bind_of_ok next answered, silent, List.append_nil]
  | error error => rw [log_bind_of_error next answered]

/-! ## Scans -/

namespace Scanner

variable {scanner : Scanner}

theorem log_check (scanner : Scanner) (found : Found) :
    (scanner.check found).log =
      match scanner.rules.checkMember found with
      | .ok _ => [.accepted found.qualifiedName found.depth]
      | .error _ => [] := by
  unfold check
  cases scanner.rules.checkMember found <;> rfl

/-- The members are logged as far as they pass. -/
theorem log_checkAll {passes : Found → Bool}
    (decides : ∀ found, passes found = true ↔ scanner.rules.checkMember found = .ok ())
    (members : List Found) :
    (scanner.checkAll members).log =
      (members.takeWhile passes).map fun found =>
        .accepted found.qualifiedName found.depth := by
  induction members with
  | nil => rfl
  | cons head rest inductionHypothesis =>
      have checked := scanner.result_check head
      rw [checkAll_cons, List.takeWhile_cons]
      cases passed : scanner.rules.checkMember head with
      | ok _ =>
          rw [passed] at checked
          rw [if_pos ((decides head).mpr passed), Pass.log_bind_of_ok _ checked, log_check,
            passed, inductionHypothesis]
          rfl
      | error error =>
          have refused : ¬ passes head = true := by
            rw [decides, passed]
            simp
          rw [passed] at checked
          rw [if_neg refused, Pass.log_bind_of_error _ checked, log_check, passed]
          rfl

/-- A scan announces itself, and the check of the whole set is silent. -/
theorem log_discover (scanner : Scanner) (lineage : Lineage) :
    (scanner.discover (some lineage)).log =
      .discovering scanner.scope (some lineage.name) ::
        (scanner.checkAll (scanner.candidates lineage)).log := by
  unfold discover
  rw [Pass.log_bind_of_ok _ (Pass.result_note _), Pass.log_note, List.singleton_append]
  congr 1
  apply Pass.log_bind_of_silent
  intro _
  rw [Pass.log_bind_of_silent _ fun _ => Pass.log_pure _, Pass.log_check]

end Scanner

/-! ## Plans -/

namespace Injector

/-- What is seen of the scan of one scope. -/
def scanLines (injector : Injector) (filter? : Option TypeFilter) (lineage : Lineage)
    (scope : MemberScope) : List LogLine :=
  .scanning scope lineage.name ::
    ((injector.taken filter? lineage scope).takeWhile fun found => ¬ found.Broken).map
      .acceptedMember

/-- What is seen of a plan.  A field that breaks a rule keeps the setters from being
scanned. -/
def planLines (injector : Injector) (filter? : Option TypeFilter) (lineage : Lineage) :
    List LogLine :=
  injector.scanLines filter? lineage .fields ++
    if ∃ field ∈ injector.taken filter? lineage .fields, field.Broken then []
    else injector.scanLines filter? lineage .setters

theorem lines_discover (injector : Injector) (filter? : Option TypeFilter) (lineage : Lineage)
    (scope : MemberScope) :
    ((injector.scanner filter? scope).discover (some lineage)).log.map LogEntry.line =
      injector.scanLines filter? lineage scope := by
  have decides : ∀ found : Found, decide (¬ found.Broken) = true ↔
      (injector.scanner filter? scope).rules.checkMember found = .ok () := by
    intro found
    rw [decide_eq_true_iff, Found.not_broken_iff]
    exact Rules.checkStructure_eq_ok_iff.symm
  rw [Scanner.log_discover, Scanner.log_checkAll decides, candidates_scanner, List.map_cons,
    List.map_map]
  rfl

theorem lines_plan (injector : Injector) (filter? : Option TypeFilter) (lineage : Lineage) :
    (injector.plan lineage filter?).log.map LogEntry.line =
      injector.planLines filter? lineage := by
  have fieldsResult := injector.result_discover_scanner filter? lineage .fields
  unfold plan planLines
  rw [← lines_discover]
  rcases exists_first_or_forall_not Found.Broken (injector.taken filter? lineage .fields) with
    ⟨field, first⟩ | unbroken
  · obtain ⟨constraint, rule⟩ := exists_first_rule first.holds
    rw [result_checkAll_scanner_of_first first rule] at fieldsResult
    rw [if_pos ⟨field, first.mem, first.holds⟩, List.append_nil,
      Pass.log_bind_of_error _ fieldsResult]
  · have noneBroken : ¬ ∃ field ∈ injector.taken filter? lineage .fields, field.Broken := by
      rintro ⟨field, present, breaks⟩
      exact unbroken field present breaks
    rw [result_checkAll_scanner_of_unbroken unbroken] at fieldsResult
    rw [if_neg noneBroken, Pass.log_bind_of_ok _ fieldsResult, List.map_append,
      Pass.log_bind_of_silent _ fun _ => Pass.log_check _, lines_discover, lines_discover]

end Injector

end Wiring
