import Mathlib.Data.List.Forall2
import Wiring.Proofs.Injection.Outcomes
import Wiring.Proofs.Marker.Folding
import Wiring.Proofs.Plan.Log
import Wiring.Proofs.Plan.Order
import Wiring.Proofs.Sample

/-!
# What injections log

The log of an injection is its own span, then the log of the plan, and then one event for
each entry of the plan, in the same order.  These events and the report are two accounts of
the same outcomes, and neither can be told from the other: what the report calls bound was
logged as bound, and for what it skips there is a warning with the very failure that it
records.  Without a plan there is no report and no such event.
-/

namespace Wiring

namespace LogLine

/-- A value was bound to the member. -/
def boundMember (binding : Binding) : LogLine :=
  event .debug "bound member"
    [("member", .text binding.found.qualifiedName), ("name", .text binding.name.text)]

/-- The member was left out, for the given reason. -/
def skippedMember (binding : Binding) (error : BindError) : LogLine :=
  event .warn "could not bind member, skipping"
    [("member", .text binding.found.qualifiedName), ("name", .text binding.name.text),
      ("error", .text error.message)]

/-- The line is about the binding of some member. -/
def OfBinding (line : LogLine) : Prop :=
  ∃ binding, line = boundMember binding ∨ ∃ error, line = skippedMember binding error

end LogLine

/-- The warning about a skipped binding. -/
def Skipped.entry (skipped : Skipped) : LogEntry :=
  .skipped skipped.binding.found.qualifiedName skipped.binding.name.text skipped.error

/-- Whether an entry is a warning. -/
def LogEntry.isWarning (entry : LogEntry) : Bool := entry.heading = .event .warn

/-- The entry of the log says of a binding what the report says of it. -/
structure Report.Tells (report : Report) (binding : Binding) (entry : LogEntry) : Prop where
  bound : binding ∈ report.bound → entry.line = .boundMember binding
  skipped : ∀ error, ⟨binding, error⟩ ∈ report.skipped →
    entry = Skipped.entry ⟨binding, error⟩ ∧ entry.line = .skippedMember binding error
  reported : binding ∈ report.bound ∨ ∃ error, ⟨binding, error⟩ ∈ report.skipped

/-- The log tells what the injection did: it opens a span, plans, and with a plan tells of
each of its entries in turn. -/
structure Injection.Logged (injection : Injection) (opening : LogLine)
    (planning : List LogLine) (plan : Except DiscoveryError (List Binding)) : Prop where
  planned : ∀ bindings, plan = .ok bindings →
    ∃ (report : Report) (before events : List LogEntry),
      injection.pass.result = .ok report ∧ injection.pass.log = before ++ events ∧
        before.map LogEntry.line = opening :: planning ∧
        List.Forall₂ report.Tells bindings events ∧
        injection.pass.log.filter LogEntry.isWarning = report.skipped.map Skipped.entry
  failed : ∀ error, plan = .error error →
    injection.pass.result = .error error ∧
      injection.pass.log.map LogEntry.line = opening :: planning ∧
      ∀ entry ∈ injection.pass.log, ¬ entry.line.OfBinding

/-! ## Before anything is bound -/

/-- The line opens a span or tells of an accepted member. -/
def LogLine.Preliminary (line : LogLine) : Prop :=
  (∃ name, line.heading = .span name) ∨ ∃ found, line = .acceptedMember found

/-- What is logged before anything is bound is neither a warning nor about a binding. -/
theorem LogLine.Preliminary.quiet {entry : LogEntry} (preliminary : entry.line.Preliminary) :
    entry.isWarning = false ∧ ¬ entry.line.OfBinding := by
  rcases preliminary with ⟨name, opened⟩ | ⟨found, accepted⟩
  · have heading : entry.heading = .span name := opened
    constructor
    · simp [LogEntry.isWarning, heading]
    · rintro ⟨binding, bound | ⟨error, skipped⟩⟩
      · simp [bound, boundMember, event] at opened
      · simp [skipped, skippedMember, event] at opened
  · have heading : entry.heading = .event .debug := congrArg LogLine.heading accepted
    constructor
    · simp [LogEntry.isWarning, heading]
    · rw [accepted]
      rintro ⟨binding, bound | ⟨error, skipped⟩⟩
      · simp [acceptedMember, boundMember, event] at bound
      · simp [acceptedMember, skippedMember, event] at skipped

/-- A plan logs nothing but the beginnings of scans and what they accept. -/
theorem Injector.preliminary_of_mem_planLines {injector : Injector}
    {filter? : Option TypeFilter} {lineage : Lineage} {line : LogLine}
    (present : line ∈ injector.planLines filter? lineage) : line.Preliminary := by
  have scanned : ∀ scope, line ∈ injector.scanLines filter? lineage scope →
      line.Preliminary := by
    intro scope listed
    rcases List.mem_cons.mp listed with rfl | accepted
    · exact Or.inl ⟨"discover", rfl⟩
    · obtain ⟨found, -, rfl⟩ := List.mem_map.mp accepted
      exact Or.inr ⟨found, rfl⟩
  rcases List.mem_append.mp present with fields | setters
  · exact scanned .fields fields
  · split at setters
    · contradiction
    · exact scanned .setters setters

/-! ## The events of bindings -/

namespace Report

variable {target : String} {outcomes : List Outcome} {outcome : Outcome}

/-- An outcome is logged as it is reported. -/
theorem tells_entry (once : (outcomes.map Outcome.binding).Nodup)
    (present : outcome ∈ outcomes) :
    (ofOutcomes target outcomes).Tells outcome.binding outcome.entry := by
  have unique : ∀ result, ⟨outcome.binding, result⟩ ∈ outcomes → outcome.result = result := by
    intro result other
    rw [List.inj_on_of_nodup_map once present other rfl]
  constructor
  · intro bound
    have succeeded := unique _ (mem_bound_iff.mp bound)
    simp only [Outcome.entry, succeeded]
    rfl
  · intro error skipped
    have failed := unique _ (mem_skipped_iff.mp skipped)
    simp only [Outcome.entry, failed]
    exact ⟨rfl, rfl⟩
  · obtain ⟨binding, result⟩ := outcome
    cases result with
    | ok _ => exact Or.inl (mem_bound_iff.mpr present)
    | error error => exact Or.inr ⟨error, mem_skipped_iff.mpr present⟩

theorem forall₂_tells (target : String) (once : (outcomes.map Outcome.binding).Nodup) :
    List.Forall₂ (ofOutcomes target outcomes).Tells (outcomes.map Outcome.binding)
      (outcomes.map Outcome.entry) := by
  rw [List.forall₂_map_left_iff, List.forall₂_map_right_iff, List.forall₂_same]
  intro outcome present
  exact tells_entry once present

/-- There is a warning for every failure, and for nothing else. -/
theorem filter_isWarning_entries (target : String) (outcomes : List Outcome) :
    (outcomes.map Outcome.entry).filter LogEntry.isWarning =
      (ofOutcomes target outcomes).skipped.map Skipped.entry := by
  change _ = (outcomes.filterMap Outcome.skipped?).map Skipped.entry
  induction outcomes with
  | nil => rfl
  | cons outcome rest inductionHypothesis =>
      obtain ⟨binding, result⟩ := outcome
      cases result with
      | ok _ =>
          simpa [LogEntry.isWarning, Outcome.entry, LogEntry.heading, List.filterMap_cons,
            Outcome.skipped?] using inductionHypothesis
      | error error =>
          simpa [LogEntry.isWarning, Outcome.entry, LogEntry.heading, List.filterMap_cons,
            Outcome.skipped?, Skipped.entry] using inductionHypothesis

end Report

/-! ## Whole injections -/

namespace Injector

variable {injector : Injector} {opening : LogEntry} {filter? : Option TypeFilter}
  {supply : Supply} {object : Instance} {bindings : List Binding} {name : String}

theorem log_run_of_planned
    (planned : (injector.plan object.lineage filter?).result = .ok bindings) :
    (injector.run opening filter? supply object).pass.log =
      (opening :: (injector.plan object.lineage filter?).log) ++
        (Binding.applyAll supply bindings object).1.map Outcome.entry := by
  simp only [run, planned, List.cons_append]

theorem log_run_of_failed {error : DiscoveryError}
    (failed : (injector.plan object.lineage filter?).result = .error error) :
    (injector.run opening filter? supply object).pass.log =
      opening :: (injector.plan object.lineage filter?).log := by
  simp only [run, failed]

/-- What is logged before anything is bound. -/
theorem lines_opening (injector : Injector) (opening : LogEntry) (filter? : Option TypeFilter)
    (lineage : Lineage) :
    (opening :: (injector.plan lineage filter?).log).map LogEntry.line =
      opening.line :: injector.planLines filter? lineage := by
  rw [List.map_cons, lines_plan]

theorem preliminary_of_mem_opening {lineage : Lineage} (spans : opening.heading = .span name)
    {entry : LogEntry} (present : entry ∈ opening :: (injector.plan lineage filter?).log) :
    entry.line.Preliminary := by
  rcases List.mem_cons.mp present with rfl | planning
  · exact Or.inl ⟨name, spans⟩
  · have seen := List.mem_map_of_mem (f := LogEntry.line) planning
    rw [lines_plan] at seen
    exact preliminary_of_mem_planLines seen

/-- An injector keeps the canonical spelling of its kind. -/
theorem marker_of_created {spelling : String} {config : Config}
    (created : create spelling config = .ok injector) :
    injector.marker = MarkerKind.fold spelling := by
  unfold create MarkerKind.checked at created
  cases valid : config.validate with
  | error error => simp [valid, bind, Except.bind] at created
  | ok _ =>
      by_cases empty : spelling = ""
      · simp [valid, empty, bind, Except.bind] at created
      · simp only [valid, if_neg empty, bind, Except.bind, pure, Except.pure,
          Except.ok.injEq] at created
        rw [← created]

theorem logged_run (injector : Injector) (filter? : Option TypeFilter) (supply : Supply)
    (object : Instance) (spans : opening.heading = .span name) :
    (injector.run opening filter? supply object).Logged opening.line
      (injector.planLines filter? object.lineage)
      (injector.plan object.lineage filter?).result := by
  constructor
  case planned =>
    intro bindings planned
    have listed := Binding.map_binding_applyAll supply bindings object
    have told := @Report.forall₂_tells (Binding.applyAll supply bindings object).1
      object.lineage.name (listed.symm ▸ nodup_of_planned planned)
    rw [listed] at told
    have quiet : (opening :: (injector.plan object.lineage filter?).log).filter
        LogEntry.isWarning = [] := by
      rw [List.filter_eq_nil_iff]
      intro entry present warns
      rw [(preliminary_of_mem_opening spans present).quiet.1] at warns
      contradiction
    refine ⟨_, _, _, result_run_of_planned planned, log_run_of_planned planned,
      injector.lines_opening opening filter? object.lineage, told, ?_⟩
    rw [log_run_of_planned planned, List.filter_append, quiet, List.nil_append,
      Report.filter_isWarning_entries object.lineage.name]
  case failed =>
    intro error failed
    refine ⟨(run_of_failed failed).1, ?_, ?_⟩
    · rw [log_run_of_failed failed, lines_opening]
    · rw [log_run_of_failed failed]
      intro entry present
      exact (preliminary_of_mem_opening spans present).quiet.2

/-- What the log of an injection says and in which order, the events of its bindings agreeing
with its report. -/
theorem log_tells_what_was_done {spelling : String} {config : Config}
    (created : create spelling config = .ok injector) (object : Instance) :
    (∀ value : Value,
      (injector.inject object value).Logged
        (.span "inject" [("marker", .text (MarkerKind.fold spelling)),
          ("target", .text object.lineage.name), ("value", .text value.type.name)])
        (injector.planLines (some (.including ⟨value.type, .reference⟩)) object.lineage)
        (injector.plan object.lineage (some (.including ⟨value.type, .reference⟩))).result) ∧
    ∀ lookup : BindingName → Option Value,
      (injector.injectResources object lookup).Logged
        (.span "inject_resources" [("marker", .text (MarkerKind.fold spelling)),
          ("target", .text object.lineage.name)])
        (injector.planLines none object.lineage)
        (injector.plan object.lineage none).result := by
  rw [← marker_of_created created]
  constructor
  · intro value
    exact injector.logged_run _ _ object rfl
  · intro lookup
    exact injector.logged_run _ _ object rfl

end Injector

/-! ## A porch -/

namespace Porch

open Sample (text stored)

def house : Declaration where
  key := 0
  name := "House"
  type := ⟨"House"⟩
  fields := [stored "resource" .field "roof" ⟨"House"⟩]

/-- The door is static, and the gate after it is not looked at. -/
def porch : Declaration where
  key := 1
  name := "Porch"
  type := ⟨"Porch"⟩
  fields :=
    [stored "resource" .field "bell" ⟨"Porch"⟩, stored "context" .field "lamp" ⟨"Porch"⟩,
      { stored "context" .field "door" ⟨"Porch"⟩ with modifiers := { isStatic := true } },
      stored "context" .field "gate" ⟨"Porch"⟩]
  setters := [stored "resource" .setter "setMat" ⟨"Porch"⟩]

/-- The house is out of reach from its porch. -/
def lineage : Lineage := .child porch Upcast.nowhere (.root house)

def store (name : BindingName) : Option Value :=
  if name.text = "mat" then none else some ⟨text.type, .text name.text⟩

def furnished : Injection :=
  Injector.injectResources ⟨"resource", {}⟩ (.fresh lineage) store

def refused : Injection :=
  Injector.inject ⟨"context", {}⟩ (.fresh lineage) ⟨text.type, .null⟩

/-- The resources of the porch are planned, and each is told of; its context is not, because
of the door. -/
theorem log_of_porch :
    (∃ (report : Report) (before events : List LogEntry),
      furnished.pass.result = .ok report ∧ furnished.pass.log = before ++ events ∧
        before.map LogEntry.line =
          [.span "inject_resources" [("marker", .text "resource"), ("target", .text "Porch")],
            .span "discover" [("scope", .text "fields"), ("root", .text "Porch")],
            .event .debug "accepted member"
              [("member", .text "Porch::bell"), ("depth", .number 0)],
            .event .debug "accepted member"
              [("member", .text "House::roof"), ("depth", .number 1)],
            .span "discover" [("scope", .text "setters"), ("root", .text "Porch")],
            .event .debug "accepted member"
              [("member", .text "Porch::setMat"), ("depth", .number 0)]] ∧
        events.length = 3 ∧
        report.skipped.map Skipped.error = [.ancestorUnreachable 1, .missingResource "mat"] ∧
        furnished.pass.log.filter LogEntry.isWarning = report.skipped.map Skipped.entry) ∧
    ∃ error,
      refused.pass.result = .error error ∧
        refused.pass.log.map LogEntry.line =
          [.span "inject"
              [("marker", .text "context"), ("target", .text "Porch"), ("value", .text "Text")],
            .span "discover" [("scope", .text "fields"), ("root", .text "Porch")],
            .event .debug "accepted member"
              [("member", .text "Porch::lamp"), ("depth", .number 0)]] := by
  have planned : ∃ bindings, (Injector.plan ⟨"resource", {}⟩ lineage none).result =
      .ok bindings ∧ bindings.length = 3 := ⟨_, rfl, rfl⟩
  have broken : ∃ error, (Injector.plan ⟨"context", {}⟩ lineage
      (some (.including ⟨text.type, .reference⟩))).result = .error error := ⟨_, rfl⟩
  have skips : ∃ report, furnished.pass.result = .ok report ∧
      report.skipped.map Skipped.error = [.ancestorUnreachable 1, .missingResource "mat"] :=
    ⟨_, rfl, by decide⟩
  obtain ⟨bindings, planned, count⟩ := planned
  obtain ⟨error, broken⟩ := broken
  obtain ⟨report, reported, errors⟩ := skips
  constructor
  · obtain ⟨-, resources⟩ := @Injector.log_tells_what_was_done ⟨"resource", {}⟩ "Resource" {} rfl
      (.fresh lineage)
    obtain ⟨told, before, events, answered, logged, lines, tells, warnings⟩ :=
      (resources store).planned bindings planned
    cases reported.symm.trans answered
    exact ⟨report, before, events, reported, logged, lines, tells.length_eq ▸ count, errors,
      warnings⟩
  · obtain ⟨context, -⟩ := @Injector.log_tells_what_was_done ⟨"context", {}⟩ "Context" {} rfl
      (.fresh lineage)
    obtain ⟨failed, lines, -⟩ := (context ⟨text.type, .null⟩).failed error broken
    exact ⟨error, failed, lines⟩

end Porch

end Wiring
