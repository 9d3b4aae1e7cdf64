import Wiring.Proofs.Injection.ParentReport
import Wiring.Proofs.Object.Accessor
import Wiring.Proofs.Sample

/-!
# Embedded and free-standing parents

An object of a type that extends another contains a part for every level of the
other, which makes up an object of the other type.  An injection does the same to
these parts whether they stand for themselves or are embedded in a larger object.
The two runs are compared binding by binding: own bindings of the larger type leave
the embedded parts alone, and each of the others climbs one level further to the
same part.
-/

namespace Wiring

/-- From every object of the type, whatever was done to it, the way leads to the part of the
parent. -/
def Upcast.LeadsToParent (upcast : Upcast) (own : Declaration) (parent : Lineage) : Prop :=
  ∀ object : Instance, object.lineage = .child own upcast parent →
    upcast.climb object.parts = some 1

theorem Upcast.leadsToParent_toParent (own : Declaration) (parent : Lineage) :
    (toParent own.type).LeadsToParent own parent := by
  intro object sameType
  obtain ⟨next, rest, above⟩ := List.exists_cons_of_ne_nil parent.types_ne_nil
  apply climb_toParent
  rw [object.types_parts, sameType, Lineage.types_child, above]

/-- The whole extends the part's type by one level, and the part consists of what the
whole embeds. -/
structure ParentPart (own : Declaration) (upcast : Upcast) (whole part : Instance) : Prop where
  lineage : whole.lineage = .child own upcast part.lineage
  parts : part.parts = whole.parts.tail

namespace ParentPart

variable {own : Declaration} {upcast : Upcast} {whole part : Instance} {member : Member}
  {depth distance : Nat} {value : Value} {scope : MemberScope} {error : BindError}

/-- An object of a type with a parent has a first part. -/
theorem parts_eq_cons (embedded : ParentPart own upcast whole part) :
    ∃ first, whole.parts = first :: part.parts := by
  rw [embedded.parts]
  cases parts : whole.parts with
  | nil =>
      have types := whole.types_parts
      rw [parts, embedded.lineage] at types
      simp [Target.types] at types
  | cons first rest => exact ⟨first, rfl⟩

/-- Own members of the whole leave the embedded parts as they are. -/
theorem bind_own (embedded : ParentPart own upcast whole part)
    (keeps : own.EveryAccessor fun _ accessor => accessor.KeepsEmbedded)
    (declared : member ∈ own.members scope) :
    ParentPart own upcast (whole.bind member 0 value).2 part := by
  constructor
  · rw [Instance.lineage_bind]
    exact embedded.lineage
  · rw [embedded.parts]
    cases given : member.accessor? with
    | none => rw [Instance.bind_of_inaccessible given]
    | some accessor =>
        rw [Instance.bind_of_reached given whole.reach_zero]
        exact (keeps scope member declared accessor given whole.parts value).symm

/-- All climbs but the shortest continue as climbs of the part, a step later. -/
theorem ascend_whole (embedded : ParentPart own upcast whole part)
    (leads : upcast.LeadsToParent own part.lineage) (depth : Nat) :
    whole.lineage.ascend (depth + 1) whole.parts =
      match part.lineage.ascend depth part.parts with
      | .ok rest => .ok (1 + rest)
      | .error step => .error (step + 1) := by
  have climbed := leads whole embedded.lineage
  rw [embedded.lineage, embedded.parts, ← List.drop_one]
  exact Lineage.ascend_child_of_climb climbed own part.lineage depth

theorem reach_whole_of_ok (embedded : ParentPart own upcast whole part)
    (leads : upcast.LeadsToParent own part.lineage) (reached : part.reach depth = .ok distance) :
    whole.reach (depth + 1) = .ok (1 + distance) := by
  apply Instance.reach_of_ascend_ok
  rw [embedded.ascend_whole leads, Instance.ascend_of_reach_ok reached]

/-- A climb that ends in the part's chain ends one step later when it begins a level further
down. -/
theorem reach_whole_of_error (embedded : ParentPart own upcast whole part)
    (leads : upcast.LeadsToParent own part.lineage) (ended : part.reach depth = .error error) :
    ∃ step, error = .ancestorUnreachable step ∧
      whole.reach (depth + 1) = .error (.ancestorUnreachable (step + 1)) := by
  obtain ⟨step, rfl, ascended⟩ := Instance.exists_step_of_reach_error ended
  refine ⟨step, rfl, Instance.reach_of_ascend_error ?_⟩
  rw [embedded.ascend_whole leads, ascended]

/-- A member of the parent is bound in the whole, one level further up, as it is bound
in the part. -/
theorem bind_inherited (embedded : ParentPart own upcast whole part)
    (leads : upcast.LeadsToParent own part.lineage) (member : Member) (depth : Nat)
    (value : Value) :
    ParentPart own upcast (whole.bind member (depth + 1) value).2
        (part.bind member depth value).2 ∧
      (part.bind member depth value).1 =
        (whole.bind member (depth + 1) value).1.mapError
          (BindError.metByParent (whole.reach (depth + 1))) := by
  cases given : member.accessor? with
  | none =>
      rw [Instance.bind_of_inaccessible given, Instance.bind_of_inaccessible given]
      constructor
      · exact embedded
      · have kept : BindError.inaccessible.fromParent = .inaccessible := rfl
        exact congrArg Except.error (BindError.metByParent_eq_self kept _).symm
  | some accessor =>
      cases reached : part.reach depth with
      | error error =>
          obtain ⟨step, rfl, ended⟩ := embedded.reach_whole_of_error leads reached
          rw [Instance.bind_of_unreachable given reached, Instance.bind_of_unreachable given ended,
            ended]
          exact ⟨embedded, rfl⟩
      | ok distance =>
          have arrived := embedded.reach_whole_of_ok leads reached
          rw [Instance.bind_of_reached given reached, Instance.bind_of_reached given arrived,
            arrived]
          obtain ⟨first, parts⟩ := embedded.parts_eq_cons
          have sameTarget : whole.parts.drop (1 + distance) = part.parts.drop distance := by
            rw [parts, Nat.add_comm, List.drop_succ_cons]
          constructor
          · refine ⟨embedded.lineage, ?_⟩
            change part.parts.take distance ++ (accessor.run (part.parts.drop distance) value).2 =
              (whole.parts.take (1 + distance) ++
                (accessor.run (whole.parts.drop (1 + distance)) value).2).tail
            rw [sameTarget, parts, Nat.add_comm, List.take_succ_cons, List.cons_append,
              List.tail_cons]
          · change (accessor.run (part.parts.drop distance) value).1 =
              (accessor.run (whole.parts.drop (1 + distance)) value).1.mapError _
            rw [sameTarget]
            cases (accessor.run (part.parts.drop distance) value).1 <;> rfl

variable {supply : Supply} {binding chosen : Binding} {bindings : List Binding}

theorem apply_own (embedded : ParentPart own upcast whole part) (supply : Supply)
    (keeps : own.EveryAccessor fun _ accessor => accessor.KeepsEmbedded)
    (found : binding.found ∈ whole.lineage.found scope)
    (unseen : binding.select? Found.fromParent? = none) :
    ParentPart own upcast (binding.apply supply whole).2 part := by
  have level : binding.found.depth = 0 := by
    cases depth : binding.found.depth with
    | zero => rfl
    | succ depth => simp [Binding.select?, Found.fromParent?, depth] at unseen
  obtain ⟨declaring, -, declared⟩ := Lineage.mem_found_iff.mp found
  rw [embedded.lineage, level] at declaring
  simp only [Lineage.levels_child, List.getElem?_cons_zero, Option.some.injEq] at declaring
  rw [← declaring] at declared
  cases supplied : supply binding.name with
  | error error =>
      rw [Binding.apply_of_withheld supplied]
      exact embedded
  | ok value =>
      rw [Binding.apply_of_supplied supplied, level]
      exact embedded.bind_own keeps (List.mem_of_getElem? declared)

theorem apply_inherited (embedded : ParentPart own upcast whole part)
    (leads : upcast.LeadsToParent own part.lineage) (supplied : supply.LeavesClimbs)
    (counted : binding.select? Found.fromParent? = some chosen) :
    ParentPart own upcast (binding.apply supply whole).2 (chosen.apply supply part).2 ∧
      (binding.attempt supply whole).metByParent? =
        some ⟨chosen, (chosen.apply supply part).1⟩ := by
  obtain ⟨selected, sameName⟩ := Binding.select?_eq_some_iff.mp counted
  have deeper := Found.fromParent?_eq_some selected
  simp only [Attempt.metByParent?, Binding.attempt, counted, Option.map_some, Option.some.injEq,
    Outcome.mk.injEq, true_and]
  cases supplies : supply binding.name with
  | error error =>
      rw [Binding.apply_of_withheld supplies,
        Binding.apply_of_withheld (sameName ▸ supplies : supply chosen.name = .error error)]
      have kept : error.fromParent = error := BindError.fromParent_of_ne fun depth same =>
        supplied binding.name depth (supplies.trans (congrArg Except.error same))
      constructor
      · exact embedded
      · exact congrArg Except.error (BindError.metByParent_eq_self kept _)
  | ok value =>
      rw [Binding.apply_of_supplied supplies,
        Binding.apply_of_supplied (sameName ▸ supplies : supply chosen.name = .ok value), deeper]
      have inherited := embedded.bind_inherited leads chosen.found.member chosen.found.depth value
      exact ⟨inherited.1, inherited.2.symm⟩

/-- The run over a type's plan is, in the parts of the parent, the run over the parent's
plan, and it has the same outcomes there. -/
theorem applyAll_inherited (embedded : ParentPart own upcast whole part)
    (leads : upcast.LeadsToParent own part.lineage)
    (keeps : own.EveryAccessor fun _ accessor => accessor.KeepsEmbedded)
    (supplied : supply.LeavesClimbs)
    (found : ∀ binding ∈ bindings, ∃ scope, binding.found ∈ whole.lineage.found scope) :
    ParentPart own upcast (Binding.applyAll supply bindings whole).2
        (Binding.applyAll supply (bindings.filterMap (Binding.select? Found.fromParent?)) part).2 ∧
      (Binding.applyAll supply (bindings.filterMap (Binding.select? Found.fromParent?)) part).1 =
        (Binding.attempts supply bindings whole).filterMap Attempt.metByParent? := by
  induction bindings generalizing whole part with
  | nil => exact ⟨embedded, rfl⟩
  | cons binding rest inductionHypothesis =>
      obtain ⟨⟨scope, foundHead⟩, foundRest⟩ := List.forall_mem_cons.mp found
      rw [← Binding.lineage_apply supply binding whole] at foundRest
      rw [Binding.applyAll_cons, Binding.attempts_cons]
      cases counted : binding.select? Found.fromParent? with
      | none =>
          have kept := embedded.apply_own supply keeps foundHead counted
          have unmet : (binding.attempt supply whole).metByParent? = none := by
            simp [Attempt.metByParent?, Binding.attempt, counted]
          rw [List.filterMap_cons_none counted, List.filterMap_cons_none unmet]
          exact inductionHypothesis kept leads foundRest
      | some chosen =>
          obtain ⟨moved, met⟩ := embedded.apply_inherited leads supplied counted
          rw [← Binding.lineage_apply supply chosen part] at leads
          obtain ⟨embeddedRest, outcomes⟩ := inductionHypothesis moved leads foundRest
          rw [List.filterMap_cons_some counted, List.filterMap_cons_some met,
            Binding.applyAll_cons, outcomes]
          exact ⟨embeddedRest, rfl⟩

end ParentPart

/-- Of two injections, one into a whole that made the given attempts and one into its part, the
parts of the parent are left the same, and the report on the part is that of the attempts as the
parent meets with them. -/
structure Injection.Repeats (attempts : List Attempt) (whole part : Injection) : Prop where
  parts : part.object.parts = whole.object.parts.tail
  reported : whole.pass.result =
    .ok (Report.ofOutcomes whole.object.lineage.name (attempts.map Attempt.toOutcome))
  repeated : part.pass.result =
    .ok (Report.ofOutcomes part.object.lineage.name (attempts.filterMap Attempt.metByParent?))

namespace Binding

variable {supply : Supply} {bindings : List Binding} {object : Instance}

/-- Where neither the supply nor an accessor talks of climbs, every failure that does is the end
of one. -/
theorem metByParent_eq_fromParent (supplied : supply.LeavesClimbs)
    (leaves : object.lineage.EveryAccessor fun _ accessor => accessor.LeavesClimbs)
    (found : ∀ binding ∈ bindings, ∃ scope, binding.found ∈ object.lineage.found scope)
    {attempt : Attempt} (present : attempt ∈ attempts supply bindings object) {error : BindError}
    (failed : attempt.result = .error error) :
    error.metByParent attempt.climb = error.fromParent := by
  obtain ⟨listed, current, sameType, told⟩ := exists_object_of_mem_attempts present
  obtain ⟨scope, found⟩ := found attempt.binding listed
  rw [told] at failed ⊢
  cases reached : current.reach attempt.binding.found.depth with
  | error ended => simp only [Binding.attempt, reached, BindError.metByParent_error]
  | ok distance =>
      simp only [Binding.attempt, reached, BindError.metByParent_ok]
      symm
      apply BindError.fromParent_of_ne
      rintro step rfl
      change (attempt.binding.apply supply current).1 = _ at failed
      cases supplies : supply attempt.binding.name with
      | error withheld =>
          rw [apply_of_withheld supplies] at failed
          have worded : withheld = .ancestorUnreachable step := Except.error.inj failed
          rw [worded] at supplies
          exact supplied attempt.binding.name step supplies
      | ok value =>
          rw [apply_of_supplied supplies] at failed
          cases given : attempt.binding.found.member.accessor? with
          | none =>
              rw [Instance.bind_of_inaccessible given] at failed
              cases failed
          | some accessor =>
              rw [Instance.bind_of_reached given reached] at failed
              exact leaves.of_found found given _ value step failed

end Binding

namespace Injector

variable {injector : Injector} {opening partOpening : LogEntry} {filter? : Option TypeFilter}
  {supply : Supply} {own : Declaration} {upcast : Upcast} {whole part : Instance}
  {bindings : List Binding} {report : Report}

/-- A run over a type's plan repeats in the parts of the parent the run over the
parent's plan. -/
theorem run_repeats (opening partOpening : LogEntry)
    (lenient : injector.config.requireMatch = false)
    (embedded : ParentPart own upcast whole part) (leads : upcast.LeadsToParent own part.lineage)
    (keeps : own.EveryAccessor fun _ accessor => accessor.KeepsEmbedded)
    (supplied : supply.LeavesClimbs)
    (planned : (injector.plan whole.lineage filter?).result = .ok bindings) :
    (∃ chosen, (injector.plan part.lineage filter?).result = .ok chosen) ∧
      Injection.Repeats (Binding.attempts supply bindings whole)
        (injector.run opening filter? supply whole)
        (injector.run partOpening filter? supply part) := by
  have partPlanned := planned
  rw [embedded.lineage] at partPlanned
  replace partPlanned := result_plan_parent lenient partPlanned
  obtain ⟨after, outcomes⟩ :=
    embedded.applyAll_inherited leads keeps supplied (declared_of_planned planned)
  refine ⟨⟨_, partPlanned⟩, ?_, ?_, ?_⟩
  · rw [object_run_of_planned planned, object_run_of_planned partPlanned]
    exact after.parts
  · rw [result_run_of_planned planned, lineage_run, Binding.map_toOutcome_attempts]
  · rw [result_run_of_planned partPlanned, lineage_run, outcomes]

/-- As long as accessors do not talk of climbs, the report on the part can be read off the report
on the whole. -/
theorem reported_of_leavesClimbs (opening partOpening : LogEntry)
    (lenient : injector.config.requireMatch = false)
    (embedded : ParentPart own upcast whole part) (leads : upcast.LeadsToParent own part.lineage)
    (keeps : own.EveryAccessor fun _ accessor => accessor.KeepsEmbedded)
    (supplied : supply.LeavesClimbs)
    (leaves : whole.lineage.EveryAccessor fun _ accessor => accessor.LeavesClimbs)
    (reported : (injector.run opening filter? supply whole).pass.result = .ok report) :
    (injector.run partOpening filter? supply part).pass.result =
      .ok (report.fromParent part.lineage.name) := by
  obtain ⟨bindings, planned, rfl⟩ := result_run_eq_ok_iff.mp reported
  have repeats := (run_repeats opening partOpening lenient embedded leads keeps supplied
    planned).2.repeated
  rw [lineage_run] at repeats
  rw [repeats, ← Binding.map_toOutcome_attempts, Report.ofOutcomes_metByParent?]
  intro attempt present error failed
  exact Binding.metByParent_eq_fromParent supplied leaves (declared_of_planned planned) present
    failed

/-- An injection into an object does to the parts of its parent what it does to a
free-standing object of the parent that consists of such parts, and its attempts, less
those at its own level, are the attempts at that object.  If accessors leave it to climbs to say
that an ancestor cannot be reached, the one report, less what concerns the own level, is the
other. -/
theorem inject_repeats_on_parent_part (lenient : injector.config.requireMatch = false)
    (embedded : ParentPart own upcast whole part) (leads : upcast.LeadsToParent own part.lineage)
    (keeps : own.EveryAccessor fun _ accessor => accessor.KeepsEmbedded) :
    (∀ value bindings, (injector.plan whole.lineage
        (some (.including ⟨value.type, .reference⟩))).result = .ok bindings →
      (∃ chosen, (injector.plan part.lineage
          (some (.including ⟨value.type, .reference⟩))).result = .ok chosen) ∧
        Injection.Repeats (Binding.attempts (Supply.constant value) bindings whole)
          (injector.inject whole value) (injector.inject part value)) ∧
    (∀ lookup bindings, (injector.plan whole.lineage none).result = .ok bindings →
      (∃ chosen, (injector.plan part.lineage none).result = .ok chosen) ∧
        Injection.Repeats (Binding.attempts (Supply.ofLookup lookup) bindings whole)
          (injector.injectResources whole lookup) (injector.injectResources part lookup)) ∧
    ((whole.lineage.EveryAccessor fun _ accessor => accessor.LeavesClimbs) →
      (∀ value report, (injector.inject whole value).pass.result = .ok report →
        (injector.inject part value).pass.result = .ok (report.fromParent part.lineage.name)) ∧
      ∀ lookup report, (injector.injectResources whole lookup).pass.result = .ok report →
        (injector.injectResources part lookup).pass.result =
          .ok (report.fromParent part.lineage.name)) := by
  refine ⟨?_, ?_, ?_⟩
  · intro value bindings planned
    exact run_repeats _ _ lenient embedded leads keeps (Supply.leavesClimbs_constant value) planned
  · intro lookup bindings planned
    exact run_repeats _ _ lenient embedded leads keeps (Supply.leavesClimbs_ofLookup lookup)
      planned
  · intro leaves
    constructor
    · intro value report reported
      exact reported_of_leavesClimbs _ _ lenient embedded leads keeps
        (Supply.leavesClimbs_constant value) leaves reported
    · intro lookup report reported
      exact reported_of_leavesClimbs _ _ lenient embedded leads keeps
        (Supply.leavesClimbs_ofLookup lookup) leaves reported

end Injector

/-! ## A family with a lost root

A child extends a base, and the base extends a root that no way leads to. -/

namespace LostRoot

open Sample (text marked stored injector)

def root : Declaration where
  key := 0
  name := "Root"
  type := ⟨"Root"⟩
  fields := [stored "resource" .field "origin" ⟨"Root"⟩]

/-- Its setter refuses everything. -/
def base : Declaration where
  key := 1
  name := "Base"
  type := ⟨"Base"⟩
  fields := [stored "resource" .field "store" ⟨"Base"⟩]
  setters :=
    [(marked "resource" .setter "setPlain" text).stored ⟨"Base"⟩ (some { reason := "sealed" })]

def child : Declaration where
  key := 2
  name := "Child"
  type := ⟨"Child"⟩
  fields := [stored "resource" .field "cache" ⟨"Child"⟩]
  setters := [marked "resource" .setter "setSize" text]

def baseLineage : Lineage := .child base Upcast.nowhere (.root root)

def childLineage : Lineage := .child child (Upcast.toParent child.type) baseLineage

theorem stores_child : child.Stores :=
  Declaration.stores_of_lists (List.forall_mem_singleton.mpr (Member.stores_stored _ _ _))
    (List.forall_mem_singleton.mpr (Member.stores_of_inaccessible rfl))

/-- In the family, the base is bound alike in a child and by itself. -/
theorem inject_repeats_in_child :
    ParentPart child (Upcast.toParent child.type) (.fresh childLineage) (.fresh baseLineage) ∧
      ∃ attempts, Injection.Repeats attempts
        (injector.inject (.fresh childLineage) ⟨text.type, .null⟩)
        (injector.inject (.fresh baseLineage) ⟨text.type, .null⟩) := by
  have embedded : ParentPart child (Upcast.toParent child.type) (.fresh childLineage)
      (.fresh baseLineage) := ⟨rfl, rfl⟩
  have leads : (Upcast.toParent child.type).LeadsToParent child baseLineage :=
    Upcast.leadsToParent_toParent child baseLineage
  have planned : ∃ bindings, (injector.plan childLineage
      (some (.including ⟨text.type, .reference⟩))).result = .ok bindings := ⟨_, rfl⟩
  have lenient : injector.config.requireMatch = false := rfl
  have keeps : child.EveryAccessor fun _ accessor => accessor.KeepsEmbedded :=
    fun scope member declared accessor given =>
      (stores_child.everyAccessor scope member declared accessor given).2
  obtain ⟨bindings, planned⟩ := planned
  exact ⟨embedded, _, ((Injector.inject_repeats_on_parent_part lenient embedded leads keeps).1
    ⟨text.type, .null⟩ bindings planned).2⟩

-- The lost root is reported at the second step from the child, at the first from the base.
example :
    ((injector.inject (.fresh childLineage) ⟨text.type, .null⟩).pass.result.toOption.map
        fun report => report.skipped.map Skipped.error) =
      some [.ancestorUnreachable 2, .inaccessible, .rejected "sealed"] :=
  by decide

end LostRoot

/-! ## A guide who gives up by himself

The mountain can be reached from each of its trails, but its guide turns everybody away and says
that a part four levels up could not be reached. -/

namespace Guide

open Sample (text marked injector)

def givingUp : Accessor where
  run target _ := (.error (.ancestorUnreachable 4), target)
  types_run _ _ := rfl

def mountain : Declaration where
  key := 0
  name := "Mountain"
  type := ⟨"Mountain"⟩
  fields := [{ marked "resource" .field "guide" text with accessor? := some givingUp }]

def trail : Declaration where
  key := 1
  name := "Trail"
  type := ⟨"Trail"⟩

def mountainLineage : Lineage := .root mountain

def trailLineage : Lineage := .child trail (Upcast.toParent trail.type) mountainLineage

/-- The guide says the same on the mountain and on a trail, although what is said of a trail would
be counted one step shorter on the mountain. -/
theorem guide_is_not_counted_from_mountain :
    ParentPart trail (Upcast.toParent trail.type) (.fresh trailLineage) (.fresh mountainLineage) ∧
      (Upcast.toParent trail.type).LeadsToParent trail mountainLineage ∧
      (trailLineage.EveryAccessor fun _ accessor =>
        accessor.FailsCleanly ∧ accessor.KeepsEmbedded) ∧
      ∃ whole part : Report,
        (injector.inject (.fresh trailLineage) ⟨text.type, .null⟩).pass.result = .ok whole ∧
        (injector.inject (.fresh mountainLineage) ⟨text.type, .null⟩).pass.result = .ok part ∧
        part.skipped.map Skipped.error = [.ancestorUnreachable 4] ∧
        (whole.fromParent "Mountain").skipped.map Skipped.error = [.ancestorUnreachable 3] := by
  have clean : givingUp.FailsCleanly ∧ givingUp.KeepsEmbedded :=
    ⟨fun _ _ _ _ => rfl, fun _ _ => rfl⟩
  have every : trailLineage.EveryAccessor fun _ accessor =>
      accessor.FailsCleanly ∧ accessor.KeepsEmbedded := by
    apply Lineage.everyAccessor_child
    · exact Declaration.everyAccessor_of_lists (List.forall_mem_nil _) (List.forall_mem_nil _)
    · apply Lineage.everyAccessor_root
      exact Declaration.everyAccessor_of_lists
        (List.forall_mem_singleton.mpr (Member.holds_of_given rfl clean)) (List.forall_mem_nil _)
  exact ⟨⟨rfl, rfl⟩, Upcast.leadsToParent_toParent trail mountainLineage, every, _, _, rfl, rfl,
    rfl, rfl⟩

end Guide

end Wiring
