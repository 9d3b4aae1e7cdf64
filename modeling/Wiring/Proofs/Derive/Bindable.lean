import Wiring.Proofs.Derive.Expansion
import Wiring.Proofs.Injection.Outcomes
import Wiring.Proofs.Member.Rule

/-!
# Derived types are bindable

Where all types of a chain come from declarations, nothing goes wrong between a plan
and its object.  The climb to each level arrives, the part there has the type that the
members of the level ask for, and what they ask of a value is the type that they are
found under.  A member that could not be bound at all is turned down by the scan that
finds it.
-/

namespace Wiring

open Derive

/-- The member was found where its declaration announces the setter. -/
def Found.AnnouncedBy (origins : List Origin) (found : Found) (setter : SetterSource) : Prop :=
  found.scope = .setters ∧ ∃ origin, origins[found.depth]? = some origin ∧
    origin.source.Announces found.index setter

/-- A setter that is announced as fallible rejected the value. -/
def Skipped.RejectedBy (origins : List Origin) (skipped : Skipped) : Prop :=
  (∃ reason, skipped.error = .rejected reason) ∧
    ∃ setter, skipped.binding.found.AnnouncedBy origins setter ∧ setter.fallible = true

/-- The lookup has nothing under the name of the member. -/
def Skipped.Missing (lookup : BindingName → Option Value) (skipped : Skipped) : Prop :=
  lookup skipped.binding.name = none ∧
    skipped.error = .missingResource skipped.binding.name.text

/-- What the lookup has under the name of the member is of another type. -/
def Skipped.Foreign (lookup : BindingName → Option Value) (skipped : Skipped) : Prop :=
  ∃ value, lookup skipped.binding.name = some value ∧
    value.type ≠ skipped.binding.found.member.valueType.type ∧
      skipped.error = .valueMismatch skipped.binding.found.member.valueType.type

namespace Derive

/-- What can be relied on where objects of a type are injected into. -/
structure Bindable (origins : List Origin) (lineage : Lineage) : Prop where
  /-- A typed injection skips what fallible setters reject, and nothing else. -/
  inject : ∀ (injector : Injector) (object : Instance) (value : Value) (report : Report),
    object.lineage = lineage → (injector.inject object value).pass.result = .ok report →
      ∀ skipped ∈ report.skipped, skipped.RejectedBy origins
  /-- An injection of resources also skips what it finds no value or no suitable value
  for. -/
  injectResources : ∀ (injector : Injector) (object : Instance)
    (lookup : BindingName → Option Value) (report : Report), object.lineage = lineage →
      (injector.injectResources object lookup).pass.result = .ok report →
        ∀ skipped ∈ report.skipped, skipped.Missing lookup ∨ skipped.Foreign lookup ∨
          skipped.RejectedBy origins
  /-- Of the marked members, those that cannot be bound are the void setters. -/
  inaccessible : ∀ scope, ∀ found ∈ lineage.found scope, found.member.markers ≠ [] →
    (found.member.accessor? = none ↔
      ∃ setter, found.AnnouncedBy origins setter ∧ setter.type.isUnit = true)
  /-- A scan with structural checks fails if it accepts a void setter. -/
  scan : ∀ (scanner : Scanner) (marker : String),
    scanner.rules.checkMember = Rules.checkStructure marker →
      ∀ found ∈ lineage.found scanner.scope, scanner.accepts found.member = true →
        ∀ setter, found.AnnouncedBy origins setter → setter.type.isUnit = true →
          ∃ error, (scanner.discover (some lineage)).result = .error error
  /-- An injector that takes a void setter fails before it binds anything. -/
  run : ∀ (injector : Injector) (opening : LogEntry) (filter? : Option TypeFilter)
    (supply : Supply) (object : Instance), object.lineage = lineage →
      ∀ found ∈ lineage.found .setters, injector.takes filter? found.member = true →
        ∀ setter, found.AnnouncedBy origins setter → setter.type.isUnit = true →
          (∃ error, (injector.run opening filter? supply object).pass.result = .error error) ∧
            (injector.run opening filter? supply object).object = object

namespace Derived

variable {origins : List Origin} {lineage : Lineage} {depth : Nat} {declaration : Declaration}
  {scope : MemberScope} {found : Found}

/-- Each level is what the declaration in its place is expanded to. -/
theorem origin_of_level (derived : Derived origins lineage)
    (level : lineage.levels[depth]? = some declaration) :
    ∃ origin expansion key, origins[depth]? = some origin ∧
      origin.source.expand = .ok expansion ∧
        declaration = expansion.declaration origin.environment key := by
  induction derived generalizing depth with
  | @root origin expansion key expanded parentless =>
      cases depth with
      | zero => exact ⟨origin, expansion, key, rfl, expanded, (Option.some.inj level).symm⟩
      | succ depth => simp at level
  | @child origin expansion key field origins parent expanded held named derived
      inductionHypothesis =>
      cases depth with
      | zero => exact ⟨origin, expansion, key, rfl, expanded, (Option.some.inj level).symm⟩
      | succ depth => exact inductionHypothesis level

/-- Every climb through parts of the types of the chain arrives, at the level that it was meant
for. -/
theorem ascend_of_lt (derived : Derived origins lineage) {target : Target}
    (types : target.types = lineage.types) (bound : depth < lineage.levels.length) :
    lineage.ascend depth target = .ok depth := by
  induction derived generalizing depth target with
  | root expanded parentless =>
      have level : depth = 0 := by simpa using bound
      rw [level]
      rfl
  | @child origin expansion key field origins parent expanded held named derived
      inductionHypothesis =>
      cases depth with
      | zero => rfl
      | succ depth =>
          rw [Lineage.types_child] at types
          obtain ⟨next, rest, above⟩ := List.exists_cons_of_ne_nil parent.types_ne_nil
          have climbed : (expansion.upcast origin.environment).climb target = some 1 :=
            Upcast.climb_toParent (types.trans (congrArg _ above))
          have dropped : Target.types (target.drop 1) = parent.types := by
            rw [Target.types, List.map_drop]
            exact congrArg (List.drop 1) types
          have arrived := inductionHypothesis dropped (Nat.lt_of_succ_lt_succ bound)
          rw [Lineage.ascend_child_of_climb climbed, arrived, Nat.add_comm]

/-- On an object of the type, every climb arrives. -/
theorem reach_of_lt {object : Instance} (derived : Derived origins object.lineage)
    (bound : depth < object.lineage.levels.length) : object.reach depth = .ok depth :=
  Instance.reach_of_ascend_ok (derived.ascend_of_lt object.types_parts bound)

/-- A found member is what a member of its own declaration's expansion describes. -/
theorem expanded_of_found (derived : Derived origins lineage)
    (present : found ∈ lineage.found scope) :
    ∃ origin expansion expanded, origins[found.depth]? = some origin ∧
      origin.source.expand = .ok expansion ∧
        found.declaring.type = origin.environment.typeOf (.word origin.source.name) ∧
          found.member = expanded.member origin.environment ∧
            (found.scope = .fields ∧ expanded ∈ expansion.fields ∨
              found.scope = .setters ∧ expansion.setters[found.index]? = some expanded) := by
  obtain ⟨level, inScope, declared⟩ := Lineage.mem_found_iff.mp present
  obtain ⟨origin, expansion, key, origins, accepted, declaring⟩ := derived.origin_of_level level
  have ownType : found.declaring.type =
      origin.environment.typeOf (.word origin.source.name) := by
    obtain ⟨fields, setters, -, -, rfl⟩ := Source.expand_eq_ok accepted
    rw [declaring]
    rfl
  rw [declaring] at declared
  cases scope with
  | fields =>
      change (expansion.fields.map _)[found.index]? = _ at declared
      rw [List.getElem?_map, Option.map_eq_some_iff] at declared
      obtain ⟨expanded, listed, member⟩ := declared
      exact ⟨origin, expansion, expanded, origins, accepted, ownType, member.symm,
        Or.inl ⟨inScope, List.mem_of_getElem? listed⟩⟩
  | setters =>
      change (expansion.setters.map _)[found.index]? = _ at declared
      rw [List.getElem?_map, Option.map_eq_some_iff] at declared
      obtain ⟨expanded, listed, member⟩ := declared
      exact ⟨origin, expansion, expanded, origins, accepted, ownType, member.symm,
        Or.inr ⟨inScope, listed⟩⟩

/-- A setter that is announced describes the member that is found in its place. -/
theorem member_of_announced (derived : Derived origins lineage)
    (present : found ∈ lineage.found scope) {setter : SetterSource}
    (announced : found.AnnouncedBy origins setter) :
    ∃ origin : Origin, found.member =
      (setter.expand origin.source.name).member origin.environment := by
  obtain ⟨inSetters, origin, place, announced⟩ := announced
  obtain ⟨other, expansion, expanded, samePlace, accepted, -, member, field | listed⟩ :=
    derived.expanded_of_found present
  · rw [field.1] at inSetters
    contradiction
  · rw [place] at samePlace
    cases samePlace
    obtain ⟨entry, entered, rfl⟩ := Source.setters_getElem? accepted listed.2
    rw [entered.unique announced] at member
    exact ⟨origin, member⟩

/-- Every way to bind a found member asks for the type of its level and for values of
the member's type, and refuses values only for a setter that is announced as
fallible. -/
theorem binder_of_accessor (derived : Derived origins lineage)
    (present : found ∈ lineage.found scope) {accessor : Accessor}
    (given : found.member.accessor? = some accessor) :
    ∃ environment ident, ∃ binder : Binder, accessor = binder.accessor environment ident ∧
      found.declaring.type = environment.typeOf (.word binder.target) ∧
        found.member.valueType.type = environment.typeOf binder.value ∧
          (binder.action.MayRefuse →
            ∃ setter, found.AnnouncedBy origins setter ∧ setter.fallible = true) := by
  obtain ⟨origin, expansion, expanded, place, accepted, ownType, member, kept⟩ :=
    derived.expanded_of_found present
  rw [member] at given
  obtain ⟨binder, binds, rfl⟩ := Option.map_eq_some_iff.mp given
  have fits : binder.Fits origin.source.name expanded ∧ (binder.action.MayRefuse →
      ∃ setter, found.AnnouncedBy origins setter ∧ setter.fallible = true) := by
    rcases kept with ⟨-, listed⟩ | ⟨inSetters, listed⟩
    · rcases Source.binder?_of_mem_fields accepted listed with ⟨-, missing⟩ |
        ⟨other, same, fits, obeys⟩
      · rw [missing] at binds
        contradiction
      · rw [binds] at same
        cases same
        exact ⟨fits, fun refuses => absurd refuses obeys⟩
    · obtain ⟨setter, announced, rfl⟩ := Source.setters_getElem? accepted listed
      obtain ⟨fits, fallible⟩ := SetterSource.fits_of_binder?_expand binds
      exact ⟨fits, fun refuses =>
        ⟨setter, ⟨inSetters, origin, place, announced⟩, fallible refuses⟩⟩
  obtain ⟨⟨target, expects⟩, refuses⟩ := fits
  refine ⟨origin.environment, expanded.ident, binder, rfl, ?_, ?_, refuses⟩
  · rw [target]
    exact ownType
  · rw [member, expects]
    rfl

/-- Of the marked members, those that cannot be bound are the void setters. -/
theorem accessor?_eq_none_iff (derived : Derived origins lineage)
    (present : found ∈ lineage.found scope) (marked : found.member.markers ≠ []) :
    found.member.accessor? = none ↔
      ∃ setter, found.AnnouncedBy origins setter ∧ setter.type.isUnit = true := by
  constructor
  · intro missing
    obtain ⟨origin, expansion, expanded, place, accepted, -, member, kept⟩ :=
      derived.expanded_of_found present
    rw [member] at missing marked
    have unbound : expanded.binder? = none := Option.map_eq_none_iff.mp missing
    rcases kept with ⟨-, listed⟩ | ⟨inSetters, listed⟩
    · rcases Source.binder?_of_mem_fields accepted listed with ⟨unmarked, -⟩ |
        ⟨binder, given, -⟩
      · exact absurd unmarked marked
      · rw [unbound] at given
        contradiction
    · obtain ⟨setter, announced, rfl⟩ := Source.setters_getElem? accepted listed
      exact ⟨setter, ⟨inSetters, origin, place, announced⟩,
        SetterSource.binder?_expand_eq_none_iff.mp unbound⟩
  · rintro ⟨setter, announced, takesNothing⟩
    obtain ⟨origin, member⟩ := derived.member_of_announced present announced
    rw [member]
    exact Option.map_eq_none_iff.mpr (SetterSource.binder?_expand_eq_none_iff.mpr takesNothing)

/-- A void setter breaks the first of the structural rules. -/
theorem violation?_of_void (derived : Derived origins lineage)
    (present : found ∈ lineage.found scope) {setter : SetterSource}
    (announced : found.AnnouncedBy origins setter) (takesNothing : setter.type.isUnit = true) :
    found.member.violation? = some .voidValue := by
  obtain ⟨origin, member⟩ := derived.member_of_announced present announced
  have void : Constraint.voidValue.Broken found.member := by
    rw [member]
    exact ⟨rfl, SetterSource.valueKind_expand_of_isUnit origin.source.name takesNothing⟩
  exact Member.violation?_eq_some_iff.mpr (First.of_head void _)

/-- Binding a value to a member that passed the structural checks fails only for a
value of another type, or because a fallible setter rejects it. -/
theorem bind_of_sound {object : Instance} (derived : Derived origins object.lineage)
    (present : found ∈ object.lineage.found scope) (marked : found.member.markers ≠ [])
    (sound : found.member.violation? = none) (value : Value) :
    (object.bind found.member found.depth value).1 = .ok () ∨
      (value.type ≠ found.member.valueType.type ∧
        (object.bind found.member found.depth value).1 =
          .error (.valueMismatch found.member.valueType.type)) ∨
      ((∃ reason, (object.bind found.member found.depth value).1 = .error (.rejected reason)) ∧
        ∃ setter, found.AnnouncedBy origins setter ∧ setter.fallible = true) := by
  cases given : found.member.accessor? with
  | none =>
      obtain ⟨setter, announced, takesNothing⟩ :=
        (derived.accessor?_eq_none_iff present marked).mp given
      rw [derived.violation?_of_void present announced takesNothing] at sound
      contradiction
  | some accessor =>
      obtain ⟨environment, ident, binder, rfl, ownType, valueType, fallible⟩ :=
        derived.binder_of_accessor present given
      obtain ⟨level, -, -⟩ := Lineage.mem_found_iff.mp present
      have arrived := derived.reach_of_lt (List.getElem?_eq_some_iff.mp level).1
      have onTarget : (object.parts.drop found.depth).head?.map Part.type =
          some (environment.typeOf (.word binder.target)) := by
        rw [object.type_head?_drop_parts, level, ← ownType]
        rfl
      rw [Instance.bind_of_reached given arrived]
      change (binder.run environment ident _ value).1 = _ ∨
        (_ ∧ (binder.run environment ident _ value).1 = _) ∨
          ((∃ reason, (binder.run environment ident _ value).1 = _) ∧ _)
      rw [valueType]
      by_cases expected : value.type = environment.typeOf binder.value
      · rcases Binder.run_of_expected onTarget expected with taken | ⟨refuses, rejected⟩
        · exact Or.inl taken
        · exact Or.inr (Or.inr ⟨rejected, fallible refuses⟩)
      · exact Or.inr (Or.inl ⟨expected, Binder.run_of_foreign onTarget expected⟩)

variable {injector : Injector} {opening : LogEntry} {filter? : Option TypeFilter}
  {supply : Supply} {object : Instance} {report : Report} {skipped : Skipped}

/-- What a run over a plan skips got no value, a value of another type, or one that a
fallible setter rejects. -/
theorem cause_of_skipped (derived : Derived origins object.lineage)
    (reported : (injector.run opening filter? supply object).pass.result = .ok report)
    (present : skipped ∈ report.skipped) :
    supply skipped.binding.name = .error skipped.error ∨
      ∃ value, supply skipped.binding.name = .ok value ∧
        (value.type ≠ skipped.binding.found.member.valueType.type ∧
            skipped.error = .valueMismatch skipped.binding.found.member.valueType.type ∨
          skipped.RejectedBy origins) := by
  obtain ⟨⟨bindings, planned, listed⟩, current, sameType, failed⟩ :=
    Injector.planned_of_skipped reported present
  obtain ⟨⟨scope, found⟩, takes, sound⟩ := Injector.found_of_planned planned listed
  rw [← sameType] at derived found
  cases supplied : supply skipped.binding.name with
  | error error =>
      rw [Binding.apply_of_withheld supplied] at failed
      exact Or.inl (congrArg Except.error (Except.error.inj failed))
  | ok value =>
      rw [Binding.apply_of_supplied supplied] at failed
      refine Or.inr ⟨value, rfl, ?_⟩
      rcases derived.bind_of_sound found (Injector.markers_ne_nil_of_takes takes) sound value with
        bound | ⟨foreign, refused⟩ | ⟨⟨reason, rejected⟩, announced⟩
      · rw [bound] at failed
        contradiction
      · rw [refused] at failed
        exact Or.inl ⟨foreign, (Except.error.inj failed).symm⟩
      · rw [rejected] at failed
        exact Or.inr ⟨⟨reason, (Except.error.inj failed).symm⟩, announced⟩

/-- Members of derived types are bindable: no injection skips one of them for a reason
that lies in its description. -/
theorem bindable (derived : Derived origins lineage) : Bindable origins lineage where
  inject := by
    rintro injector object value report rfl reported skipped present
    obtain ⟨⟨bindings, planned, listed⟩, -⟩ := Injector.planned_of_skipped reported present
    obtain ⟨-, takes, -⟩ := Injector.found_of_planned planned listed
    have expected : skipped.binding.found.member.valueType.type = value.type :=
      TypeFilter.accepts_including.mp (Bool.and_eq_true_iff.mp takes).2
    rcases derived.cause_of_skipped reported present with
      withheld | ⟨supplied, constant, ⟨foreign, -⟩ | rejected⟩
    · contradiction
    · cases constant
      exact absurd expected.symm foreign
    · exact rejected
  injectResources := by
    rintro injector object lookup report rfl reported skipped present
    rcases derived.cause_of_skipped reported present with
      withheld | ⟨value, supplied, ⟨foreign, refused⟩ | rejected⟩
    · cases known : lookup skipped.binding.name with
      | none =>
          simp only [Supply.ofLookup, known] at withheld
          exact Or.inl ⟨known, (Except.error.inj withheld).symm⟩
      | some value => simp [Supply.ofLookup, known] at withheld
    · cases known : lookup skipped.binding.name with
      | none => simp [Supply.ofLookup, known] at supplied
      | some other =>
          simp only [Supply.ofLookup, known] at supplied
          cases supplied
          exact Or.inr (Or.inl ⟨value, known, foreign, refused⟩)
    · exact Or.inr (Or.inr rejected)
  inaccessible := fun _ _ present marked => derived.accessor?_eq_none_iff present marked
  scan := by
    intro scanner marker structural found present accepted setter announced takesNothing
    have candidate : found ∈ scanner.candidates lineage :=
      List.mem_filter.mpr ⟨present, accepted⟩
    have void := derived.violation?_of_void present announced takesNothing
    apply Scanner.result_discover_error_of_refuses candidate
    unfold Scanner.Refuses
    rw [structural]
    exact ⟨_, by rw [Rules.checkStructure, void]⟩
  run := by
    rintro injector opening filter? supply object rfl found present takes setter announced
      takesNothing
    have void := derived.violation?_of_void present announced takesNothing
    have taken : found ∈ injector.takenAll filter? object.lineage :=
      List.mem_append_right _ (Injector.mem_taken_iff.mpr ⟨present, takes⟩)
    cases planned : (injector.plan object.lineage filter?).result with
    | error error =>
        obtain ⟨failed, untouched⟩ := @Injector.run_of_failed injector opening filter? supply
          object error planned
        exact ⟨⟨error, failed⟩, untouched⟩
    | ok bindings =>
        have sound := (Injector.result_plan_eq_ok_iff.mp planned).1 found taken
        rw [void] at sound
        contradiction

end Derived

/-! ## A station and its annex

A station has an optional channel and a setter that refuses every title.  An annex
holds a station, and announces a setter that takes nothing. -/

namespace Annex

def text : WrittenType := .word "Text"

def environment : Environment where
  typeOf written := ⟨written.text⟩
  method _ _ := ⟨fun target _ => (.error "sealed", target), fun _ _ => rfl⟩

def station : Source where
  name := "Station"
  generics := ""
  shape := .named
  fields := [⟨"channel", .ofText "Option<Text>", [⟨"inject", .bare⟩]⟩]
  attributes := [⟨"inject", .options [.nested "setter"
    [.text "method" "set_title", .type "ty" text, .bare "fallible"]]⟩]

def annex : Source where
  name := "Annex"
  generics := ""
  shape := .named
  fields := [⟨"station", .word "Station", [⟨"inject", .options [.bare "parent"]⟩]⟩,
    ⟨"label", text, [⟨"inject", .bare⟩]⟩]
  attributes := [⟨"inject", .options [.nested "setter"
    [.text "method" "set_up", .type "ty" (.ofText "()"), .text "marker" "context"]]⟩]

def stationExpansion : Expansion where
  type := "Station"
  name := "Station"
  fields := [⟨.field, "channel", .reference, text, [Marker.plain "resource"],
    some ⟨"Station", text, .assign "channel" true⟩⟩]
  setters := [⟨.setter, "set_title", .reference, text, [Marker.plain "resource"],
    some ⟨"Station", text, .call "set_title" true⟩⟩]
  parent? := none

def annexExpansion : Expansion where
  type := "Annex"
  name := "Annex"
  fields := [⟨.field, "label", .reference, text, [Marker.plain "resource"],
    some ⟨"Annex", text, .assign "label" false⟩⟩]
  setters := [⟨.setter, "set_up", .void, .ofText "()", [Marker.plain "context"], none⟩]
  parent? := some ⟨.word "Station", "station"⟩

def origins : List Origin := [⟨annex, environment⟩, ⟨station, environment⟩]

def lineage : Lineage :=
  .child (annexExpansion.declaration environment 1) (annexExpansion.upcast environment)
    (.root (stationExpansion.declaration environment 0))

set_option maxRecDepth 2000 in
theorem expand_station : station.expand = .ok stationExpansion :=
  rfl

set_option maxRecDepth 2000 in
theorem expand_annex : annex.expand = .ok annexExpansion :=
  rfl

/-- An annex is derived from both declarations, so that nothing goes wrong with one but
a refused title. -/
theorem bindable_annex : Derived origins lineage ∧ Bindable origins lineage := by
  have derivedStation : Derived [⟨station, environment⟩]
      (.root (stationExpansion.declaration environment 0)) := .root expand_station rfl
  have derived : Derived origins lineage := .child expand_annex rfl rfl derivedStation
  exact ⟨derived, derived.bindable⟩

example : (((Injector.mk "resource" {}).inject (.fresh lineage)
    ⟨environment.typeOf text, .null⟩).pass.result.toOption.map
      fun report => report.skipped.map Skipped.error) = some [.rejected "sealed"] := by
  decide

end Annex

end Derive

end Wiring
