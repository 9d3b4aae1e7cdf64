import Mathlib.Data.List.Forall2
import Wiring.Proofs.Marker.Folding
import Wiring.Proofs.Plan.Selection
import Wiring.Proofs.Plan.Verdict

/-!
# What a plan sees of a type

A marker kind exposes little of a type: of the members that carry a marker of the kind,
their names, types and modifiers, and the name that the first such marker gives.  Two types
that expose the same to a kind have the same plans for it, member by member.  Whatever else
there is in a type, between those members or in them, has no influence on a plan.
-/

namespace Wiring

/-- What a marked member shows to the kind of its marker. -/
structure Exposure where
  /-- The level of the chain. -/
  depth : Nat
  owner : String
  ident : String
  kind : MemberKind
  valueType : ValueType
  modifiers : Modifiers
  /-- The name that the first marker of the kind gives. -/
  explicitName? : Option String

/-- What a find shows to a marker kind. -/
def Found.exposed (kind : String) (found : Found) : Exposure where
  depth := found.depth
  owner := found.owner
  ident := found.ident
  kind := found.member.kind
  valueType := found.member.valueType
  modifiers := found.member.modifiers
  explicitName? := (found.member.marker? kind).bind Marker.explicitName?

/-- The members that carry a marker of the kind, level by level and in the order of
declaration. -/
def Lineage.marked (lineage : Lineage) (kind : String) (scope : MemberScope) : List Found :=
  (lineage.found scope).filter fun found => found.member.hasMarker kind

/-- What a type shows to a marker kind. -/
def Lineage.view (lineage : Lineage) (kind : String) (scope : MemberScope) : List Exposure :=
  (lineage.marked kind scope).map (Found.exposed kind)

/-- The marker kind that a failure names. -/
def DiscoveryError.marker? : DiscoveryError → Option String
  | structural _ _ _ marker _ => some marker
  | emptyMatchSet _ marker _ => some marker
  | namingConvention .. => none
  | emptyBindingName .. => none
  | duplicateBindingName .. => none

/-- The finds stand in the same position of the views of two types, and show the same. -/
structure Found.Twins (kind : String) (lineage twin : Lineage) (left right : Found) :
    Prop where
  scope : left.scope = right.scope
  position : ∃ position : Nat, (lineage.marked kind left.scope)[position]? = some left ∧
    (twin.marked kind right.scope)[position]? = some right
  exposed : left.exposed kind = right.exposed kind

/-- Twins are bound under one name. -/
structure Binding.Twins (kind : String) (lineage twin : Lineage) (left right : Binding) :
    Prop where
  found : left.found.Twins kind lineage twin right.found
  depth : left.found.depth = right.found.depth
  name : left.name = right.name

/-- Both answers are successes that are related, or both are the same failure. -/
inductive Parallel {α : Type} (related : α → α → Prop) :
    Except DiscoveryError α → Except DiscoveryError α → Prop where
  | ok {left right : α} (relation : related left right) : Parallel related (.ok left) (.ok right)
  | error (error : DiscoveryError) : Parallel related (.error error) (.error error)

theorem Parallel.bind {α β : Type} {related : α → α → Prop} {relatedNext : β → β → Prop}
    {left right : Except DiscoveryError α} {next other : α → Except DiscoveryError β}
    (parallel : Parallel related left right)
    (continues : ∀ first second, related first second →
      Parallel relatedNext (next first) (other second)) :
    Parallel relatedNext (left.bind next) (right.bind other) := by
  cases parallel with
  | ok relation => exact continues _ _ relation
  | error error => exact .error error

theorem Parallel.map {α β : Type} {related : α → α → Prop} {relatedImage : β → β → Prop}
    {left right : Except DiscoveryError α} {image other : α → β}
    (parallel : Parallel related left right)
    (maps : ∀ first second, related first second → relatedImage (image first) (other second)) :
    Parallel relatedImage (left.map image) (right.map other) := by
  cases parallel with
  | ok relation => exact .ok (maps _ _ relation)
  | error error => exact .error error

/-! ## Pairs of finds that show the same -/

section

variable {kind : String} {left right : Found}

theorem Found.exposed_eq_iff :
    left.exposed kind = right.exposed kind ↔
      left.depth = right.depth ∧ left.owner = right.owner ∧ left.ident = right.ident ∧
        left.member.kind = right.member.kind ∧ left.member.valueType = right.member.valueType ∧
          left.member.modifiers = right.member.modifiers ∧
            (left.member.marker? kind).bind Marker.explicitName? =
              (right.member.marker? kind).bind Marker.explicitName? := by
  unfold exposed
  rw [Exposure.mk.injEq]

theorem Found.qualifiedName_congr (same : left.exposed kind = right.exposed kind) :
    left.qualifiedName = right.qualifiedName := by
  obtain ⟨-, owner, ident, -⟩ := exposed_eq_iff.mp same
  unfold qualifiedName
  rw [owner, ident]

theorem Found.violation?_congr (same : left.exposed kind = right.exposed kind) :
    left.member.violation? = right.member.violation? := by
  obtain ⟨-, -, -, memberKind, valueType, modifiers, -⟩ := exposed_eq_iff.mp same
  unfold Member.violation?
  rw [memberKind, valueType, modifiers]

theorem Rules.checkStructure_congr (same : left.exposed kind = right.exposed kind)
    (marker : String) : checkStructure marker left = checkStructure marker right := by
  obtain ⟨-, owner, ident, memberKind, -⟩ := Found.exposed_eq_iff.mp same
  unfold checkStructure
  rw [Found.violation?_congr same, owner, ident, memberKind]

/-- A name follows from what is shown to the kind, in whatever spelling it is kept. -/
theorem Naming.resolve_congr_of_exposed (naming : Naming)
    (keeps : naming.marker = MarkerKind.fold kind)
    (same : left.exposed kind = right.exposed kind) :
    naming.resolve left = naming.resolve right := by
  obtain ⟨-, owner, ident, memberKind, -, -, explicit⟩ := Found.exposed_eq_iff.mp same
  unfold resolve derivedName resolve.nonempty explicitName?
  rw [keeps, Member.marker?_fold, Member.marker?_fold, explicit, owner, ident, memberKind]

end

/-- A failure to name a member does not speak of markers. -/
theorem Naming.marker?_of_resolve_error (naming : Naming) {found : Found}
    {error : DiscoveryError} (failed : naming.resolve found = .error error) :
    error.marker? = none := by
  rcases naming.resolve_error failed with rfl | ⟨reason, rfl⟩
  · rfl
  · rfl

/-! ## Pairs of lists -/

section

variable {related : Found → Found → Prop} {members others : List Found}

theorem Scanner.result_checkAll_congr {scanner : Scanner}
    (paired : List.Forall₂ related members others)
    (alike : ∀ left right, related left right →
      scanner.rules.checkMember left = scanner.rules.checkMember right) :
    (scanner.checkAll members).result = (scanner.checkAll others).result := by
  induction paired with
  | nil => rfl
  | cons pair _ inductionHypothesis =>
      rw [result_checkAll_cons, result_checkAll_cons, alike _ _ pair, inductionHypothesis]

theorem Binding.parallel_resolveAll {resolve : Found → Except DiscoveryError BindingName}
    (paired : List.Forall₂ related members others)
    (alike : ∀ left right, related left right → resolve left = resolve right) :
    Parallel (List.Forall₂ fun left right => related left.found right.found ∧
        left.name = right.name)
      (resolveAll resolve members) (resolveAll resolve others) := by
  induction paired with
  | nil => exact .ok .nil
  | @cons left right restLeft restRight pair _ inductionHypothesis =>
      rw [resolveAll_cons, resolveAll_cons, alike left right pair]
      cases resolve right with
      | error error => exact .error error
      | ok name =>
          apply inductionHypothesis.map
          intro first second pairs
          exact .cons ⟨pair, rfl⟩ pairs

end

namespace Binding

/-- The bindings are the same in a message about clashing names. -/
def Synonymous (left right : Binding) : Prop :=
  left.name = right.name ∧ left.found.qualifiedName = right.found.qualifiedName

variable {claimed otherClaimed bindings others : List Binding} {left right : Binding}

theorem find?_name_congr (paired : List.Forall₂ Synonymous claimed otherClaimed)
    (name : BindingName) :
    Option.Rel Synonymous (claimed.find? (·.name == name))
      (otherClaimed.find? (·.name == name)) := by
  induction paired with
  | nil => exact .none
  | @cons left right restLeft restRight pair _ inductionHypothesis =>
      rw [List.find?_cons, List.find?_cons, pair.1]
      cases right.name == name with
      | true => exact .some pair
      | false => exact inductionHypothesis

theorem clashAfter?_congr (claimants : List.Forall₂ Synonymous claimed otherClaimed)
    (paired : List.Forall₂ Synonymous bindings others) :
    Option.Rel (fun left right => Synonymous left.1 right.1 ∧ Synonymous left.2 right.2)
      (clashAfter? claimed bindings) (clashAfter? otherClaimed others) := by
  induction paired generalizing claimed otherClaimed with
  | nil => exact .none
  | @cons left right restLeft restRight pair _ inductionHypothesis =>
      have claimant := find?_name_congr claimants right.name
      unfold clashAfter?
      rw [pair.1]
      generalize claimed.find? _ = first?, otherClaimed.find? _ = second? at claimant ⊢
      cases claimant with
      | some first => exact .some ⟨first, pair⟩
      | none => exact inductionHypothesis (List.rel_append claimants (.cons pair .nil))

theorem ensureDistinct_congr (paired : List.Forall₂ Synonymous bindings others) :
    ensureDistinct bindings = ensureDistinct others := by
  have clash := clashAfter?_congr .nil paired
  unfold ensureDistinct clash?
  generalize clashAfter? [] bindings = left?, clashAfter? [] others = right? at clash ⊢
  cases clash with
  | some both =>
      obtain ⟨first, second⟩ := both
      simp only [first.2, second.1, second.2]
  | none => rfl

end Binding

/-! ## Two types with one view -/

namespace Lineage

variable {lineage twin : Lineage} {kind : String} {scope : MemberScope}

theorem scope_of_mem_marked {found : Found} (present : found ∈ lineage.marked kind scope) :
    found.scope = scope :=
  (mem_found_iff.mp (List.mem_of_mem_filter present)).2.1

/-- Where the views agree, the marked members are twins one by one. -/
theorem twins_marked (sameView : lineage.view kind scope = twin.view kind scope) :
    List.Forall₂ (Found.Twins kind lineage twin) (lineage.marked kind scope)
      (twin.marked kind scope) := by
  unfold view at sameView
  rw [List.forall₂_iff_get]
  refine ⟨by simpa using congrArg List.length sameView, ?_⟩
  intro position leftBound rightBound
  have leftScope := scope_of_mem_marked (List.get_mem (lineage.marked kind scope)
    ⟨position, leftBound⟩)
  have rightScope := scope_of_mem_marked (List.get_mem (twin.marked kind scope)
    ⟨position, rightBound⟩)
  constructor
  · rw [leftScope, rightScope]
  · rw [leftScope, rightScope]
    exact ⟨position, List.getElem?_eq_getElem leftBound, List.getElem?_eq_getElem rightBound⟩
  · have shown := congrArg (·[position]?) sameView
    simpa [leftBound, rightBound] using shown

end Lineage

namespace Injector

variable {injector : Injector} {lineage twin : Lineage} {kind : String} {scope : MemberScope}
  {filter? : Option TypeFilter} {members others : List Found} {root : String}

/-- An injector takes the marked members that pass the filter. -/
theorem taken_eq_filter_marked (keeps : injector.marker = MarkerKind.fold kind)
    (filter? : Option TypeFilter) (lineage : Lineage) (scope : MemberScope) :
    injector.taken filter? lineage scope =
      (lineage.marked kind scope).filter fun found =>
        filter?.all fun filter => filter.accepts found.member.valueType := by
  rw [← candidates_scanner, Lineage.marked, List.filter_filter]
  unfold Scanner.candidates
  congr 1
  funext found
  change (found.member.hasMarker injector.marker && _) = _
  rw [keeps, Member.hasMarker_fold, Bool.and_comm]

/-- The filter looks at types, and these are shown. -/
theorem twins_taken (keeps : injector.marker = MarkerKind.fold kind)
    (sameView : lineage.view kind scope = twin.view kind scope) :
    List.Forall₂ (Found.Twins kind lineage twin) (injector.taken filter? lineage scope)
      (injector.taken filter? twin scope) := by
  rw [taken_eq_filter_marked keeps, taken_eq_filter_marked keeps]
  refine List.rel_filter ?_ (Lineage.twins_marked sameView)
  intro left right twins
  obtain ⟨-, -, -, -, valueType, -⟩ := Found.exposed_eq_iff.mp twins.exposed
  simp only [valueType]

theorem parallel_arrange (keeps : injector.marker = MarkerKind.fold kind)
    (paired : List.Forall₂ (Found.Twins kind lineage twin) members others) :
    Parallel (List.Forall₂ (Binding.Twins kind lineage twin))
      (injector.arrange root filter? members) (injector.arrange root filter? others) := by
  have presence : injector.checkPresence root filter? members =
      injector.checkPresence root filter? others := by
    cases paired <;> rfl
  unfold arrange
  rw [presence]
  cases injector.checkPresence root filter? others with
  | error error => exact .error error
  | ok _ =>
      have named := Binding.parallel_resolveAll paired fun left right twins =>
        injector.naming.resolve_congr_of_exposed keeps twins.exposed
      apply named.bind
      intro bindings otherBindings pairs
      have distinct : injector.checkDistinct bindings = injector.checkDistinct otherBindings := by
        unfold checkDistinct
        rw [Binding.ensureDistinct_congr]
        exact pairs.imp fun left right twins =>
          ⟨twins.2, Found.qualifiedName_congr twins.1.exposed⟩
      rw [distinct]
      cases injector.checkDistinct otherBindings with
      | error error => exact .error error
      | ok _ =>
          exact .ok (pairs.imp fun left right twins =>
            ⟨twins.1, (Found.exposed_eq_iff.mp twins.1.exposed).1, twins.2⟩)

/-- Twin types are planned in parallel. -/
theorem parallel_plan (keeps : injector.marker = MarkerKind.fold kind)
    (sameName : lineage.name = twin.name)
    (sameView : ∀ scope, lineage.view kind scope = twin.view kind scope)
    (filter? : Option TypeFilter) :
    Parallel (List.Forall₂ (Binding.Twins kind lineage twin))
      (injector.plan lineage filter?).result (injector.plan twin filter?).result := by
  have twins : ∀ scope, List.Forall₂ (Found.Twins kind lineage twin)
      (injector.taken filter? lineage scope) (injector.taken filter? twin scope) :=
    fun scope => twins_taken keeps (sameView scope)
  have checks : ∀ scope,
      ((injector.scanner filter? scope).checkAll (injector.taken filter? lineage scope)).result =
        ((injector.scanner filter? scope).checkAll
          (injector.taken filter? twin scope)).result :=
    fun scope => Scanner.result_checkAll_congr (twins scope) fun left right twins =>
      Rules.checkStructure_congr twins.exposed injector.marker
  rw [result_plan, result_plan, checks, checks, sameName]
  cases ((injector.scanner filter? .fields).checkAll _).result with
  | error error => exact .error error
  | ok _ =>
      cases ((injector.scanner filter? .setters).checkAll _).result with
      | error error => exact .error error
      | ok _ => exact parallel_arrange keeps (List.rel_append (twins .fields) (twins .setters))

/-- A failed plan names the kind of the injector or none at all. -/
theorem marker?_of_plan_error {error : DiscoveryError} {marker : String}
    (failed : (injector.plan lineage filter?).result = .error error)
    (named : error.marker? = some marker) : marker = injector.marker := by
  obtain ⟨outcome, verdict⟩ := exists_verdict injector lineage filter?
  rw [verdict.result_plan] at failed
  subst failed
  cases verdict with
  | brokenField first rule => exact (Option.some.inj named).symm
  | brokenSetter fields first rule => exact (Option.some.inj named).symm
  | nothing required empty => exact (Option.some.inj named).symm
  | unnamed sound first failed =>
      rw [injector.naming.marker?_of_resolve_error failed] at named
      contradiction
  | clash sound named demanded clashes => contradiction

/-- The injector is made for the spelling, and what it scans, checks and names with is what
would be made for the same spelling separately. -/
structure MadeFor (injector : Injector) (spelling : String) (config : Config) : Prop where
  created : create spelling config = .ok injector
  predicate : ∀ filter?, MarkerPredicate.create spelling filter? = .ok ⟨injector.marker, filter?⟩
  rules : Rules.createStructural spelling false = .ok (Rules.structural injector.marker false)
  naming : Naming.create spelling config = .ok injector.naming

theorem madeFor_of_valid {spelling : String} {config : Config} (given : spelling ≠ "")
    (valid : config.validate = .ok ()) (spells : MarkerKind.fold spelling = kind) :
    MadeFor ⟨kind, config⟩ spelling config := by
  have checked : MarkerKind.checked spelling = .ok kind := by
    rw [MarkerKind.checked_of_ne_empty given, spells]
  constructor
  · unfold create
    rw [valid, checked]
    rfl
  · intro filter?
    unfold MarkerPredicate.create
    rw [checked]
    rfl
  · unfold Rules.createStructural
    rw [checked]
    rfl
  · unfold Naming.create
    rw [checked, valid]
    rfl

/-- Types of one name that show the same to a kind have the same plans, whichever spellings
of the kind the injectors are made for: the same positions of the view, the same depths and
the same names, or else one failure, which names the kind canonically if it names any. -/
theorem plans_agree_on_views (kind : String) (lineage twin : Lineage) (spelling other : String)
    (config : Config) (filter? : Option TypeFilter) (given : spelling ≠ "")
    (otherGiven : other ≠ "") (spells : MarkerKind.fold spelling = MarkerKind.fold kind)
    (otherSpells : MarkerKind.fold other = MarkerKind.fold kind)
    (valid : config.validate = .ok ()) (sameName : lineage.name = twin.name)
    (sameView : ∀ scope, lineage.view kind scope = twin.view kind scope) :
    ∃ injector otherInjector : Injector,
      injector.MadeFor spelling config ∧ otherInjector.MadeFor other config ∧
        Parallel (List.Forall₂ (Binding.Twins kind lineage twin))
          (injector.plan lineage filter?).result (otherInjector.plan twin filter?).result ∧
        ∀ error marker,
          (injector.plan lineage filter?).result = .error error ∨
              (otherInjector.plan twin filter?).result = .error error →
            error.marker? = some marker → marker = MarkerKind.fold kind := by
  refine ⟨⟨MarkerKind.fold kind, config⟩, ⟨MarkerKind.fold kind, config⟩,
    madeFor_of_valid given valid spells, madeFor_of_valid otherGiven valid otherSpells,
    parallel_plan rfl sameName sameView filter?, ?_⟩
  intro error marker failed named
  rcases failed with failed | failed
  · exact marker?_of_plan_error failed named
  · exact marker?_of_plan_error failed named

end Injector

/-! ## Two services -/

namespace Service

def session : ValueType := ⟨⟨"Session"⟩, .reference⟩

/-- A service with a field and a setter on the level above. -/
def service (fields : List Member) (upcast : Upcast) (setters : List Member) : Lineage :=
  .child ⟨1, "Service", ⟨"Service"⟩, fields, []⟩ upcast
    (.root ⟨0, "Base", ⟨"Base"⟩, [], setters⟩)

/-- Nothing can be bound to it, it has a second marker and more than one name. -/
def plain : Lineage :=
  service
    [⟨"log", .field, session, {}, [], none⟩,
      ⟨"current", .field, session, {},
        [⟨"WebServiceContext", [("name", "main"), ("name", "spare")]⟩,
          Marker.named "context" "other"], none⟩]
    Upcast.nowhere
    [⟨"setOwner", .setter, session, {}, [⟨"context", [("scope", "all")]⟩], none⟩]

def rich : Lineage :=
  service
    [⟨"current", .field, session, {},
        [Marker.plain "resource", Marker.named "Context" "main"],
        some (Store.accessor ⟨"current", "current", ⟨"Service"⟩, session.type, none⟩)⟩]
    (Upcast.toParent ⟨"Service"⟩)
    [⟨"setPort", .setter, session, { isStatic := true }, [Marker.plain "resource"], none⟩,
      ⟨"setOwner", .setter, session, {}, [Marker.plain "WebServiceContext"], none⟩]

/-- Both services are planned alike, although a static setter of the rich one could not be
bound if it were asked for. -/
theorem services_are_planned_alike :
    ∃ (injector otherInjector : Injector) (left right : List Binding),
      injector.MadeFor "WebServiceContext" {} ∧ otherInjector.MadeFor "context" {} ∧
        (injector.plan plain none).result = .ok left ∧
        (otherInjector.plan rich none).result = .ok right ∧
        left.map (·.name.text) = ["main", "owner"] ∧
        List.Forall₂ (Binding.Twins "Context" plain rich) left right := by
  obtain ⟨injector, otherInjector, made, otherMade, parallel, -⟩ :=
    Injector.plans_agree_on_views "Context" plain rich "WebServiceContext" "context" {} none
      (by decide) (by decide) (by decide) (by decide) rfl rfl
      (by intro scope; cases scope <;> rfl)
  have known : injector = ⟨"context", {}⟩ := (Except.ok.inj made.created).symm
  have planned : ∃ left, (injector.plan plain none).result = .ok left ∧
      left.map (·.name.text) = ["main", "owner"] := by
    rw [known]
    exact ⟨_, rfl, by decide⟩
  obtain ⟨left, planned, names⟩ := planned
  rw [planned] at parallel
  cases otherPlanned : (otherInjector.plan rich none).result with
  | error error =>
      rw [otherPlanned] at parallel
      cases parallel
  | ok right =>
      rw [otherPlanned] at parallel
      cases parallel with
      | ok twins =>
          exact ⟨injector, otherInjector, left, right, made, otherMade, planned,
            otherPlanned, names, twins⟩

end Service

end Wiring
