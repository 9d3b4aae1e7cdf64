import Wiring.Proofs.Marker.Folding
import Wiring.Proofs.Name.Grammar
import Wiring.Proofs.Name.Resolution
import Wiring.Proofs.Sample

/-!
# The choice of a name

A member is called what the first marker of the kind calls it.  Failing that, a field is called
by its identifier and a setter by the property that its identifier spells.  The cases exclude
each other and leave nothing out.  In particular a setter is never left with an empty name, as
no property has one.
-/

namespace Wiring

/-- An attribute has the value of its first entry. -/
theorem Marker.attribute?_eq_some_iff {marker : Marker} {key value : String} :
    marker.attribute? key = some value ↔
      First (fun entry => entry.1 = key) marker.attributes (key, value) := by
  rw [attribute?, List.lookup_eq_some_iff]
  constructor
  · rintro ⟨before, after, split, clean⟩
    refine ⟨before, after, split, ?_, rfl⟩
    intro earlier present same
    exact bne_iff_ne.mp (clean earlier present) same.symm
  · rintro ⟨before, after, split, clean, -⟩
    refine ⟨before, after, split, ?_⟩
    intro earlier present
    exact bne_iff_ne.mpr fun same => clean earlier present same.symm

/-- The first marker of the kind, in whatever spelling, has a name for the member that is not
empty. -/
def Member.Gives (member : Member) (kind name : String) : Prop :=
  ∃ marker,
    First (fun marker => MarkerKind.fold marker.kind = MarkerKind.fold kind) member.markers
      marker ∧
    First (fun entry => entry.1 = Marker.nameAttribute) marker.attributes
      (Marker.nameAttribute, name) ∧ name ≠ ""

/-- How a member comes by its name, or is left without one. -/
inductive Found.Chooses (kind : String) (config : Config) (found : Found) :
    Except DiscoveryError BindingName → Prop where
  | given (name : BindingName) (gives : found.member.Gives kind name.text) :
      Chooses kind config found (.ok name)
  | identifier (name : BindingName) (silent : ∀ given, ¬ found.member.Gives kind given)
      (field : found.member.kind = .field) (called : found.ident = name.text) :
      Chooses kind config found (.ok name)
  | anonymous (silent : ∀ given, ¬ found.member.Gives kind given)
      (field : found.member.kind = .field) (called : found.ident = "") :
      Chooses kind config found
        (.error (.emptyBindingName found.owner found.ident found.member.kind))
  | property (name : BindingName) (silent : ∀ given, ¬ found.member.Gives kind given)
      (setter : found.member.kind = .setter)
      (called : SetterName.property found.ident config.setterPrefix config.snakeCaseSetters =
        .ok name.text) :
      Chooses kind config found (.ok name)
  | unconventional (reason : SetterNameError)
      (silent : ∀ given, ¬ found.member.Gives kind given)
      (setter : found.member.kind = .setter)
      (called : SetterName.property found.ident config.setterPrefix config.snakeCaseSetters =
        .error reason) :
      Chooses kind config found
        (.error (.namingConvention found.owner found.ident config.setterPrefix reason))

namespace Naming

variable {naming other : Naming} {kind : String} {config : Config} {found : Found}
  {answer : Except DiscoveryError BindingName}

theorem explicitName?_eq_some_iff {member : Member} {name : String} :
    naming.explicitName? member = some name ↔ member.Gives naming.marker name := by
  have first : ∀ marker, member.marker? naming.marker = some marker ↔
      First (fun marker => MarkerKind.fold marker.kind = MarkerKind.fold naming.marker)
        member.markers marker := by
    intro marker
    unfold Member.marker?
    simp only [First.find?_eq_some_iff, Marker.isOf, MarkerKind.same_iff]
  unfold explicitName? Member.Gives
  rw [Option.bind_eq_some_iff]
  simp only [first, Marker.explicitName?_eq_some_iff, Marker.attribute?_eq_some_iff]

theorem nonempty_text (found : Found) (name : BindingName) :
    resolve.nonempty found name.text = .ok name := by
  rw [resolve.nonempty, BindingName.ofText?_eq_some_iff.mpr rfl]

theorem nonempty_empty (found : Found) :
    resolve.nonempty found "" =
      .error (.emptyBindingName found.owner found.ident found.member.kind) :=
  rfl

theorem resolve_of_gives {name : BindingName}
    (gives : found.member.Gives naming.marker name.text) : naming.resolve found = .ok name := by
  rw [resolve, explicitName?_eq_some_iff.mpr gives]
  exact nonempty_text found name

theorem explicitName?_eq_none (silent : ∀ given, ¬ found.member.Gives naming.marker given) :
    naming.explicitName? found.member = none := by
  apply Option.eq_none_iff_forall_ne_some.mpr
  intro given gives
  exact silent given (explicitName?_eq_some_iff.mp gives)

theorem resolve_of_field (silent : ∀ given, ¬ found.member.Gives naming.marker given)
    (field : found.member.kind = .field) :
    naming.resolve found = resolve.nonempty found found.ident := by
  rw [resolve, explicitName?_eq_none silent, derivedName, field]

theorem resolve_of_setter (silent : ∀ given, ¬ found.member.Gives naming.marker given)
    (setter : found.member.kind = .setter) :
    naming.resolve found =
      match SetterName.property found.ident naming.setterPrefix naming.snakeCaseSetters with
      | .ok name => resolve.nonempty found name
      | .error reason =>
          .error (.namingConvention found.owner found.ident naming.setterPrefix reason) := by
  rw [resolve, explicitName?_eq_none silent, derivedName, setter]
  cases SetterName.property found.ident naming.setterPrefix naming.snakeCaseSetters <;> rfl

/-! ## The cases -/

/-- The naming of a kind under a configuration. -/
def of (kind : String) (config : Config) : Naming :=
  ⟨MarkerKind.fold kind, config.setterPrefix, config.snakeCaseSetters⟩

theorem create_of_valid (given : kind ≠ "") (valid : config.validate = .ok ()) :
    create kind config = .ok (of kind config) := by
  unfold create
  rw [MarkerKind.checked_of_ne_empty given, valid]
  rfl

theorem gives_marker_of_iff {member : Member} {name : String} :
    member.Gives (of kind config).marker name ↔ member.Gives kind name := by
  unfold Member.Gives of
  rw [MarkerKind.fold_fold]

theorem resolve_of_chooses (chosen : found.Chooses kind config answer) :
    (of kind config).resolve found = answer := by
  have silence : (∀ given, ¬ found.member.Gives kind given) →
      ∀ given, ¬ found.member.Gives (of kind config).marker given := by
    intro silent given
    rw [gives_marker_of_iff]
    exact silent given
  cases chosen with
  | given name gives => exact resolve_of_gives (gives_marker_of_iff.mpr gives)
  | identifier name silent field called =>
      rw [resolve_of_field (silence silent) field, called]
      exact nonempty_text found name
  | anonymous silent field called =>
      calc (of kind config).resolve found
          = resolve.nonempty found found.ident := resolve_of_field (silence silent) field
        _ = resolve.nonempty found "" := by rw [called]
        _ = .error (.emptyBindingName found.owner found.ident found.member.kind) :=
            nonempty_empty found
  | property name silent setter called =>
      rw [resolve_of_setter (silence silent) setter, of, called]
      exact nonempty_text found name
  | unconventional reason silent setter called =>
      rw [resolve_of_setter (silence silent) setter, of, called]

/-- Every member has a name or a failure to have one. -/
theorem exists_chooses (kind : String) (config : Config) (found : Found) :
    ∃ answer, found.Chooses kind config answer := by
  by_cases gives : ∃ given, found.member.Gives kind given
  · rcases gives with ⟨given, gives⟩
    have nonempty : given ≠ "" := by
      rcases gives with ⟨marker, -, -, nonempty⟩
      exact nonempty
    exact ⟨_, .given ⟨given, nonempty⟩ gives⟩
  · have silent : ∀ given, ¬ found.member.Gives kind given := not_exists.mp gives
    cases memberKind : found.member.kind with
    | field =>
        by_cases empty : found.ident = ""
        · exact ⟨_, .anonymous silent memberKind empty⟩
        · exact ⟨_, .identifier ⟨found.ident, empty⟩ silent memberKind rfl⟩
    | setter =>
        cases called : SetterName.property found.ident config.setterPrefix
            config.snakeCaseSetters with
        | error reason => exact ⟨_, .unconventional reason silent memberKind called⟩
        | ok name =>
            have nonempty := (SetterName.property_eq_ok_iff.mp called).name_ne_empty
            exact ⟨_, .property ⟨name, nonempty⟩ silent memberKind called⟩

theorem resolve_of_eq_iff :
    (of kind config).resolve found = answer ↔ found.Chooses kind config answer := by
  constructor
  · rintro rfl
    rcases exists_chooses kind config found with ⟨answer, chosen⟩
    rw [resolve_of_chooses chosen]
    exact chosen
  · exact resolve_of_chooses

/-- Only a field can be left with an empty name. -/
theorem emptyBindingName_iff :
    (∃ owner ident memberKind, (of kind config).resolve found =
        .error (.emptyBindingName owner ident memberKind)) ↔
      found.member.kind = .field ∧ found.ident = "" ∧
        ∀ given, ¬ found.member.Gives kind given := by
  simp only [resolve_of_eq_iff]
  constructor
  · rintro ⟨owner, ident, memberKind, chosen⟩
    cases chosen with
    | anonymous silent field called => exact ⟨field, called, silent⟩
  · rintro ⟨field, called, silent⟩
    exact ⟨_, _, _, .anonymous silent field called⟩

/-- The settings only matter to a setter that is not given a name. -/
theorem resolve_eq_of_marker_eq (same : other.marker = naming.marker)
    (settled : found.member.kind = .field ∨ ∃ given, found.member.Gives naming.marker given) :
    other.resolve found = naming.resolve found := by
  have explicit : other.explicitName? found.member = naming.explicitName? found.member := by
    rw [explicitName?, explicitName?, same]
  rw [resolve, resolve, explicit]
  rcases settled with field | ⟨given, gives⟩
  · rw [derivedName, derivedName, field]
  · rw [explicitName?_eq_some_iff.mpr gives]

/-- How the naming of a kind under a configuration answers. -/
structure FollowsConventions (naming : Naming) (kind : String) (config : Config) : Prop where
  resolve_iff : ∀ found answer,
    naming.resolve found = answer ↔ found.Chooses kind config answer
  text_ne_empty : ∀ found name, naming.resolve found = .ok name → name.text ≠ ""
  /-- Nothing but a field without an identifier and without a name of its own is left with an
  empty name. -/
  emptyBindingName_iff : ∀ found,
    (∃ owner ident memberKind,
        naming.resolve found = .error (.emptyBindingName owner ident memberKind)) ↔
      found.member.kind = .field ∧ found.ident = "" ∧
        ∀ given, ¬ found.member.Gives kind given
  resolve_depth : ∀ (found : Found) depth,
    naming.resolve { found with depth := depth } = naming.resolve found
  /-- Another prefix and another setting of the switch change the names of those setters only
  that are not given one. -/
  resolve_settings : ∀ (found : Found) (other : Naming), other.marker = naming.marker →
    (found.member.kind = .field ∨ ∃ given, found.member.Gives kind given) →
      other.resolve found = naming.resolve found

/-- Every marker kind has a naming under every configuration that is not refused, and it names
each member by the conventions. -/
theorem follows_conventions (kind : String) (config : Config) (given : kind ≠ "")
    (valid : config.validate = .ok ()) :
    ∃ naming, create kind config = .ok naming ∧ naming.FollowsConventions kind config := by
  refine ⟨of kind config, create_of_valid given valid, ?_⟩
  constructor
  · intro found answer
    exact resolve_of_eq_iff
  · intro found name resolved
    exact name.text_ne_empty
  · intro found
    exact emptyBindingName_iff
  · intro found depth
    exact (of kind config).resolve_congr rfl rfl
  · intro found other same settled
    apply resolve_eq_of_marker_eq same
    simpa only [gives_marker_of_iff] using settled

end Naming

/-! ## The members of a sundial -/

namespace Sundial

open Sample (text)

/-- A member that was found two levels above. -/
def found (member : Member) : Found :=
  ⟨⟨0, "Sundial", ⟨"Sundial"⟩, [member], []⟩, .fields, 0, member, 2⟩

/-- The first of two markers of the kind gives the name. -/
def hand : Member :=
  ⟨"hand", .field, text, {},
    [Marker.named "context" "arm", Marker.named "WebServiceRef" "gnomon",
      Marker.named "service_ref" "pointer"], none⟩

/-- The first of two names is empty, which is no name, so that the second one does not count. -/
def shade : Member :=
  ⟨"withShade", .setter, text, {},
    [⟨"service_ref", [("name", ""), ("name", "shadow")]⟩, Marker.named "ServiceRef" "cover"],
    none⟩

def blank : Member := ⟨"", .field, text, {}, [Marker.plain "service_ref"], none⟩

def config : Config := { setterPrefix := "with", snakeCaseSetters := false }

/-- One member is named by its marker, one by the property it sets, and one not at all. -/
theorem members_of_sundial_are_named :
    (found hand).Chooses "ServiceRef" config (.ok ⟨"gnomon", by decide⟩) ∧
      (found shade).Chooses "ServiceRef" config (.ok ⟨"shade", by decide⟩) ∧
        (found blank).Chooses "ServiceRef" config
          (.error (.emptyBindingName "Sundial" "" .field)) := by
  obtain ⟨naming, made, follows⟩ :=
    Naming.follows_conventions "ServiceRef" config (by decide) rfl
  cases made
  exact ⟨(follows.resolve_iff _ _).mp rfl, (follows.resolve_iff _ _).mp rfl,
    (follows.resolve_iff _ _).mp rfl⟩

end Sundial

end Wiring
