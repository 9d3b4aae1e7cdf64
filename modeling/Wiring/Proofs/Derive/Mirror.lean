import Wiring.Proofs.Derive.Expansion
import Wiring.Proofs.Derive.Options
import Wiring.Proofs.Derive.WrittenType

/-!
# Expansions mirror declarations

What a declaration is expanded to can be read off the declaration.  Each field but the
parent becomes one member, in the order of the fields, and each announcement of a setter
becomes one, in the order of the announcements.  What their types count as, which markers
they carry and how they are bound depend on nothing but what is written at the field or in
the announcement.

The description of a member and the way to bind it both go by the type of the member, and
they agree on it.
-/

namespace Wiring.Derive

open AttributeOption

/-! ## Names and markers -/

/-- The word without the raw mark is the given one. -/
def Word.Unraws (word plain : String) : Prop :=
  word = "r#" ++ plain ∨ word = plain ∧ ¬ ['r', '#'] <+: word.toList

theorem Word.unraws_unraw (word : String) : Unraws word (unraw word) := by
  by_cases raw : ['r', '#'] <+: word.toList
  · obtain ⟨rest, spelled⟩ := raw
    left
    apply String.toList_inj.mp
    simp [unraw, ← spelled]
  · exact Or.inr ⟨(unraw_of_not_raw raw).symm, raw⟩

/-- The marker is the one that options describe.  They may give it another kind than the
default one, and a name. -/
structure MarkedBy (given : List AttributeOption) (marker : Marker) : Prop where
  kind : marker.kind = (lastText? "marker" given).getD "resource"
  attributes : marker.attributes = ((lastText? "name" given).map fun name => ("name", name)).toList

namespace MarkerOptions

variable {options : MarkerOptions} {given : List AttributeOption}

theorem marker_eq (options : MarkerOptions) :
    options.marker = ⟨options.kind?.getD Marker.defaultKind,
      (options.name?.map fun name => (Marker.nameAttribute, name)).toList⟩ := by
  unfold marker
  cases options.name? <;> rfl

theorem ReadFrom.markedBy (read : options.ReadFrom given) : MarkedBy given options.marker := by
  rw [marker_eq, read.kind, read.name]
  exact ⟨rfl, rfl⟩

end MarkerOptions

/-! ## Fields -/

namespace FieldSource

/-- The member describes the field. -/
structure DescribedBy (owner : String) (field : FieldSource) (member : ExpandedMember) :
    Prop where
  kind : member.kind = .field
  ident : Word.Unraws field.name member.ident
  /-- An optional field takes values of the type it is about. -/
  optional : ∀ inner, field.type.IsOptional inner →
    member.valueType = inner ∧ member.valueKind = .reference
  plain : (∀ inner, ¬ field.type.IsOptional inner) → member.valueType = field.type
  countsAs : field.type.CountsAs member.valueKind
  unmarked : Attribute.relevant field.attributes = [] →
    member.markers = [] ∧ member.binder? = none
  /-- A marked field is bound by assignment. -/
  marked : ∀ body ∈ Attribute.relevant field.attributes, ∃ marker wrapped,
    MarkedBy body.given marker ∧ member.markers = [marker] ∧
      (wrapped = true ↔ ∃ inner, field.type.IsOptional inner) ∧
        member.binder? = some ⟨owner, member.valueType, .assign field.name wrapped⟩

variable {owner : String} {field : FieldSource} {mode : FieldMode} {member : ExpandedMember}
  {entries : List (FieldSource × FieldMode)}

/-- An optional type counts as what its field counts as. -/
theorem valueKind_eq (field : FieldSource) : field.valueKind = field.type.valueKind := by
  cases found : field.type.optional? with
  | none => simp [valueKind, found]
  | some inner =>
      rw [(WrittenType.optional?_eq_some_iff.mp found).valueKind_eq]
      simp [valueKind, found]

theorem bindType_of_isOptional {inner : WrittenType} (optional : field.type.IsOptional inner) :
    field.bindType = inner := by
  simp [bindType, WrittenType.optional?_eq_some_iff.mpr optional]

theorem bindType_of_not_isOptional (plain : ∀ inner, ¬ field.type.IsOptional inner) :
    field.bindType = field.type := by
  cases found : field.type.optional? with
  | none => simp [bindType, found]
  | some inner => exact absurd (WrittenType.optional?_eq_some_iff.mp found) (plain inner)

theorem isSome_optional?_iff :
    field.type.optional?.isSome = true ↔ ∃ inner, field.type.IsOptional inner := by
  simp only [Option.isSome_iff_exists, WrittenType.optional?_eq_some_iff]

/-- A field that is read becomes a member unless it holds the part of the parent. -/
theorem isNone_expand? : (field.expand? owner mode).isNone = decide (mode = .parent) := by
  cases mode <;> rfl

/-- The attribute of a field, and nothing else, puts a marker on its member and makes it
bound. -/
theorem ReadAs.eq_member (read : field.ReadAs mode)
    (expanded : field.expand? owner mode = some member) :
    ∃ markers binder?, member = field.member markers binder? ∧
      (Attribute.relevant field.attributes = [] → markers = [] ∧ binder? = none) ∧
        ∀ body ∈ Attribute.relevant field.attributes, ∃ marker,
          MarkedBy body.given marker ∧ markers = [marker] ∧
            binder? = some (field.binder owner) := by
  cases read with
  | plain unmarked =>
      cases expanded
      exact ⟨[], none, rfl, fun _ => ⟨rfl, rfl⟩, by simp [unmarked]⟩
  | @marked body options single _ read =>
      cases expanded
      exact ⟨_, _, rfl, by simp [single], by simpa [single] using read.markedBy⟩
  | parent single holds => contradiction

theorem ReadAs.describedBy (read : field.ReadAs mode)
    (expanded : field.expand? owner mode = some member) : field.DescribedBy owner member := by
  obtain ⟨markers, binder?, rfl, unmarked, marked⟩ := read.eq_member expanded
  exact
    { kind := rfl
      ident := Word.unraws_unraw field.name
      optional := fun inner optional =>
        ⟨bindType_of_isOptional optional, field.valueKind_eq.trans optional.valueKind_eq⟩
      plain := bindType_of_not_isOptional
      countsAs := by
        change field.type.CountsAs field.valueKind
        rw [field.valueKind_eq]
        exact WrittenType.countsAs_valueKind
      unmarked := unmarked
      marked := fun body listed =>
        have ⟨marker, described, single, bound⟩ := marked body listed
        ⟨marker, _, described, single, isSome_optional?_iff, bound⟩ }

/-- The members that fields become describe them in order, except that the one that holds the
part of the parent becomes none. -/
theorem describedBy_filterMap (modes : ∀ entry ∈ entries, entry.1.ReadAs entry.2) :
    List.Forall₂ (DescribedBy owner) ((entries.map Prod.fst).filter (!·.holdsParent))
      (entries.filterMap fun entry => entry.1.expand? owner entry.2) := by
  induction entries with
  | nil => exact .nil
  | cons entry rest inductionHypothesis =>
      obtain ⟨read, restRead⟩ := List.forall_mem_cons.mp modes
      have isParent : entry.1.holdsParent = (entry.1.expand? owner entry.2).isNone :=
        read.holdsParent_eq.trans isNone_expand?.symm
      cases expanded : entry.1.expand? owner entry.2 with
      | none => simpa [isParent, expanded] using inductionHypothesis restRead
      | some member =>
          simpa [isParent, expanded] using
            List.Forall₂.cons (read.describedBy expanded) (inductionHypothesis restRead)

end FieldSource

/-! ## Setters -/

namespace SetterSource

/-- The member describes the setter that a list of options announces. -/
structure DescribedBy (owner : String) (given : List AttributeOption) (member : ExpandedMember) :
    Prop where
  kind : member.kind = .setter
  ident : lastText? "method" given = some member.ident
  /-- A setter takes exactly what it is declared to take, optional or not. -/
  valueType : lastType? "ty" given = some member.valueType
  countsAs : member.valueType.CountsAs member.valueKind
  marker : ∃ marker, MarkedBy given marker ∧ member.markers = [marker]
  void : member.valueType = .unit → member.binder? = none
  /-- A setter that takes a value is bound by calling its method. -/
  bound : member.valueType ≠ .unit → ∃ callee, methodIdentifier member.ident = .ok callee ∧
    member.binder? = some ⟨owner, member.valueType, .call callee (among "fallible" given)⟩

variable {setter : SetterSource} {given : List AttributeOption} {owner : String}

theorem ReadFrom.describedBy (read : setter.ReadFrom given) :
    DescribedBy owner given (setter.expand owner) where
  kind := rfl
  ident := read.method
  valueType := read.type
  countsAs := WrittenType.countsAs_valueKind
  marker := ⟨setter.marker.marker, read.marker.markedBy, rfl⟩
  void := fun void => if_pos (WrittenType.isUnit_iff.mpr void)
  bound := fun takes => by
    refine ⟨setter.callee, read.callee, ?_⟩
    rw [← read.fallible]
    exact if_neg (mt WrittenType.isUnit_iff.mp takes)

end SetterSource

/-! ## The whole -/

variable {source : Source} {expansion : Expansion} {entries : List (FieldSource × FieldMode)}

/-- Where one field at most is read as the parent, the parent is what is marked as it. -/
theorem toList_parentAmong? (modes : ∀ entry ∈ entries, entry.1.ReadAs entry.2)
    (single : (entries.filter fun entry => entry.2 = .parent).length ≤ 1) :
    (parentAmong? entries).toList =
      ((entries.map Prod.fst).filter FieldSource.holdsParent).map fun field =>
        ⟨field.type, field.name⟩ := by
  have marked : (entries.filter fun entry => entry.2 = .parent) =
      entries.filter (FieldSource.holdsParent ∘ Prod.fst) :=
    List.filter_congr fun entry present => (modes entry present).holdsParent_eq.symm
  rw [parentAmong?, ← List.head?_filter, List.filter_map, ← marked]
  generalize (entries.filter fun entry => entry.2 = .parent) = parents at single
  match parents, single with
  | [], _ => rfl
  | [entry], _ => rfl

/-- The options in all attributes on a declaration, in order.  Each announces a setter. -/
def Source.announcements (source : Source) : List AttributeOption :=
  (Attribute.relevant source.attributes).flatMap AttributeBody.given

/-- The expansion mirrors the declaration. -/
structure Expansion.Mirrors (expansion : Expansion) (source : Source) : Prop where
  type : expansion.type = source.name
  name : Word.Unraws source.name expansion.name
  /-- The field that holds the part of the parent is no member. -/
  fields : List.Forall₂ (FieldSource.DescribedBy source.name)
    (source.fields.filter (!·.holdsParent)) expansion.fields
  setters : List.Forall₂
    (fun option member => ∃ given, option = .nested "setter" given ∧
      SetterSource.DescribedBy source.name given member)
    source.announcements expansion.setters
  /-- There is a parent exactly if a field is marked as holding its part. -/
  parent : ∀ link, expansion.parent? = some link ↔
    ∃ field ∈ source.fields, field.holdsParent = true ∧ link = ⟨field.type, field.name⟩

/-- Every declaration that is not refused is mirrored by its expansion. -/
theorem Source.expand_mirrors (accepted : source.expand = .ok expansion) :
    expansion.Mirrors source := by
  obtain ⟨entries, setters, read, announced, rfl⟩ := Source.expand_eq_ok accepted
  obtain ⟨order, modes, single⟩ := FieldMode.ofFields_eq_ok read
  exact
    { type := rfl
      name := Word.unraws_unraw source.name
      fields := by
        rw [← order]
        exact FieldSource.describedBy_filterMap modes
      setters := by
        change List.Forall₂ _ _ (setters.map _)
        rw [List.forall₂_map_right_iff]
        exact (SetterSource.announcedBy_of_ofBodies announced).imp
          fun option setter ⟨given, listed, read⟩ => ⟨given, listed, read.describedBy⟩
      parent := fun link => by
        rw [← Option.mem_toList, toList_parentAmong? modes (by simpa using single), order]
        simp only [List.mem_map, List.mem_filter, and_assoc]
        exact exists_congr fun field => by rw [@eq_comm _ link] }

/-! ## A parcel

A parcel holds the part of its carrier.  A field of it goes by a keyword, another is
optional, and its setters are announced by two attributes. -/

namespace Parcel

def parcel : Source where
  name := "Parcel"
  generics := ""
  shape := .named
  fields :=
    [⟨"r#type", .ofText "Label",
        [⟨"doc", .text "what is inside"⟩,
          ⟨"inject", .options [.text "marker" "stamp", .text "name" "kind"]⟩]⟩,
      ⟨"weight", .ofText "u32", []⟩,
      ⟨"carrier", .ofText "Carrier", [⟨"inject", .options [.bare "parent"]⟩]⟩,
      ⟨"route", .ofText "core::option::Option<u16,>", [⟨"inject", .bare⟩]⟩,
      ⟨"sealed", .ofText "()", []⟩]
  attributes :=
    [⟨"inject", .options
        [.nested "setter" [.text "method" "set_code", .type "ty" (.ofText "Option<u16>"),
          .bare "fallible"],
         .nested "setter" [.type "ty" (.ofText "()"), .text "method" "open"]]⟩,
      ⟨"inject", .options
        [.nested "setter" [.text "method" "set_size", .type "ty" (.ofText "u64"),
          .text "marker" "stamp", .text "marker" "context"]]⟩]

def parcelExpansion : Expansion where
  type := "Parcel"
  name := "Parcel"
  fields :=
    [⟨.field, "type", .reference, .word "Label", [.named "stamp" "kind"],
        some ⟨"Parcel", .word "Label", .assign "r#type" false⟩⟩,
      ⟨.field, "weight", .primitive, .word "u32", [], none⟩,
      ⟨.field, "route", .reference, .word "u16", [.plain "resource"],
        some ⟨"Parcel", .word "u16", .assign "route" true⟩⟩,
      ⟨.field, "sealed", .void, .unit, [], none⟩]
  setters :=
    [⟨.setter, "set_code", .reference, .ofText "Option<u16>", [.plain "resource"],
        some ⟨"Parcel", .ofText "Option<u16>", .call "set_code" true⟩⟩,
      ⟨.setter, "open", .void, .unit, [.plain "resource"], none⟩,
      ⟨.setter, "set_size", .primitive, .word "u64", [.plain "context"],
        some ⟨"Parcel", .word "u64", .call "set_size" false⟩⟩]
  parent? := some ⟨.word "Carrier", "carrier"⟩

set_option maxRecDepth 2000 in
theorem expand_parcel : parcel.expand = .ok parcelExpansion :=
  rfl

/-- The expansion of a parcel mirrors it. -/
theorem mirrors_parcel : parcel.expand = .ok parcelExpansion ∧ parcelExpansion.Mirrors parcel :=
  ⟨expand_parcel, parcel.expand_mirrors expand_parcel⟩

end Parcel

end Wiring.Derive
