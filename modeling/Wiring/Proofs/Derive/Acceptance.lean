import Wiring.Proofs.Derive.Faults

/-!
# Which declarations are accepted

A declaration is accepted if it is written as the derivation asks for.  Most of that can be
said of each option by itself.  The rest concerns lists, since the parent cannot be marked and
a setter needs a method name and a type, and fields, since each has one attribute at most and
one of them at most is the parent.
-/

namespace Wiring.Derive

open AttributeOption

/-! ## Options -/

/-- The option gives the kind of a marker or its name. -/
inductive MarkerOption : AttributeOption → Prop
  | kind {text : String} (nonempty : text ≠ "") : MarkerOption (.text "marker" text)
  | name (text : String) : MarkerOption (.text "name" text)

/-- The option has a place in an attribute on a field. -/
inductive FieldOption : AttributeOption → Prop
  | parent : FieldOption (.bare "parent")
  | marker {option : AttributeOption} (describes : MarkerOption option) : FieldOption option

/-- The option has a place in the list of a setter. -/
inductive SetterOption : AttributeOption → Prop
  | method (text : String) : SetterOption (.text "method" text)
  | type (written : WrittenType) : SetterOption (.type "ty" written)
  | fallible : SetterOption (.bare "fallible")
  | marker {option : AttributeOption} (describes : MarkerOption option) : SetterOption option

variable {option : AttributeOption} {given : List AttributeOption}

theorem MarkerOption.of_faults (faultless : option.faults markerDemand? = []) :
    MarkerOption option := by
  by_cases marker : option.key = "marker"
  · rw [faults_of_some (if_pos (Or.inl marker)), List.append_eq_nil_iff,
      Demand.faults_text_eq_nil_iff, marker] at faultless
    rcases faultless with ⟨⟨text, rfl⟩, nonempty⟩
    exact .kind (by simpa [textOf?] using nonempty)
  · by_cases name : option.key = "name"
    · rw [faults_of_key_ne (if_pos (Or.inr name)) marker, Demand.faults_text_eq_nil_iff,
        name] at faultless
      rcases faultless with ⟨text, rfl⟩
      exact .name text
    · rw [faults_of_none (if_neg (by simp [marker, name]))] at faultless
      contradiction

theorem MarkerOption.faults_eq_nil (describes : MarkerOption option) :
    option.faults markerDemand? = [] := by
  cases describes with
  | kind nonempty =>
      simp [faults, markerDemand?, AttributeOption.key, Demand.faults, textOf?, nonempty]
  | name text => simp [faults, markerDemand?, AttributeOption.key, Demand.faults, textOf?]

/-- An option of a marker is judged alike wherever its keys call for the same. -/
theorem MarkerOption.faults_congr (describes : MarkerOption option)
    (demand? : String → Option Demand) (kind : demand? "marker" = markerDemand? "marker")
    (name : demand? "name" = markerDemand? "name") :
    option.faults demand? = option.faults markerDemand? := by
  cases describes with
  | kind nonempty => exact AttributeOption.faults_congr kind
  | name text => exact AttributeOption.faults_congr name

theorem faults_fieldDemand_eq_nil_iff :
    option.faults fieldDemand? = [] ↔ FieldOption option := by
  constructor
  · intro faultless
    by_cases parent : option.key = "parent"
    · rw [faults_of_key_ne (if_pos parent) (by simp [parent]), Demand.faults_nothing_eq_nil_iff,
        parent] at faultless
      rw [faultless]
      exact .parent
    · rw [faults_congr (if_neg parent)] at faultless
      exact .marker (.of_faults faultless)
  · rintro (_ | describes)
    · rfl
    · rw [describes.faults_congr fieldDemand? rfl rfl]
      exact describes.faults_eq_nil

theorem faults_setterDemand_eq_nil_iff :
    option.faults setterDemand? = [] ↔ SetterOption option := by
  constructor
  · intro faultless
    by_cases method : option.key = "method"
    · rw [faults_of_key_ne (if_pos method) (by simp [method]), Demand.faults_text_eq_nil_iff,
        method] at faultless
      rcases faultless with ⟨text, rfl⟩
      exact .method text
    · by_cases type : option.key = "ty"
      · have demanded : setterDemand? option.key = some .type := by
          rw [type]
          rfl
        rw [faults_of_key_ne demanded (by simp [type]), Demand.faults_type_eq_nil_iff,
          type] at faultless
        rcases faultless with ⟨written, rfl⟩
        exact .type written
      · by_cases fallible : option.key = "fallible"
        · have demanded : setterDemand? option.key = some .nothing := by
            rw [fallible]
            rfl
          rw [faults_of_key_ne demanded (by simp [fallible]), Demand.faults_nothing_eq_nil_iff,
            fallible] at faultless
          rw [faultless]
          exact .fallible
        · rw [AttributeOption.faults_congr (setterDemand?_of_ne method type fallible)] at faultless
          exact .marker (.of_faults faultless)
  · rintro (text | written | _ | describes)
    · rfl
    · rfl
    · rfl
    · rw [describes.faults_congr setterDemand? rfl rfl]
      exact describes.faults_eq_nil

/-- Every option of a list has its place in it exactly if none has a fault. -/
theorem flatMap_faults_eq_nil_iff {demand? : String → Option Demand}
    {fits : AttributeOption → Prop}
    (each : ∀ option : AttributeOption, option.faults demand? = [] ↔ fits option) :
    given.flatMap (AttributeOption.faults demand?) = [] ↔ ∀ option ∈ given, fits option := by
  rw [List.flatMap_eq_nil_iff]
  exact forall₂_congr fun option _ => each option

/-! ## Fields -/

namespace FieldSource

/-- What a field may look like: it has one attribute at most, without a list or with a list that
does not mark the parent. -/
inductive WellFormed (field : FieldSource) : Prop
  | unmarked (without : Attribute.relevant field.attributes = []) : WellFormed field
  | bare (single : Attribute.relevant field.attributes = [.bare]) : WellFormed field
  | options {given : List AttributeOption}
      (single : Attribute.relevant field.attributes = [.options given])
      (fit : ∀ option ∈ given, FieldOption option)
      (apart : among "parent" given = true →
        among "marker" given = false ∧ among "name" given = false) : WellFormed field

variable {field : FieldSource} {fields earlier : List FieldSource}

theorem fieldFaults_options_eq_nil_iff :
    (AttributeBody.options given).fieldFaults = [] ↔
      (∀ option ∈ given, FieldOption option) ∧
        (among "parent" given = true →
          among "marker" given = false ∧ among "name" given = false) := by
  change given.flatMap _ ++ _ = [] ↔ _
  rw [List.append_eq_nil_iff, flatMap_faults_eq_nil_iff fun _ => faults_fieldDemand_eq_nil_iff]
  simp [marksParent]

theorem faults_eq_nil_iff : field.faults = [] ↔ field.WellFormed := by
  unfold faults
  constructor
  · intro faultless
    match bodies : Attribute.relevant field.attributes with
    | [] => exact .unmarked bodies
    | [.bare] => exact .bare bodies
    | [.text _] =>
        rw [bodies] at faultless
        contradiction
    | [.options given] =>
        rw [bodies, AttributeBody.fieldListFaults, List.map_nil, List.append_nil] at faultless
        rcases fieldFaults_options_eq_nil_iff.mp faultless with ⟨fit, apart⟩
        exact .options bodies fit apart
    | body :: second :: others =>
        rw [bodies] at faultless
        simp [AttributeBody.fieldListFaults] at faultless
  · rintro (without | single | ⟨single, fit, apart⟩)
    · rw [without]
      rfl
    · rw [single]
      rfl
    · rw [single, AttributeBody.fieldListFaults, List.map_nil, List.append_nil]
      exact fieldFaults_options_eq_nil_iff.mpr ⟨fit, apart⟩

/-- Fields are without faults if each is by itself and there is one parent at most among them and
those before. -/
theorem faultsAfter_eq_nil_iff :
    faultsAfter earlier fields = [] ↔
      (∀ field ∈ fields, field.WellFormed) ∧
        (fields.filter holdsParent).length + (earlier.any holdsParent).toNat ≤ 1 := by
  induction fields generalizing earlier with
  | nil => cases earlier.any holdsParent <;> simp [faultsAfter]
  | cons field rest inductionHypothesis =>
      rw [faultsAfter, List.append_eq_nil_iff, List.append_eq_nil_iff, faults_eq_nil_iff,
        inductionHypothesis, List.forall_mem_cons, List.any_append, List.filter_cons,
        List.any_cons, List.any_nil, Bool.or_false]
      cases field.holdsParent <;> cases earlier.any holdsParent <;> simp [and_assoc]

end FieldSource

/-! ## Setters -/

/-- The text consists of one identifier, perhaps with blanks and comments around it. -/
def IsIdentifier (text : String) : Prop :=
  ∃ word, Token.ofText? text = some [.word word] ∧ word ∉ Word.keywords

theorem methodFaults_eq_nil_iff {text : String} : methodFaults text = [] ↔ IsIdentifier text := by
  unfold methodFaults IsIdentifier
  simp only [← methodIdentifier_eq_ok_iff]
  cases methodIdentifier text <;> simp

/-- The option announces a setter: each option in its list has a place there, and the last of
the method names, which is the one that counts, is an identifier. -/
inductive AnnouncesSetter : AttributeOption → Prop
  | intro {given : List AttributeOption} {text : String} {written : WrittenType}
      (fit : ∀ option ∈ given, SetterOption option)
      (method : lastText? "method" given = some text) (identifier : IsIdentifier text)
      (type : lastType? "ty" given = some written) : AnnouncesSetter (.nested "setter" given)

theorem announcementFaults_eq_nil_iff :
    announcementFaults given = [] ↔
      ∃ text written, lastText? "method" given = some text ∧ IsIdentifier text ∧
        lastType? "ty" given = some written := by
  unfold announcementFaults
  cases lastText? "method" given with
  | none => simp
  | some text =>
      cases lastType? "ty" given with
      | none => simp
      | some written => simp [methodFaults_eq_nil_iff]

theorem AttributeOption.setterFaults_eq_nil_iff {isLast : Bool} :
    option.setterFaults isLast = [] ↔ AnnouncesSetter option := by
  unfold setterFaults
  constructor
  · intro faultless
    split at faultless
    case isTrue key =>
      split at faultless
      case h_2 name given _ =>
        rw [List.append_eq_nil_iff, announcementFaults_eq_nil_iff,
          flatMap_faults_eq_nil_iff fun _ => faults_setterDemand_eq_nil_iff] at faultless
        rcases faultless with ⟨fit, text, written, method, identifier, type⟩
        cases key
        exact .intro fit method identifier type
      all_goals contradiction
    case isFalse => contradiction
  · intro announces
    cases announces with
    | @intro given text written fit method identifier type =>
        cases given with
        | nil => contradiction
        | cons first rest =>
            change (first :: rest).flatMap _ ++ announcementFaults (first :: rest) = []
            rw [List.append_eq_nil_iff, announcementFaults_eq_nil_iff,
              flatMap_faults_eq_nil_iff fun _ => faults_setterDemand_eq_nil_iff]
            exact ⟨fit, text, written, method, identifier, type⟩

theorem AttributeOption.listFaults_eq_nil_iff :
    listFaults given = [] ↔ ∀ option ∈ given, AnnouncesSetter option := by
  induction given with
  | nil => simp [listFaults]
  | cons option rest inductionHypothesis =>
      rw [listFaults, List.append_eq_nil_iff, setterFaults_eq_nil_iff, inductionHypothesis,
        List.forall_mem_cons]

theorem AttributeBody.setterFaults_eq_nil_iff {body : AttributeBody} :
    body.setterFaults = [] ↔
      ∃ given, body = .options given ∧ ∀ option ∈ given, AnnouncesSetter option := by
  cases body with
  | bare => simp [setterFaults]
  | text content => simp [setterFaults]
  | options given => simp [setterFaults, listFaults_eq_nil_iff]

/-! ## Declarations -/

namespace Source

/-- What a declaration has to look like. -/
structure WellFormed (source : Source) : Prop where
  plain : source.isGeneric = false
  named : source.shape = .named
  fields : ∀ field ∈ source.fields, field.WellFormed
  oneParent : (source.fields.filter FieldSource.holdsParent).length ≤ 1
  setters : ∀ body ∈ Attribute.relevant source.attributes,
    ∃ given, body = .options given ∧ ∀ option ∈ given, AnnouncesSetter option

theorem faults_eq_nil_iff {source : Source} : source.faults = [] ↔ source.WellFormed := by
  unfold faults
  simp only [List.append_eq_nil_iff, List.flatMap_eq_nil_iff, FieldSource.faultsAfter_eq_nil_iff,
    AttributeBody.setterFaults_eq_nil_iff]
  constructor
  · rintro ⟨plain, named, ⟨fields, oneParent⟩, setters⟩
    exact ⟨by simpa using plain, by simpa using named, fields, oneParent, setters⟩
  · rintro ⟨plain, named, fields, oneParent, setters⟩
    exact ⟨by simp [plain], by simp [named], ⟨fields, oneParent⟩, setters⟩

/-- A declaration is accepted exactly if it is well-formed.  Any other is refused for its first
fault: those of the declaration as a whole come first, then those of the fields in order, and
then those of the setters that it announces. -/
theorem accepted_or_first_fault (source : Source) :
    ((∃ expansion, source.expand = .ok expansion) ↔ source.WellFormed) ∧
      ∀ fault, source.expand = .error fault ↔ source.faults.head? = some fault := by
  have reports := source.reports_expand
  constructor
  · rw [← reports.eq_nil_iff, faults_eq_nil_iff]
  · intro fault
    exact reports.head?_eq_some_iff.symm

end Source

/-! ## A knot

Both of its fields are marked as the parent, the first with an empty marker and a second
attribute besides, and its only setter has neither a method nor a type. -/

namespace Knot

def knot : Source where
  name := "Knot"
  generics := ""
  shape := .named
  fields :=
    [⟨"left", .word "Rope",
        [⟨"inject", .options [.bare "parent", .text "marker" ""]⟩, ⟨"inject", .text "loose"⟩]⟩,
      ⟨"right", .word "Rope", [⟨"serde", .bare⟩, ⟨"inject", .options [.bare "parent"]⟩]⟩]
  attributes :=
    [⟨"inject",
      .options [.nested "setter" [.number "fallible" 1, .text "ty" "Rope"], .bare "tie"]⟩]

example : knot.faults =
    [.emptyMarker, .markedParent, .duplicateAttribute, .secondParent, .expectedComma,
      .expectedType, .missingMethod, .missingType, .expectedSetter] := rfl

end Knot

end Wiring.Derive
