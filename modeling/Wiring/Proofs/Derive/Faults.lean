import Wiring.Derive.Expansion
import Wiring.Proofs.Derive.Options

/-!
# The faults of a declaration in order

The derivation stops at the first fault, so that it never learns of the others.  Here all
faults of a declaration are listed without reading anything: those of each option follow from
its key and its form, those of a list from the options in it, and so on up to the declaration.
The order of the list is the order of the text.  Every reader then reports the head of its own
part of the list, and succeeds if that part is empty.
-/

namespace Wiring.Derive

open AttributeOption

/-! ## Reporting the first fault -/

/-- A reader reports the first of the faults, and has a result where there are none. -/
inductive Reports {ε α : Type} : Except ε α → List ε → Prop
  | ok (value : α) : Reports (.ok value) []
  | error (fault : ε) (others : List ε) : Reports (.error fault) (fault :: others)

namespace Reports

variable {ε α β σ : Type} {result : Except ε α} {faults others : List ε} {fault : ε}

theorem eq_nil_iff (reports : Reports result faults) :
    faults = [] ↔ ∃ value, result = .ok value := by
  cases reports <;> simp

theorem head?_eq_some_iff (reports : Reports result faults) :
    faults.head? = some fault ↔ result = .error fault := by
  cases reports <;> simp

/-- What is read later can only be at fault once the earlier part is read. -/
theorem bind {next : α → Except ε β} (first : Reports result faults)
    (continues : ∀ value, result = .ok value → Reports (next value) others) :
    Reports (result >>= next) (faults ++ others) := by
  cases first with
  | ok value => exact continues value rfl
  | error fault rest => exact .error fault (rest ++ others)

theorem map {image : α → β} (first : Reports result faults) :
    Reports (result >>= fun value => .ok (image value)) faults := by
  cases first with
  | ok value => exact .ok (image value)
  | error fault others => exact .error fault others

/-- Where each item has faults of its own, a list of items is read up to the first of them. -/
theorem foldlM {read : σ → α → Except ε σ} {faultsOf : α → List ε}
    (step : ∀ state item, Reports (read state item) (faultsOf item)) (items : List α)
    (state : σ) : Reports (items.foldlM read state) (items.flatMap faultsOf) := by
  induction items generalizing state with
  | nil => exact .ok state
  | cons item rest inductionHypothesis =>
      rw [List.foldlM_cons, List.flatMap_cons]
      exact (step state item).bind fun next _ => inductionHypothesis next

end Reports

/-! ## The faults of one option -/

/-- What the key of an option calls for. -/
inductive Demand where
  | nothing
  | text
  | type
  deriving DecidableEq, Repr

namespace Demand

/-- The faults of an option that should give what is called for. -/
def faults : Demand → AttributeOption → List Fault
  | nothing, .bare _ => []
  | nothing, _ => [.expectedComma]
  | text, .text .. => []
  | type, .type .. => []
  | _, .bare _ => [.expectedEquals]
  | _, .nested .. => [.expectedEquals]
  | text, _ => [.expectedString]
  | type, _ => [.expectedType]

variable {option : AttributeOption}

theorem faults_text_eq_nil_iff :
    text.faults option = [] ↔ ∃ content, option = .text option.key content := by
  cases option <;> simp [faults, AttributeOption.key]

theorem faults_type_eq_nil_iff :
    type.faults option = [] ↔ ∃ written, option = .type option.key written := by
  cases option <;> simp [faults, AttributeOption.key]

theorem faults_nothing_eq_nil_iff :
    nothing.faults option = [] ↔ option = .bare option.key := by
  cases option <;> simp [faults, AttributeOption.key]

end Demand

/-- What the keys of a marker call for. -/
def markerDemand? (key : String) : Option Demand :=
  if key = "marker" ∨ key = "name" then some .text else none

/-- What the keys on a field call for. -/
def fieldDemand? (key : String) : Option Demand :=
  if key = "parent" then some .nothing else markerDemand? key

/-- What the keys in the list of a setter call for. -/
def setterDemand? (key : String) : Option Demand :=
  if key = "method" then some .text
  else if key = "ty" then some .type
  else if key = "fallible" then some .nothing
  else markerDemand? key

/-- All other keys in the list of a setter are those of a marker. -/
theorem setterDemand?_of_ne {key : String} (method : key ≠ "method") (type : key ≠ "ty")
    (fallible : key ≠ "fallible") : setterDemand? key = markerDemand? key := by
  simp [setterDemand?, method, type, fallible]

namespace AttributeOption

/-- The faults of an option, by what each key calls for. -/
def faults (demand? : String → Option Demand) (option : AttributeOption) : List Fault :=
  match demand? option.key with
  | none => [.unsupportedOption]
  | some demand =>
      demand.faults option ++ if option.textOf? "marker" = some "" then [.emptyMarker] else []

variable {demand? : String → Option Demand} {demand : Demand} {option : AttributeOption}

theorem faults_of_none (unknown : demand? option.key = none) :
    option.faults demand? = [.unsupportedOption] := by
  unfold faults
  rw [unknown]

theorem faults_of_some (known : demand? option.key = some demand) :
    option.faults demand? =
      demand.faults option ++
        if option.textOf? "marker" = some "" then [.emptyMarker] else [] := by
  unfold faults
  rw [known]

/-- Only a marker may be empty. -/
theorem faults_of_key_ne (known : demand? option.key = some demand)
    (other : option.key ≠ "marker") : option.faults demand? = demand.faults option := by
  rw [faults_of_some known, textOf?_of_key_ne other]
  simp

/-- Keys that call for the same have the same faults. -/
theorem faults_congr {other? : String → Option Demand}
    (same : demand? option.key = other? option.key) :
    option.faults demand? = option.faults other? := by
  unfold faults
  rw [same]

theorem reports_expectText (option : AttributeOption) :
    Reports option.expectText (Demand.text.faults option) := by
  cases option <;> constructor

theorem reports_expectType (option : AttributeOption) :
    Reports option.expectType (Demand.type.faults option) := by
  cases option <;> constructor

theorem reports_expectBare (option : AttributeOption) :
    Reports option.expectBare (Demand.nothing.faults option) := by
  cases option <;> constructor

end AttributeOption

theorem MarkerOptions.reports_read (options : MarkerOptions) (option : AttributeOption) :
    Reports (options.read option) (option.faults markerDemand?) := by
  unfold MarkerOptions.read
  by_cases marker : option.key = "marker"
  · rw [if_pos marker, faults_of_some (if_pos (Or.inl marker))]
    apply (reports_expectText option).bind
    intro kind expected
    have set : option.textOf? "marker" = some kind := by
      rw [eq_of_expectText expected, marker]
      simp [textOf?]
    by_cases empty : kind = ""
    · rw [if_pos empty, if_pos (set.trans (congrArg some empty))]
      exact .error _ []
    · rw [if_neg empty, if_neg (by simp [set, empty])]
      exact .ok _
  · rw [if_neg marker]
    by_cases name : option.key = "name"
    · rw [if_pos name, faults_of_key_ne (if_pos (Or.inr name)) marker]
      exact (reports_expectText option).map
    · rw [if_neg name, faults_of_none (if_neg (by simp [marker, name]))]
      exact .error _ []

theorem FieldOptions.reports_read (options : FieldOptions) (option : AttributeOption) :
    Reports (options.read option) (option.faults fieldDemand?) := by
  unfold FieldOptions.read
  by_cases parent : option.key = "parent"
  · rw [if_pos parent, faults_of_key_ne (if_pos parent) (by simp [parent])]
    exact (reports_expectBare option).map
  · rw [if_neg parent, faults_congr (if_neg parent)]
    exact (options.marker.reports_read option).map

theorem SetterOptions.reports_read (options : SetterOptions) (option : AttributeOption) :
    Reports (options.read option) (option.faults setterDemand?) := by
  unfold SetterOptions.read
  by_cases method : option.key = "method"
  · rw [if_pos method, faults_of_key_ne (if_pos method) (by simp [method])]
    exact (reports_expectText option).map
  · rw [if_neg method]
    by_cases type : option.key = "ty"
    · have demanded : setterDemand? option.key = some .type := by
        rw [type]
        rfl
      rw [if_pos type, faults_of_key_ne demanded (by simp [type])]
      exact (reports_expectType option).map
    · rw [if_neg type]
      by_cases fallible : option.key = "fallible"
      · have demanded : setterDemand? option.key = some .nothing := by
          rw [fallible]
          rfl
        rw [if_pos fallible, faults_of_key_ne demanded (by simp [fallible])]
        exact (reports_expectBare option).map
      · rw [if_neg fallible, faults_congr (setterDemand?_of_ne method type fallible)]
        exact (options.marker.reports_read option).map

/-! ## The faults of a field -/

/-- Whether a list makes its field the parent and marks it as well. -/
def marksParent (given : List AttributeOption) : Bool :=
  among "parent" given && (among "marker" given || among "name" given)

/-- The faults of an attribute on a field. -/
def AttributeBody.fieldFaults : AttributeBody → List Fault
  | bare => []
  | text _ => [.attributeWithValue]
  | options given =>
      given.flatMap (AttributeOption.faults fieldDemand?) ++
        if marksParent given then [.markedParent] else []

/-- The faults of the attributes on one field.  There is nothing to say of a second attribute
than that it is there. -/
def AttributeBody.fieldListFaults : List AttributeBody → List Fault
  | [] => []
  | body :: others => body.fieldFaults ++ others.map fun _ => .duplicateAttribute

namespace FieldSource

/-- The faults of a field by itself. -/
def faults (field : FieldSource) : List Fault :=
  AttributeBody.fieldListFaults (Attribute.relevant field.attributes)

/-- The faults of fields that come after others. -/
def faultsAfter (earlier : List FieldSource) : List FieldSource → List Fault
  | [] => []
  | field :: rest =>
      field.faults ++
        ((if field.holdsParent && earlier.any holdsParent then [.secondParent] else []) ++
          faultsAfter (earlier ++ [field]) rest)

end FieldSource

variable {given : List AttributeOption}

namespace AttributeOption

variable {key : String} {option : AttributeOption} {demand? : String → Option Demand}

/-- An option without a fault is set to a text if its key calls for one. -/
theorem exists_text_of_faults_eq_nil (faultless : option.faults demand? = [])
    (demanded : demand? option.key = some .text) :
    ∃ content, option = .text option.key content := by
  rw [faults_of_some demanded, List.append_eq_nil_iff] at faultless
  exact Demand.faults_text_eq_nil_iff.mp faultless.1

/-- Among options without faults, a key that calls for a text is set to one if it is there. -/
theorem lastText?_eq_none_iff (faultless : given.flatMap (faults demand?) = [])
    (demanded : demand? key = some .text) :
    lastText? key given = none ↔ among key given = false := by
  rw [List.flatMap_eq_nil_iff] at faultless
  rw [lastText?, List.getLast?_eq_none_iff, List.filterMap_eq_nil_iff, among, List.any_eq_false]
  refine forall₂_congr fun option present => ?_
  constructor
  · intro unset same
    have here : option.key = key := by simpa using same
    subst here
    obtain ⟨content, written⟩ := exists_text_of_faults_eq_nil (faultless option present) demanded
    rw [written] at unset
    simp [textOf?, AttributeOption.key] at unset
  · intro other
    exact textOf?_of_key_ne (by simpa using other)

end AttributeOption

namespace FieldMode

theorem reports_ofBody (body : AttributeBody) : Reports (ofBody body) body.fieldFaults := by
  cases body with
  | bare => exact .ok _
  | text content => exact .error _ []
  | options given =>
      have reads := Reports.foldlM FieldOptions.reports_read given {}
      apply reads.bind
      intro options run
      have read := FieldOptions.ReadFrom.of_foldlM run
      -- In a list that was read to its end, a key of the marker that is there is also set.
      have faultless := reads.eq_nil_iff.mpr ⟨options, run⟩
      have kind : lastText? "marker" given = none ↔ among "marker" given = false :=
        lastText?_eq_none_iff faultless rfl
      have name : lastText? "name" given = none ↔ among "name" given = false :=
        lastText?_eq_none_iff faultless rfl
      have unmarked : options.marker.isEmpty = !(among "marker" given || among "name" given) := by
        unfold MarkerOptions.isEmpty
        rw [read.marker.kind, read.marker.name, Bool.eq_iff_iff]
        simp [kind, name]
      unfold marksParent
      rw [unmarked, read.isParent]
      cases among "parent" given <;> cases (among "marker" given || among "name" given)
      · exact .ok _
      · exact .ok _
      · exact .ok _
      · exact .error _ []

/-- A second attribute is refused once the first has been read. -/
theorem reports_ofBodies (bodies : List AttributeBody) :
    Reports (ofBodies bodies) (AttributeBody.fieldListFaults bodies) := by
  match bodies with
  | [] => exact .ok _
  | [body] =>
      rw [AttributeBody.fieldListFaults, List.map_nil, List.append_nil]
      exact reports_ofBody body
  | body :: second :: others =>
      apply (reports_ofBody body).bind
      intro _ _
      exact .error _ _

/-- A second parent is refused once its own attribute has been read. -/
theorem reports_ofFields {parentSeen : Bool} {earlier : List FieldSource}
    (seen : parentSeen = earlier.any FieldSource.holdsParent) (fields : List FieldSource) :
    Reports (ofFields parentSeen fields) (FieldSource.faultsAfter earlier fields) := by
  induction fields generalizing parentSeen earlier with
  | nil => exact .ok _
  | cons field rest inductionHypothesis =>
      apply (reports_ofBodies (Attribute.relevant field.attributes)).bind
      intro mode accepted
      -- The parent is told by the attributes of the field, and by its mode once these are read.
      have holds := (FieldSource.readAs_of_ofField accepted).holdsParent_eq
      have extended : (parentSeen || decide (mode = .parent)) =
          (earlier ++ [field]).any FieldSource.holdsParent := by
        simp [seen, holds]
      by_cases second : mode = .parent ∧ parentSeen = true
      · rw [if_pos second, if_pos (by simp [holds, ← seen, second])]
        exact .error _ _
      · rw [if_neg second, if_neg (by simpa [holds, ← seen] using second)]
        exact (inductionHypothesis extended).map

end FieldMode

/-! ## The faults of setters -/

/-- The fault in a method name. -/
def methodFaults (text : String) : List Fault :=
  match methodIdentifier text with
  | .ok _ => []
  | .error fault => [.methodName fault]

/-- What is missing from the list of a setter, or wrong with the method name in it. -/
def announcementFaults (given : List AttributeOption) : List Fault :=
  (if lastText? "method" given = none then [.missingMethod] else []) ++
    ((if (lastType? "ty" given).isNone then [.missingType] else []) ++
      (lastText? "method" given).toList.flatMap methodFaults)

/-- The faults of an option on a declaration, which ought to announce a setter. -/
def AttributeOption.setterFaults (isLast : Bool) (option : AttributeOption) : List Fault :=
  if option.key = "setter" then
    match option with
    | .nested _ [] => [.missingOption]
    | .nested _ given => given.flatMap (faults setterDemand?) ++ announcementFaults given
    | .bare _ => [if isLast then .missingParentheses else .expectedParentheses]
    | _ => [.expectedParentheses]
  else [.expectedSetter]

/-- The faults in the list of an attribute on a declaration. -/
def AttributeOption.listFaults : List AttributeOption → List Fault
  | [] => []
  | option :: rest => option.setterFaults rest.isEmpty ++ listFaults rest

/-- The faults of an attribute on a declaration. -/
def AttributeBody.setterFaults : AttributeBody → List Fault
  | bare => [.attributeWithoutList]
  | text _ => [.attributeWithValue]
  | options given => listFaults given

namespace SetterSource

theorem reports_methodIdentifier (text : String) :
    Reports ((methodIdentifier text).mapError .methodName) (methodFaults text) := by
  unfold methodFaults
  cases methodIdentifier text with
  | ok callee => exact .ok callee
  | error fault => exact .error _ []

theorem reports_ofOptions {options : SetterOptions} (read : options.ReadFrom given) :
    Reports (ofOptions options) (announcementFaults given) := by
  unfold ofOptions announcementFaults
  rw [← read.method, ← read.type]
  cases options.method? with
  | none => exact .error _ _
  | some method =>
      cases options.type? with
      | none => exact .error _ _
      | some type =>
          have named : (some method).toList.flatMap methodFaults = methodFaults method := by simp
          rw [named]
          exact (reports_methodIdentifier method).map

theorem reports_ofOption (isLast : Bool) (option : AttributeOption) :
    Reports (ofOption isLast option) (option.setterFaults isLast) := by
  unfold ofOption AttributeOption.setterFaults
  by_cases setter : option.key = "setter"
  · rw [if_pos setter, if_pos setter]
    cases option with
    | nested key given =>
        cases given with
        | nil => exact .error _ []
        | cons first rest =>
            apply (Reports.foldlM SetterOptions.reports_read (first :: rest) {}).bind
            intro options run
            exact reports_ofOptions (.of_foldlM run)
    | bare key => exact .error _ []
    | _ => exact .error _ []
  · rw [if_neg setter, if_neg setter]
    exact .error _ []

theorem reports_ofOptionList (given : List AttributeOption) :
    Reports (ofOptionList given) (listFaults given) := by
  induction given with
  | nil => exact .ok _
  | cons option rest inductionHypothesis =>
      apply (reports_ofOption rest.isEmpty option).bind
      intro setter _
      exact inductionHypothesis.map

theorem reports_ofBody (body : AttributeBody) : Reports (ofBody body) body.setterFaults := by
  cases body with
  | bare => exact .error _ []
  | text content => exact .error _ []
  | options given => exact reports_ofOptionList given

theorem reports_ofBodies (bodies : List AttributeBody) :
    Reports (ofBodies bodies) (bodies.flatMap AttributeBody.setterFaults) := by
  induction bodies with
  | nil => exact .ok _
  | cons body rest inductionHypothesis =>
      rw [List.flatMap_cons]
      apply (reports_ofBody body).bind
      intro setters _
      exact inductionHypothesis.map

end SetterSource

/-! ## The faults of a declaration -/

/-- All faults of a declaration: those of the declaration as a whole, then those of its fields,
then those of the setters that it announces. -/
def Source.faults (source : Source) : List Fault :=
  (if source.isGeneric then [.generic] else []) ++
    ((if source.shape = .named then [] else [.unsupportedShape]) ++
      (FieldSource.faultsAfter [] source.fields ++
        (Attribute.relevant source.attributes).flatMap AttributeBody.setterFaults))

/-- The derivation reports the first fault of a declaration, and refuses none without a
fault. -/
theorem Source.reports_expand (source : Source) : Reports source.expand source.faults := by
  unfold expand faults
  by_cases generic : source.isGeneric = true
  · rw [if_pos generic, if_pos generic]
    exact .error _ _
  · rw [if_neg generic, if_neg generic]
    by_cases named : source.shape = .named
    · rw [if_neg (not_not.mpr named), if_pos named]
      have fields : Reports (FieldMode.ofFields false source.fields)
          (FieldSource.faultsAfter [] source.fields) :=
        FieldMode.reports_ofFields List.any_nil.symm source.fields
      apply fields.bind
      intro entries _
      exact (SetterSource.reports_ofBodies _).map
    · rw [if_pos named, if_neg named]
      exact .error _ _

end Wiring.Derive
