import Wiring.Derive.Options
import Mathlib.Data.List.Forall2

/-!
# What attributes say

The readers of attributes take one option after the other, and a later one overrides an
earlier one of the same key.  Here each result of a reader is described by the whole list
that it was read from: the last string or type that a key is set to, and whether a key is
given at all.  From this follows what a field is, and which setters a declaration announces.
-/

namespace Wiring.Derive

/-! ## What options say -/

namespace AttributeOption

/-- The string that an option sets the key to. -/
def textOf? (key : String) : AttributeOption → Option String
  | text given content => if given = key then some content else none
  | _ => none

/-- The type that an option sets the key to. -/
def typeOf? (key : String) : AttributeOption → Option WrittenType
  | type given written => if given = key then some written else none
  | _ => none

/-- The last string among options that the key is set to. -/
def lastText? (key : String) (given : List AttributeOption) : Option String :=
  (given.filterMap (textOf? key)).getLast?

/-- The last type among options that the key is set to. -/
def lastType? (key : String) (given : List AttributeOption) : Option WrittenType :=
  (given.filterMap (typeOf? key)).getLast?

/-- Whether the key is among options. -/
def among (key : String) (given : List AttributeOption) : Bool :=
  given.any fun option => option.key == key

variable {key : String} {option : AttributeOption} {seen : List AttributeOption}

@[simp]
theorem lastText?_append_singleton :
    lastText? key (seen ++ [option]) = (option.textOf? key).or (lastText? key seen) := by
  cases set : option.textOf? key <;> simp [lastText?, set]

@[simp]
theorem lastType?_append_singleton :
    lastType? key (seen ++ [option]) = (option.typeOf? key).or (lastType? key seen) := by
  cases set : option.typeOf? key <;> simp [lastType?, set]

@[simp]
theorem among_append_singleton :
    among key (seen ++ [option]) = (among key seen || option.key == key) := by
  simp [among]

theorem textOf?_of_key_ne (other : option.key ≠ key) : option.textOf? key = none := by
  cases option with
  | text given content => exact if_neg other
  | _ => rfl

theorem typeOf?_of_key_ne (other : option.key ≠ key) : option.typeOf? key = none := by
  cases option with
  | type given written => exact if_neg other
  | _ => rfl

theorem eq_of_expectText {content : String} (expected : option.expectText = .ok content) :
    option = text option.key content := by
  cases option with
  | text given string =>
      cases expected
      rfl
  | _ => contradiction

theorem eq_of_expectType {written : WrittenType} (expected : option.expectType = .ok written) :
    option = type option.key written := by
  cases option with
  | type given named =>
      cases expected
      rfl
  | _ => contradiction

theorem eq_of_expectBare (expected : option.expectBare = .ok ()) : option = bare option.key := by
  cases option with
  | bare given => rfl
  | _ => contradiction

end AttributeOption

/-- The options in the list of an attribute. -/
def AttributeBody.given : AttributeBody → List AttributeOption
  | options given => given
  | _ => []

open AttributeOption

/-! ## Reading from left to right -/

theorem bind_eq_ok_iff {ε α β : Type} {first : Except ε α} {next : α → Except ε β} {result : β} :
    first >>= next = .ok result ↔ ∃ value, first = .ok value ∧ next value = .ok result := by
  cases first <;> simp [bind, Except.bind]

theorem eq_ok_of_mapError {ε φ α : Type} {result : Except ε α} {wrap : ε → φ} {value : α}
    (succeeds : result.mapError wrap = .ok value) : result = .ok value := by
  cases result with
  | error error => contradiction
  | ok given =>
      cases succeeds
      rfl

/-- What holds of each state and of what was read up to it holds in the end, of everything. -/
theorem holds_of_foldlM {σ α ε : Type} {read : σ → α → Except ε σ} {holds : σ → List α → Prop}
    (step : ∀ state seen item next, holds state seen → read state item = .ok next →
      holds next (seen ++ [item]))
    {items seen : List α} {state final : σ} (start : holds state seen)
    (run : items.foldlM read state = .ok final) : holds final (seen ++ items) := by
  induction items generalizing state seen with
  | nil =>
      cases run
      simpa using start
  | cons item rest inductionHypothesis =>
      rw [List.foldlM_cons, bind_eq_ok_iff] at run
      obtain ⟨next, taken, run⟩ := run
      simpa using inductionHypothesis (step state seen item next start taken) run

variable {given seen : List AttributeOption} {option : AttributeOption}

namespace MarkerOptions

variable {options next : MarkerOptions}

/-- The options are what a list says about a marker. -/
structure ReadFrom (options : MarkerOptions) (given : List AttributeOption) : Prop where
  kind : options.kind? = lastText? "marker" given
  name : options.name? = lastText? "name" given

/-- An option that sets neither key changes nothing. -/
theorem ReadFrom.skip (known : options.ReadFrom seen) (kind : option.textOf? "marker" = none)
    (name : option.textOf? "name" = none) : options.ReadFrom (seen ++ [option]) :=
  ⟨by simpa [kind] using known.kind, by simpa [name] using known.name⟩

theorem ReadFrom.read (known : options.ReadFrom seen) (taken : options.read option = .ok next) :
    next.ReadFrom (seen ++ [option]) := by
  unfold MarkerOptions.read at taken
  split at taken
  case isTrue key =>
    obtain ⟨kind, expected, taken⟩ := bind_eq_ok_iff.mp taken
    split at taken
    case isTrue => contradiction
    case isFalse =>
      cases taken
      rw [eq_of_expectText expected, key]
      exact ⟨by simp [textOf?], by simp [textOf?, known.name]⟩
  case isFalse =>
    split at taken
    case isTrue key =>
      obtain ⟨name, expected, taken⟩ := bind_eq_ok_iff.mp taken
      cases taken
      rw [eq_of_expectText expected, key]
      exact ⟨by simp [textOf?, known.kind], by simp [textOf?]⟩
    case isFalse => contradiction

end MarkerOptions

namespace FieldOptions

variable {options next : FieldOptions}

/-- The options are what a list says about a field. -/
structure ReadFrom (options : FieldOptions) (given : List AttributeOption) : Prop where
  marker : options.marker.ReadFrom given
  isParent : options.isParent = among "parent" given

theorem ReadFrom.read (known : options.ReadFrom seen) (taken : options.read option = .ok next) :
    next.ReadFrom (seen ++ [option]) := by
  unfold FieldOptions.read at taken
  split at taken
  case isTrue key =>
    obtain ⟨⟨⟩, expected, taken⟩ := bind_eq_ok_iff.mp taken
    cases taken
    rw [eq_of_expectBare expected, key]
    exact ⟨known.marker.skip rfl rfl, by simp [AttributeOption.key]⟩
  case isFalse key =>
    obtain ⟨marker, read, taken⟩ := bind_eq_ok_iff.mp taken
    cases taken
    exact ⟨known.marker.read read, by simp [known.isParent, key]⟩

theorem ReadFrom.of_foldlM (run : given.foldlM FieldOptions.read {} = .ok options) :
    options.ReadFrom given :=
  have start : ReadFrom {} [] := ⟨⟨rfl, rfl⟩, rfl⟩
  holds_of_foldlM (fun _ _ _ _ known taken => known.read taken) start run

end FieldOptions

namespace SetterOptions

variable {options next : SetterOptions}

/-- The options are what a list says about a setter. -/
structure ReadFrom (options : SetterOptions) (given : List AttributeOption) : Prop where
  method : options.method? = lastText? "method" given
  type : options.type? = lastType? "ty" given
  marker : options.marker.ReadFrom given
  fallible : options.fallible = among "fallible" given

theorem ReadFrom.read (known : options.ReadFrom seen) (taken : options.read option = .ok next) :
    next.ReadFrom (seen ++ [option]) := by
  unfold SetterOptions.read at taken
  split at taken
  case isTrue key =>
    obtain ⟨method, expected, taken⟩ := bind_eq_ok_iff.mp taken
    cases taken
    rw [eq_of_expectText expected, key]
    exact ⟨by simp [textOf?], by simp [typeOf?, known.type],
      known.marker.skip (by simp [textOf?]) (by simp [textOf?]),
      by simp [AttributeOption.key, known.fallible]⟩
  case isFalse noMethod =>
    split at taken
    case isTrue key =>
      obtain ⟨type, expected, taken⟩ := bind_eq_ok_iff.mp taken
      cases taken
      rw [eq_of_expectType expected, key]
      exact ⟨by simp [textOf?, known.method], by simp [typeOf?], known.marker.skip rfl rfl,
        by simp [AttributeOption.key, known.fallible]⟩
    case isFalse noType =>
      split at taken
      case isTrue key =>
        obtain ⟨⟨⟩, expected, taken⟩ := bind_eq_ok_iff.mp taken
        cases taken
        rw [eq_of_expectBare expected, key]
        exact ⟨by simp [textOf?, known.method], by simp [typeOf?, known.type],
          known.marker.skip rfl rfl, by simp [AttributeOption.key]⟩
      case isFalse notFallible =>
        obtain ⟨marker, read, taken⟩ := bind_eq_ok_iff.mp taken
        cases taken
        exact ⟨by simp [textOf?_of_key_ne noMethod, known.method],
          by simp [typeOf?_of_key_ne noType, known.type], known.marker.read read,
          by simp [known.fallible, notFallible]⟩

theorem ReadFrom.of_foldlM (run : given.foldlM SetterOptions.read {} = .ok options) :
    options.ReadFrom given :=
  have start : ReadFrom {} [] := ⟨rfl, rfl, ⟨rfl, rfl⟩, rfl⟩
  holds_of_foldlM (fun _ _ _ _ known taken => known.read taken) start run

end SetterOptions

/-! ## What attributes make of a field -/

namespace FieldSource

/-- What the attributes of a field say. -/
inductive ReadAs (field : FieldSource) : FieldMode → Prop
  | plain (unmarked : Attribute.relevant field.attributes = []) : ReadAs field .plain
  | marked {body : AttributeBody} {options : MarkerOptions}
      (single : Attribute.relevant field.attributes = [body])
      (marks : among "parent" body.given = false) (read : options.ReadFrom body.given) :
      ReadAs field (.marked options)
  | parent {body : AttributeBody} (single : Attribute.relevant field.attributes = [body])
      (holds : among "parent" body.given = true) : ReadAs field .parent

/-- Whether the field is marked as the one that holds the part of the parent. -/
def holdsParent (field : FieldSource) : Bool :=
  (Attribute.relevant field.attributes).any fun body => among "parent" body.given

variable {field : FieldSource} {mode : FieldMode}

theorem ReadAs.holdsParent_eq (read : field.ReadAs mode) :
    field.holdsParent = decide (mode = .parent) := by
  cases read with
  | plain unmarked => simp [holdsParent, unmarked]
  | marked single marks => simp [holdsParent, single, marks]
  | parent single holds => simp [holdsParent, single, holds]

/-- An only attribute that is not refused marks its field or makes it the parent. -/
theorem readAs_of_ofBody {body : AttributeBody}
    (single : Attribute.relevant field.attributes = [body])
    (accepted : FieldMode.ofBody body = .ok mode) : field.ReadAs mode := by
  cases body with
  | bare =>
      cases accepted
      exact .marked single rfl ⟨rfl, rfl⟩
  | text content => contradiction
  | options given =>
      obtain ⟨options, run, accepted⟩ := bind_eq_ok_iff.mp accepted
      have read := FieldOptions.ReadFrom.of_foldlM run
      split at accepted
      case isTrue held =>
        split at accepted
        case isTrue =>
          cases accepted
          exact .parent single (read.isParent.symm.trans held)
        case isFalse => contradiction
      case isFalse marks =>
        cases accepted
        rw [Bool.not_eq_true, read.isParent] at marks
        exact .marked single marks read.marker

/-- A field that is not refused has one attribute at most, and is what that says. -/
theorem readAs_of_ofField (accepted : FieldMode.ofField field = .ok mode) :
    field.ReadAs mode := by
  unfold FieldMode.ofField at accepted
  match bodies : Attribute.relevant field.attributes with
  | [] =>
      rw [bodies] at accepted
      cases accepted
      exact .plain bodies
  | [body] =>
      rw [bodies] at accepted
      exact readAs_of_ofBody bodies accepted
  | body :: second :: others =>
      rw [bodies] at accepted
      obtain ⟨-, -, accepted⟩ := bind_eq_ok_iff.mp accepted
      contradiction

end FieldSource

namespace FieldMode

variable {parentSeen : Bool} {fields : List FieldSource} {entries : List (FieldSource × FieldMode)}

/-- Fields that are not refused are read in order, each as its attributes say, and one of them
at most is the parent. -/
theorem ofFields_eq_ok (accepted : ofFields parentSeen fields = .ok entries) :
    entries.map Prod.fst = fields ∧ (∀ entry ∈ entries, entry.1.ReadAs entry.2) ∧
      (entries.filter fun entry => entry.2 = .parent).length + parentSeen.toNat ≤ 1 := by
  induction fields generalizing parentSeen entries with
  | nil =>
      cases accepted
      exact ⟨rfl, by simp, by cases parentSeen <;> simp⟩
  | cons field rest inductionHypothesis =>
      obtain ⟨mode, read, accepted⟩ := bind_eq_ok_iff.mp accepted
      split at accepted
      case isTrue => contradiction
      case isFalse fresh =>
        obtain ⟨others, restAccepted, accepted⟩ := bind_eq_ok_iff.mp accepted
        cases accepted
        obtain ⟨order, modes, parents⟩ := inductionHypothesis restAccepted
        refine ⟨by simp [order],
          List.forall_mem_cons.mpr ⟨FieldSource.readAs_of_ofField read, modes⟩, ?_⟩
        · by_cases isParent : mode = .parent
          · have first : parentSeen = false := by simpa [isParent] using fresh
            simpa [isParent, first] using parents
          · simpa [isParent] using parents

end FieldMode

/-! ## What attributes announce -/

/-- A method name is read from a text that is one word and no keyword. -/
theorem methodIdentifier_eq_ok_iff {text callee : String} :
    methodIdentifier text = .ok callee ↔
      Token.ofText? text = some [.word callee] ∧ callee ∉ Word.keywords := by
  constructor
  · intro read
    unfold methodIdentifier at read
    split at read
    case h_1 => contradiction
    case h_2 tokens cut =>
      split at read
      case h_3 word rest _ =>
        split at read
        · contradiction
        · rename_i free
          split at read
          · rename_i alone
            cases read
            exact ⟨by rw [cut, List.isEmpty_iff.mp alone], by simpa using free⟩
          · contradiction
      all_goals contradiction
  · rintro ⟨cut, free⟩
    unfold methodIdentifier
    have trees : TokenTree.ofTokens? [.word callee] = some [.leaf (.word callee)] := rfl
    rw [cut]
    simp only [trees]
    rw [if_neg (by simpa using free)]
    rfl

namespace SetterSource

variable {setter : SetterSource} {setters : List SetterSource}

/-- The setter is what a list says about it. -/
structure ReadFrom (setter : SetterSource) (given : List AttributeOption) : Prop where
  method : lastText? "method" given = some setter.method
  callee : methodIdentifier setter.method = .ok setter.callee
  type : lastType? "ty" given = some setter.type
  marker : setter.marker.ReadFrom given
  fallible : setter.fallible = among "fallible" given

/-- The option announces the setter. -/
def AnnouncedBy (option : AttributeOption) (setter : SetterSource) : Prop :=
  ∃ given, option = .nested "setter" given ∧ setter.ReadFrom given

theorem readFrom_of_ofOptions {options : SetterOptions} (read : options.ReadFrom given)
    (accepted : ofOptions options = .ok setter) : setter.ReadFrom given := by
  unfold ofOptions at accepted
  split at accepted
  case h_1 => contradiction
  case h_2 => contradiction
  case h_3 method type hasMethod hasType =>
    obtain ⟨callee, named, accepted⟩ := bind_eq_ok_iff.mp accepted
    cases accepted
    exact ⟨read.method.symm.trans hasMethod, eq_ok_of_mapError named,
      read.type.symm.trans hasType, read.marker, read.fallible⟩

theorem announcedBy_of_ofOption {isLast : Bool} (accepted : ofOption isLast option = .ok setter) :
    AnnouncedBy option setter := by
  unfold ofOption at accepted
  split at accepted
  case isTrue key =>
    split at accepted
    case h_1 => contradiction
    case h_2 name given _ =>
      obtain ⟨options, run, accepted⟩ := bind_eq_ok_iff.mp accepted
      cases key
      exact ⟨given, rfl, readFrom_of_ofOptions (.of_foldlM run) accepted⟩
    case h_3 => contradiction
    case h_4 => contradiction
  case isFalse => contradiction

theorem announcedBy_of_ofOptionList (accepted : ofOptionList given = .ok setters) :
    List.Forall₂ AnnouncedBy given setters := by
  induction given generalizing setters with
  | nil =>
      cases accepted
      exact .nil
  | cons option rest inductionHypothesis =>
      obtain ⟨setter, read, accepted⟩ := bind_eq_ok_iff.mp accepted
      obtain ⟨others, restRead, accepted⟩ := bind_eq_ok_iff.mp accepted
      cases accepted
      exact .cons (announcedBy_of_ofOption read) (inductionHypothesis restRead)

theorem announcedBy_of_ofBody {body : AttributeBody} (accepted : ofBody body = .ok setters) :
    List.Forall₂ AnnouncedBy body.given setters := by
  cases body with
  | bare => contradiction
  | text content => contradiction
  | options given => exact announcedBy_of_ofOptionList accepted

/-- Every option of every attribute announces one setter, in order. -/
theorem announcedBy_of_ofBodies {bodies : List AttributeBody}
    (accepted : ofBodies bodies = .ok setters) :
    List.Forall₂ AnnouncedBy (bodies.flatMap AttributeBody.given) setters := by
  induction bodies generalizing setters with
  | nil =>
      cases accepted
      exact .nil
  | cons body rest inductionHypothesis =>
      obtain ⟨first, read, accepted⟩ := bind_eq_ok_iff.mp accepted
      obtain ⟨others, restRead, accepted⟩ := bind_eq_ok_iff.mp accepted
      cases accepted
      exact List.rel_append (announcedBy_of_ofBody read) (inductionHypothesis restRead)

end SetterSource

end Wiring.Derive
