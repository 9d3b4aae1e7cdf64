import Wiring.Derive.Fault
import Wiring.Derive.Source

/-!
# Reading the attributes of a declaration

The options of an attribute are read from left to right, and the first fault
ends the reading.  Where an option is given more than once, the last one counts.

On a field, an attribute either marks the field or makes it the parent.  On the
declaration itself, attributes announce setters, which have no place of their
own in it.

The values of options are read by the general reader of the language, which is
not part of the derivation.  Four functions here stand for it; each says what it
is assumed to accept.
-/

namespace Wiring.Derive

namespace AttributeOption

/-- The string that an option is set to.  This stands for the general reader, of
which it is assumed that it asks for the equals sign first and then takes a
string, and nothing else. -/
def expectText : AttributeOption → Except Fault String
  | text _ content => .ok content
  | number .. => .error .expectedString
  | type .. => .error .expectedString
  | bare _ => .error .expectedEquals
  | nested .. => .error .expectedEquals

/-- The type that an option is set to.  This stands for the general reader, of
which it is assumed that it asks for the equals sign first and then takes what is
written as a type, and neither a string nor a number. -/
def expectType : AttributeOption → Except Fault WrittenType
  | type _ written => .ok written
  | text .. => .error .expectedType
  | number .. => .error .expectedType
  | bare _ => .error .expectedEquals
  | nested .. => .error .expectedEquals

/-- An option that is only given or not given.  This stands for the general
reader, of which it is assumed that after a key alone it goes on to the next
option or the end of the list, and stops at anything else. -/
def expectBare : AttributeOption → Except Fault Unit
  | bare _ => .ok ()
  | _ => .error .expectedComma

end AttributeOption

/-- What an attribute says about a marker. -/
structure MarkerOptions where
  kind? : Option String := none
  name? : Option String := none
  deriving DecidableEq, Repr

namespace MarkerOptions

/-- Whether the attribute says nothing about a marker. -/
def isEmpty (options : MarkerOptions) : Bool :=
  options.kind?.isNone && options.name?.isNone

/-- Read one more option. -/
def read (options : MarkerOptions) (option : AttributeOption) : Except Fault MarkerOptions :=
  if option.key = "marker" then do
    let kind ← option.expectText
    if kind = "" then .error .emptyMarker else .ok { options with kind? := some kind }
  else if option.key = "name" then do
    let name ← option.expectText
    .ok { options with name? := some name }
  else .error .unsupportedOption

end MarkerOptions

/-- What an attribute says about a field. -/
structure FieldOptions where
  marker : MarkerOptions := {}
  isParent : Bool := false
  deriving DecidableEq, Repr

/-- Read one more option. -/
def FieldOptions.read (options : FieldOptions) (option : AttributeOption) :
    Except Fault FieldOptions :=
  if option.key = "parent" then do
    option.expectBare
    .ok { options with isParent := true }
  else do
    let marker ← options.marker.read option
    .ok { options with marker }

/-- What a field is to the derivation. -/
inductive FieldMode where
  /-- A field that nothing is bound to. -/
  | plain
  | marked (options : MarkerOptions)
  /-- The field that holds the part of the parent. -/
  | parent
  deriving DecidableEq, Repr

namespace FieldMode

/-- What one attribute makes of its field. -/
def ofBody : AttributeBody → Except Fault FieldMode
  | .bare => .ok (marked {})
  | .text _ => .error .attributeWithValue
  | .options given => do
      let options ← given.foldlM FieldOptions.read {}
      if options.isParent then
        if options.marker.isEmpty then .ok parent else .error .markedParent
      else .ok (marked options.marker)

/-- What the attributes of a field make of it.  There can be one only; a second
is refused before it is read, but not before the first is. -/
def ofBodies : List AttributeBody → Except Fault FieldMode
  | [] => .ok plain
  | [body] => ofBody body
  | body :: _ :: _ => do
      let _ ← ofBody body
      .error .duplicateAttribute

/-- What a declared field is to the derivation. -/
def ofField (field : FieldSource) : Except Fault FieldMode :=
  ofBodies (Attribute.relevant field.attributes)

/-- Read the fields in order.  A second parent is refused once its own attribute
has been read. -/
def ofFields (parentSeen : Bool) : List FieldSource → Except Fault (List (FieldSource × FieldMode))
  | [] => .ok []
  | field :: rest => do
      let mode ← ofField field
      if mode = parent ∧ parentSeen then
        .error .secondParent
      else do
        let others ← ofFields (parentSeen || mode = parent) rest
        .ok ((field, mode) :: others)

end FieldMode

/-- The identifier that the text of a method name consists of.  This stands for
the general reader, of which it is assumed that it accepts exactly the texts that
are cut into one identifier: the raw form of a word is one, a keyword is none,
and blanks and comments around it do not count. -/
def methodIdentifier (text : String) : Except MethodNameFault String :=
  match Token.ofText? text with
  | none => .error .unreadable
  | some tokens =>
      match TokenTree.ofTokens? tokens, tokens with
      | none, _ => .error .unreadable
      | some _, [] => .error .missing
      | some _, .word word :: rest =>
          if Word.keywords.contains word then .error (.keyword word)
          else if rest.isEmpty then .ok word
          else .error .trailing
      | some _, _ :: _ => .error .noIdentifier

/-- What the list of a setter says. -/
structure SetterOptions where
  method? : Option String := none
  type? : Option WrittenType := none
  marker : MarkerOptions := {}
  fallible : Bool := false

/-- Read one more option. -/
def SetterOptions.read (options : SetterOptions) (option : AttributeOption) :
    Except Fault SetterOptions :=
  if option.key = "method" then do
    let method ← option.expectText
    .ok { options with method? := some method }
  else if option.key = "ty" then do
    let type ← option.expectType
    .ok { options with type? := some type }
  else if option.key = "fallible" then do
    option.expectBare
    .ok { options with fallible := true }
  else do
    let marker ← options.marker.read option
    .ok { options with marker }

/-- A setter that an attribute announces. -/
structure SetterSource where
  /-- The method name exactly as it is given. -/
  method : String
  /-- The identifier that the given name consists of. -/
  callee : String
  type : WrittenType
  marker : MarkerOptions
  fallible : Bool

namespace SetterSource

/-- The setter that the options in its list make.  The method name is read only
when both it and the type are there. -/
def ofOptions (options : SetterOptions) : Except Fault SetterSource :=
  match options.method?, options.type? with
  | none, _ => .error .missingMethod
  | some _, none => .error .missingType
  | some method, some type => do
      let callee ← (methodIdentifier method).mapError .methodName
      .ok ⟨method, callee, type, options.marker, options.fallible⟩

/-- The setter that an option of an attribute announces.  How a missing list is
reported depends on whether another option follows. -/
def ofOption (isLast : Bool) (option : AttributeOption) : Except Fault SetterSource :=
  if option.key = "setter" then
    match option with
    | .nested _ [] => .error .missingOption
    | .nested _ given => do
        let options ← given.foldlM SetterOptions.read {}
        ofOptions options
    | .bare _ => .error (if isLast then .missingParentheses else .expectedParentheses)
    | _ => .error .expectedParentheses
  else .error .expectedSetter

/-- The setters of one attribute, in order. -/
def ofOptionList : List AttributeOption → Except Fault (List SetterSource)
  | [] => .ok []
  | option :: rest => do
      let setter ← ofOption rest.isEmpty option
      let others ← ofOptionList rest
      .ok (setter :: others)

/-- The setters of one attribute on a declaration. -/
def ofBody : AttributeBody → Except Fault (List SetterSource)
  | .bare => .error .attributeWithoutList
  | .text _ => .error .attributeWithValue
  | .options given => ofOptionList given

/-- The setters of all attributes on a declaration, in order. -/
def ofBodies : List AttributeBody → Except Fault (List SetterSource)
  | [] => .ok []
  | body :: rest => do
      let setters ← ofBody body
      let others ← ofBodies rest
      .ok (setters ++ others)

end SetterSource

end Wiring.Derive
