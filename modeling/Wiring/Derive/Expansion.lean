import Wiring.Derive.Options
import Wiring.Marker.Basic
import Wiring.Member.Kind
import Wiring.Value

/-!
# What a declaration is expanded to

The expansion of a declaration describes its type: the members with their
markers, for each marked member a way to bind it, and the parent if a field
holds one.  A field is bound by assigning to it, a setter by calling its method.

Everything is decided by how the declaration is written.  An optional field is
bound to a value of the type it is about and never counts as a scalar; a setter
takes exactly what it is declared to take.
-/

namespace Wiring.Derive

/-- What is done with a value that is bound to a member. -/
inductive Action where
  /-- Assign to the field, perhaps as the content of an optional value. -/
  | assign (field : String) (wrapped : Bool)
  /-- Call the method, which may refuse if it is fallible. -/
  | call (method : String) (fallible : Bool)
  deriving DecidableEq, Repr

/-- How a value is bound to a member: both the target and the value have to be
of the types given here. -/
structure Binder where
  target : String
  value : WrittenType
  action : Action

/-- A member of an expansion. -/
structure ExpandedMember where
  kind : MemberKind
  ident : String
  valueKind : ValueKind
  valueType : WrittenType
  markers : List Marker
  /-- A member without a way to bind it is described but never bound. -/
  binder? : Option Binder

/-- The field that holds the part of the parent. -/
structure ParentField where
  type : WrittenType
  field : String

/-- The description of a declared type. -/
structure Expansion where
  /-- The type, as it is declared. -/
  type : String
  /-- The name of the type, without a raw mark. -/
  name : String
  fields : List ExpandedMember
  setters : List ExpandedMember
  parent? : Option ParentField

/-- The marker that an attribute describes. -/
def MarkerOptions.marker (options : MarkerOptions) : Marker :=
  let kind := options.kind?.getD Marker.defaultKind
  match options.name? with
  | none => Marker.plain kind
  | some name => Marker.named kind name

/-- What a written type counts as. -/
def WrittenType.valueKind (written : WrittenType) : ValueKind :=
  if written.isUnit then .void
  else if written.isScalar then .primitive
  else .reference

namespace FieldSource

/-- The type of the values that are bound to a field. -/
def bindType (field : FieldSource) : WrittenType := field.type.optional?.getD field.type

/-- What the type of a field counts as.  An optional field can always be left
empty, so it is never a scalar. -/
def valueKind (field : FieldSource) : ValueKind :=
  if field.type.optional?.isSome then .reference else field.type.valueKind

/-- The member that a field becomes, with markers and a way to bind it or
without. -/
def member (field : FieldSource) (markers : List Marker) (binder? : Option Binder) :
    ExpandedMember where
  kind := .field
  ident := Word.unraw field.name
  valueKind := field.valueKind
  valueType := field.bindType
  markers := markers
  binder? := binder?

/-- The way to bind a field of the given type. -/
def binder (owner : String) (field : FieldSource) : Binder where
  target := owner
  value := field.bindType
  action := .assign field.name field.type.optional?.isSome

/-- The member that a field becomes in its mode.  The parent is no member. -/
def expand? (owner : String) (field : FieldSource) : FieldMode → Option ExpandedMember
  | .plain => some (field.member [] none)
  | .marked options => some (field.member [options.marker] (some (field.binder owner)))
  | .parent => none

end FieldSource

/-- The member that an announced setter becomes.  A setter that takes no value
cannot be bound. -/
def SetterSource.expand (owner : String) (setter : SetterSource) : ExpandedMember where
  kind := .setter
  ident := setter.method
  valueKind := setter.type.valueKind
  valueType := setter.type
  markers := [setter.marker.marker]
  binder? :=
    if setter.type.isUnit then none
    else some
      { target := owner
        value := setter.type
        action := .call setter.callee setter.fallible }

/-- The parent among fields in their modes. -/
def parentAmong? (fields : List (FieldSource × FieldMode)) : Option ParentField :=
  (fields.find? fun entry => entry.2 = .parent).map fun entry => ⟨entry.1.type, entry.1.name⟩

/-- The expansion of a declaration, or the first fault in it: the declaration as
a whole comes first, then the fields, then the setters. -/
def Source.expand (source : Source) : Except Fault Expansion :=
  if source.isGeneric then .error .generic
  else if source.shape ≠ .named then .error .unsupportedShape
  else do
    let fields ← FieldMode.ofFields false source.fields
    let setters ← SetterSource.ofBodies (Attribute.relevant source.attributes)
    .ok
      { type := source.name
        name := Word.unraw source.name
        fields := fields.filterMap fun entry => entry.1.expand? source.name entry.2
        setters := setters.map (SetterSource.expand source.name)
        parent? := parentAmong? fields }

end Wiring.Derive
