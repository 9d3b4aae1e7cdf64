import Wiring.Derive.Expansion
import Wiring.Lineage.Basic

/-!
# What an expansion means

An expansion is text about types and methods.  Once it is settled which type
each written type names, and what each method does, the expansion describes a
type whose members can be bound: a field by storing the value in it, a setter
by calling its method.

The target and the value are checked against the written types before anything
is done.  The field of the parent is where the parts of the parent are embedded,
so the way to the parent leads from a part of the declared type to the next one.
-/

namespace Wiring.Derive

/-- What a method does to the object it is called on.  It may change it and
refuse all the same. -/
structure Method where
  run : Target → Payload → Except String Unit × Target
  /-- A part keeps its type. -/
  types_run : ∀ target payload, (run target payload).2.types = target.types

/-- What written names stand for. -/
structure Environment where
  /-- The type that a written type names. -/
  typeOf : WrittenType → TypeId
  /-- What the method of a type does. -/
  method : (owner name : String) → Method

namespace Action

/-- Do with a value what the action says.  A method that is not declared
fallible has no way to refuse. -/
def run (environment : Environment) (owner ident : String) (action : Action) (target : Target)
    (payload : Payload) : Except BindError Unit × Target :=
  match action, target with
  | assign field _, part :: embedded => (.ok (), part.write ⟨ident, field, payload⟩ :: embedded)
  | assign _ _, [] => (.ok (), [])
  | call name fallible, target =>
      let called := (environment.method owner name).run target payload
      (if fallible then called.1.mapError BindError.rejected else .ok (), called.2)

theorem types_run (environment : Environment) (owner ident : String) (action : Action)
    (target : Target) (payload : Payload) :
    (action.run environment owner ident target payload).2.types = target.types := by
  cases action with
  | assign field wrapped => cases target <;> rfl
  | call name fallible => exact (environment.method owner name).types_run target payload

end Action

namespace Binder

/-- Check the target, then the value, and then act. -/
def run (environment : Environment) (ident : String) (binder : Binder) (target : Target)
    (value : Value) : Except BindError Unit × Target :=
  if target.head?.map Part.type = some (environment.typeOf (.word binder.target)) then
    match value.as? (environment.typeOf binder.value) with
    | none => (.error (.valueMismatch (environment.typeOf binder.value)), target)
    | some payload => binder.action.run environment binder.target ident target payload
  else (.error (.targetMismatch (environment.typeOf (.word binder.target))), target)

theorem types_run (environment : Environment) (ident : String) (binder : Binder)
    (target : Target) (value : Value) :
    (binder.run environment ident target value).2.types = target.types := by
  unfold run
  split
  · cases accepted : value.as? (environment.typeOf binder.value) with
    | none => rfl
    | some payload => exact binder.action.types_run environment binder.target ident target payload
  · rfl

/-- The accessor that the binder describes. -/
def accessor (environment : Environment) (ident : String) (binder : Binder) : Accessor where
  run := binder.run environment ident
  types_run := binder.types_run environment ident

end Binder

/-- The member that an expanded member describes. -/
def ExpandedMember.member (environment : Environment) (expanded : ExpandedMember) : Member where
  ident := expanded.ident
  kind := expanded.kind
  valueType := ⟨environment.typeOf expanded.valueType, expanded.valueKind⟩
  markers := expanded.markers
  accessor? := expanded.binder?.map (Binder.accessor environment expanded.ident)

/-- The declaration that an expansion describes. -/
def Expansion.declaration (environment : Environment) (key : Nat) (expansion : Expansion) :
    Declaration where
  key := key
  name := expansion.name
  type := environment.typeOf (.word expansion.type)
  fields := expansion.fields.map (ExpandedMember.member environment)
  setters := expansion.setters.map (ExpandedMember.member environment)

/-- The way from a part of the described type to the part that its parent field
holds. -/
def Expansion.upcast (environment : Environment) (expansion : Expansion) : Upcast :=
  Upcast.toParent (environment.typeOf (.word expansion.type))

/-- A declaration and what the names in it stand for.  Two declarations need not
mean the same by one name. -/
structure Origin where
  source : Source
  environment : Environment

/-- The types whose whole chains come from declarations, one for each level.  A
type extends another exactly when a field of its declaration holds the part of the
other. -/
inductive Derived : List Origin → Lineage → Prop where
  | root {origin : Origin} {expansion : Expansion} {key : Nat}
      (expanded : origin.source.expand = .ok expansion) (parentless : expansion.parent? = none) :
      Derived [origin] (.root (expansion.declaration origin.environment key))
  | child {origin : Origin} {expansion : Expansion} {key : Nat} {field : ParentField}
      {origins : List Origin} {parent : Lineage}
      (expanded : origin.source.expand = .ok expansion) (held : expansion.parent? = some field)
      (named : origin.environment.typeOf field.type = parent.type)
      (derived : Derived origins parent) :
      Derived (origin :: origins)
        (.child (expansion.declaration origin.environment key)
          (expansion.upcast origin.environment) parent)

end Wiring.Derive
