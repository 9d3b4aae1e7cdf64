import Wiring.Marker.Basic
import Wiring.Member.Kind
import Wiring.Object.Accessor

/-!
# Members

A member is a field or a setter as one type declares it.  Its markers decide
which passes take it up, its kind and modifiers whether it can be bound at all,
and its accessor, if it has one, how.
-/

namespace Wiring

/-- A field or a setter declared on one type. -/
structure Member where
  ident : String
  kind : MemberKind
  valueType : ValueType
  modifiers : Modifiers := {}
  markers : List Marker := []
  /-- A member without an accessor is found but cannot be bound. -/
  accessor? : Option Accessor := none

namespace Member

/-- The first marker of a kind, in whatever spelling. -/
def marker? (member : Member) (kind : String) : Option Marker :=
  member.markers.find? (·.isOf kind)

/-- Whether the member carries a marker of a kind. -/
def hasMarker (member : Member) (kind : String) : Bool :=
  (member.marker? kind).isSome

/-- Whether the member can be bound. -/
def isBindable (member : Member) : Bool := member.accessor?.isSome

theorem hasMarker_iff {member : Member} {kind : String} :
    member.hasMarker kind = true ↔ ∃ marker ∈ member.markers, marker.isOf kind = true := by
  simp [hasMarker, marker?]

/-- The first rule that the declaration of the member breaks.  A setter without
a value comes before everything else, and the type of a field after the
modifiers. -/
def violation? (member : Member) : Option Constraint :=
  if member.kind = .setter ∧ member.valueType.isVoid then some .voidValue
  else if member.modifiers.isStatic then some .static
  else if member.modifiers.isFinal then some .final
  else if member.kind = .field ∧ member.valueType.isPrimitive then some .primitive
  else none

end Member

end Wiring
