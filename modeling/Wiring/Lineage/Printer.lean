import Wiring.Lineage.Basic
import Wiring.Text.Quoted
import Wiring.Text.Record

/-!
# Descriptions of types

The description of a type shows all that was declared about it: its members in
order with their markers, and the name of the type it extends.  Of an accessor
it shows only whether there is one.
-/

namespace Wiring

open Text

/-- A marker with its attributes in order. -/
def Marker.describe (marker : Marker) : String :=
  record "Marker"
    [("kind", quoted marker.kind),
     ("attributes", listing (marker.attributes.map fun entry =>
        pairing (quoted entry.1) (quoted entry.2)))]

/-- Both modifiers, whether they are set or not. -/
def Modifiers.describe (modifiers : Modifiers) : String :=
  record "Modifiers"
    [("is_static", truth modifiers.isStatic), ("is_final", truth modifiers.isFinal)]

/-- A member; of its accessor only that it can be bound. -/
def Member.describe (member : Member) : String :=
  record "MemberDescriptor"
    [("ident", quoted member.ident),
     ("kind", member.kind.label),
     ("value_type", member.valueType.describe),
     ("modifiers", member.modifiers.describe),
     ("markers", listing (member.markers.map Marker.describe)),
     ("bindable", truth member.isBindable)]

/-- The name of the extended type, as a description shows it. -/
def Lineage.describeParent (lineage : Lineage) : String :=
  match lineage.parent? with
  | some parent => "Some(" ++ quoted parent.name ++ ")"
  | none => "None"

/-- A type with the members that it declares itself. -/
def Lineage.describe (lineage : Lineage) : String :=
  record "TypeDescriptor"
    [("name", quoted lineage.name),
     ("fields", listing (lineage.own.fields.map Member.describe)),
     ("setters", listing (lineage.own.setters.map Member.describe)),
     ("parent", lineage.describeParent)]

end Wiring
