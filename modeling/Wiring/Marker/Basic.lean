import Wiring.Marker.Kind

/-!
# Markers

A marker is what a declaration puts on a member to say that values are to be
bound to it.  Besides its kind it carries named attributes; the one that
matters here gives the member a name of its own to be bound under.
-/

namespace Wiring

/-- A marker as it stands in a declaration. -/
structure Marker where
  /-- The kind, in the spelling of the declaration. -/
  kind : String
  /-- Names and values in the order of the declaration. -/
  attributes : List (String × String)
  deriving DecidableEq, Repr

namespace Marker

/-- The attribute that gives a member its binding name. -/
def nameAttribute : String := "name"

/-- The kind of a marker whose declaration names none. -/
def defaultKind : String := MarkerKind.resource.canonical

/-- A marker without attributes. -/
def plain (kind : String) : Marker := ⟨kind, []⟩

/-- A marker that gives its member a binding name. -/
def named (kind name : String) : Marker := ⟨kind, [(nameAttribute, name)]⟩

/-- The value of the first attribute with the given name. -/
def attribute? (marker : Marker) (key : String) : Option String :=
  marker.attributes.lookup key

/-- The binding name the marker gives; an empty one counts as none. -/
def explicitName? (marker : Marker) : Option String :=
  (marker.attribute? nameAttribute).filter (· ≠ "")

/-- Whether the marker is of a kind, in whatever spelling. -/
def isOf (marker : Marker) (kind : String) : Bool :=
  MarkerKind.same marker.kind kind

@[simp]
theorem attribute?_plain (kind key : String) : (plain kind).attribute? key = none :=
  rfl

/-- An explicit name is the value of the first `name` attribute and is not
empty. -/
theorem explicitName?_eq_some_iff {marker : Marker} {name : String} :
    marker.explicitName? = some name ↔
      marker.attribute? nameAttribute = some name ∧ name ≠ "" := by
  simp [explicitName?, Option.filter_eq_some_iff]

end Marker

end Wiring
