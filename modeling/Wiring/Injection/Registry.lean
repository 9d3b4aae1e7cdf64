import Wiring.Name.Binding
import Wiring.Text.Quoted
import Wiring.Text.Record
import Wiring.Value

/-!
# Registered resources

A registry keeps values under names.  A later registration under a name replaces
the earlier one, whatever the types of the two values.  The names are kept in
the order of their bytes.

A value can be registered under the empty name too, but no binding asks for it.
-/

namespace Wiring

/-- Values by name. -/
structure Registry where
  entries : Std.TreeMap String Value Text.byteOrder := ∅

namespace Registry

/-- A registry without entries. -/
def empty : Registry := {}

/-- Register a value under a name, in place of any other. -/
def insert (registry : Registry) (name : String) (value : Value) : Registry :=
  ⟨registry.entries.insert name value⟩

/-- The registry in which values were registered one after the other. -/
def ofList (entries : List (String × Value)) : Registry :=
  entries.foldl (fun registry entry => registry.insert entry.1 entry.2) empty

/-- Whether a value is registered under the name. -/
def contains (registry : Registry) (name : String) : Bool :=
  registry.entries.contains name

/-- Take out the value under a name; the first answer says whether there was
one. -/
def remove (registry : Registry) (name : String) : Bool × Registry :=
  (registry.contains name, ⟨registry.entries.erase name⟩)

/-- The value under a name. -/
def find? (registry : Registry) (name : String) : Option Value :=
  registry.entries[name]?

/-- The content of the value under a name, if it has the expected type. -/
def get? (registry : Registry) (name : String) (expected : TypeId) : Option Payload :=
  (registry.find? name).bind (·.as? expected)

/-- The value that a binding asks for. -/
def lookup (registry : Registry) (name : BindingName) : Option Value :=
  registry.find? name.text

/-- The names in ascending order. -/
def names (registry : Registry) : List String := registry.entries.keys

/-- How many names there are. -/
def size (registry : Registry) : Nat := registry.entries.size

/-- Whether nothing is registered. -/
def isEmpty (registry : Registry) : Bool := registry.entries.isEmpty

/-- A registry is described by its names. -/
def describe (registry : Registry) : String :=
  Text.record "ResourceRegistry" [("names", Text.listing (registry.names.map Text.quoted))]

@[simp]
theorem find?_empty (name : String) : empty.find? name = none := by
  simp [empty, find?]

/-- A registration is seen under its own name only. -/
theorem find?_insert (registry : Registry) (name other : String) (value : Value) :
    (registry.insert name value).find? other =
      if name = other then some value else registry.find? other := by
  simp [insert, find?, Std.TreeMap.getElem?_insert]

/-- A removal is seen under its own name only. -/
theorem find?_remove (registry : Registry) (name other : String) :
    (registry.remove name).2.find? other =
      if name = other then none else registry.find? other := by
  simp [remove, find?, Std.TreeMap.getElem?_erase]

end Registry

end Wiring
