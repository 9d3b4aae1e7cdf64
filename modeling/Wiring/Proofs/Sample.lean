import Wiring.Injection.Plan
import Wiring.Proofs.Object.Accessor

/-!
# The makings of small worlds

The statements of this library are tried on small worlds, in which members hold texts and counts
and most of them carry one marker.  What these worlds have in common is named here once.
-/

namespace Wiring.Sample

/-- What most members hold. -/
def text : ValueType := ⟨⟨"Text"⟩, .reference⟩

/-- What some members hold instead. -/
def count : ValueType := ⟨⟨"Count"⟩, .reference⟩

/-- A member with one marker, and no way to bind it. -/
def marked (marker : String) (kind : MemberKind) (ident : String) (valueType : ValueType) :
    Member where
  ident := ident
  kind := kind
  valueType := valueType
  markers := [Marker.plain marker]

/-- A member that stores texts in the parts of one type, in a slot of its own name. -/
def stored (marker : String) (kind : MemberKind) (ident : String) (owner : TypeId) : Member :=
  (marked marker kind ident text).stored owner none

/-- A resource that stores texts in a slot which it may have in common with others. -/
def sharing (slot : String) (kind : MemberKind) (ident : String) (owner : TypeId)
    (rejection? : Option Rejection) : Member :=
  { marked "resource" kind ident text with
    accessor? := some (Store.accessor ⟨ident, slot, owner, text.type, rejection?⟩) }

/-- What binds resources, with no demands on the plan. -/
def injector : Injector := ⟨"resource", {}⟩

/-- A text to bind. -/
def words (content : String) : Value := ⟨text.type, .text content⟩

end Wiring.Sample
