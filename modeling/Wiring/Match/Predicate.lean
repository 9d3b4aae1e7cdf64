import Wiring.Config
import Wiring.Member.Basic

/-!
# Which members a scan accepts

A scan takes up members of one marker kind, and may be narrowed further to the
members of exactly one type or to those of any other.
-/

namespace Wiring

/-- A restriction on the types of members. -/
inductive TypeFilter where
  /-- Only members of exactly this type. -/
  | including (valueType : ValueType)
  /-- Only members of any other type. -/
  | excluding (valueType : ValueType)

namespace TypeFilter

/-- The one type that passes. -/
def included? : TypeFilter → Option ValueType
  | including valueType => some valueType
  | excluding _ => none

/-- Types are compared by identity, whatever kinds are recorded with them. -/
def accepts : TypeFilter → ValueType → Bool
  | including valueType, candidate => candidate == valueType
  | excluding valueType, candidate => !(candidate == valueType)

@[simp]
theorem accepts_including {valueType candidate : ValueType} :
    (including valueType).accepts candidate = true ↔ candidate.type = valueType.type := by
  simp [accepts]

@[simp]
theorem accepts_excluding {valueType candidate : ValueType} :
    (excluding valueType).accepts candidate = true ↔ candidate.type ≠ valueType.type := by
  rw [accepts, Bool.not_eq_true', ← Bool.not_eq_true, ValueType.beq_iff]

end TypeFilter

/-- The members of one marker kind, perhaps only those that pass a filter. -/
structure MarkerPredicate where
  /-- The kind in its canonical spelling. -/
  marker : String
  filter? : Option TypeFilter := none

namespace MarkerPredicate

/-- The predicate of a marker kind in any spelling but the empty one. -/
def create (spelling : String) (filter? : Option TypeFilter) :
    Except ConfigError MarkerPredicate :=
  (MarkerKind.checked spelling).map fun marker => { marker, filter? }

/-- The full name of the one type that the filter lets through. -/
def includedName? (predicate : MarkerPredicate) : Option String :=
  (predicate.filter?.bind TypeFilter.included?).map ValueType.name

/-- Whether a member is taken up. -/
def accepts (predicate : MarkerPredicate) (member : Member) : Bool :=
  member.hasMarker predicate.marker &&
    predicate.filter?.all fun filter => filter.accepts member.valueType

@[simp]
theorem accepts_unfiltered (marker : String) (member : Member) :
    (MarkerPredicate.mk marker none).accepts member = member.hasMarker marker := by
  simp [accepts]

end MarkerPredicate

end Wiring
