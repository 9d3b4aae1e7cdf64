import Wiring.Config
import Wiring.Member.Basic

/-!
# Folding spellings

Folding a spelling is done once: what comes out is the canonical spelling of its kind, and
stands for itself from then on.  So it makes no difference to a marker in which spelling of
its kind it is asked for.
-/

namespace Wiring

namespace MarkerKind

theorem fold_canonical (kind : MarkerKind) : fold kind.canonical = kind.canonical := by
  cases kind <;> rfl

/-- A folded spelling is left as it is. -/
@[simp]
theorem fold_fold (spelling : String) : fold (fold spelling) = fold spelling := by
  cases known : ofSpelling? spelling with
  | some kind =>
      have folded : fold spelling = kind.canonical := by simp [fold, known]
      rw [folded, fold_canonical]
  | none =>
      have kept : fold spelling = spelling := by simp [fold, known]
      rw [kept, kept]

/-- Every spelling but the empty one can be kept. -/
theorem checked_of_ne_empty {spelling : String} (given : spelling ≠ "") :
    checked spelling = .ok (fold spelling) :=
  if_neg given

end MarkerKind

@[simp]
theorem Marker.isOf_fold (marker : Marker) (kind : String) :
    marker.isOf (MarkerKind.fold kind) = marker.isOf kind := by
  simp [isOf, MarkerKind.same]

namespace Member

variable (member : Member) (kind : String)

@[simp]
theorem marker?_fold : member.marker? (MarkerKind.fold kind) = member.marker? kind := by
  simp [marker?]

@[simp]
theorem hasMarker_fold : member.hasMarker (MarkerKind.fold kind) = member.hasMarker kind := by
  simp [hasMarker]

end Member

end Wiring
