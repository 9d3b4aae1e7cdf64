import Std.Data.TreeMap

/-!
# The order of texts by their bytes

Names are listed in the order of their UTF-8 encodings, compared byte by byte,
a proper beginning before the longer text.  Two texts that compare equal are
the same text, so the order may key a map.
-/

namespace Wiring.Text

/-- The UTF-8 encoding of a text. -/
def bytes (text : String) : List UInt8 :=
  text.toByteArray.data.toList

/-- Texts with the same encoding are the same text. -/
theorem bytes_inj {left right : String} : bytes left = bytes right ↔ left = right := by
  constructor
  · intro same
    apply String.toByteArray_inj.mp
    apply ByteArray.ext
    exact Array.toList_inj.mp same
  · rintro rfl
    rfl

/-- The order of two texts is the order of their encodings. -/
def byteOrder (left right : String) : Ordering :=
  compare (bytes left) (bytes right)

instance : Std.TransCmp byteOrder where
  eq_swap {left right} := by
    change compare (bytes left) (bytes right) = (compare (bytes right) (bytes left)).swap
    exact Std.OrientedOrd.eq_swap
  isLE_trans {left middle right} first second := by
    change (compare (bytes left) (bytes right)).isLE = true
    change (compare (bytes left) (bytes middle)).isLE = true at first
    change (compare (bytes middle) (bytes right)).isLE = true at second
    exact Std.TransOrd.isLE_trans first second

instance : Std.LawfulEqCmp byteOrder where
  compare_self {text} := by
    change compare (bytes text) (bytes text) = .eq
    exact Std.ReflOrd.compare_self
  eq_of_compare {left right} same := by
    change compare (bytes left) (bytes right) = .eq at same
    exact bytes_inj.mp (Std.LawfulEqOrd.eq_of_compare same)

/-- Texts that are equal in order are the same text. -/
theorem eq_of_byteOrder {left right : String} (same : byteOrder left right = .eq) :
    left = right :=
  Std.LawfulEqCmp.eq_of_compare same

/-- No text comes before itself. -/
theorem ne_of_byteOrder_lt {left right : String} (before : byteOrder left right = .lt) :
    left ≠ right := by
  rintro rfl
  have same : byteOrder left left = .eq := Std.ReflCmp.compare_self
  rw [same] at before
  contradiction

instance : Std.Irrefl fun left right => byteOrder left right = .lt where
  irrefl _ before := ne_of_byteOrder_lt before rfl

instance : Std.Antisymm fun left right => byteOrder left right = .lt where
  antisymm left right before after := by
    have reversed : byteOrder right left = .gt := Std.OrientedCmp.gt_of_lt before
    rw [reversed] at after
    contradiction

end Wiring.Text
