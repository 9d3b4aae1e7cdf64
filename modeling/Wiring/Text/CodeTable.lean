/-!
# Tables of code points

A property of characters is kept as the intervals of code points that have it.
The intervals of a table are in ascending order and do not touch, but nothing
here depends on that: a character belongs to a table when some interval holds
its code point.
-/

namespace Wiring.Text

/-- Closed intervals of code points. -/
abbrev CodeTable := List (Nat × Nat)

/-- A character belongs to a table when one of the intervals holds it. -/
def CodeTable.holds (table : CodeTable) (character : Char) : Bool :=
  table.any fun interval =>
    interval.1 ≤ character.toNat && character.toNat ≤ interval.2

@[simp]
theorem CodeTable.holds_nil (character : Char) : CodeTable.holds [] character = false :=
  rfl

end Wiring.Text
