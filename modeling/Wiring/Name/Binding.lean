import Wiring.Text.ByteOrder

/-!
# Binding names

Values are bound under names, and a binding name is never empty.  Binding names
are ordered as their texts are, byte by byte.
-/

namespace Wiring

/-- A name to bind a value under. -/
structure BindingName where
  text : String
  text_ne_empty : text ≠ ""
  deriving DecidableEq

namespace BindingName

/-- Every text but the empty one is a binding name. -/
def ofText? (text : String) : Option BindingName :=
  if nonempty : text ≠ "" then some ⟨text, nonempty⟩ else none

theorem ofText?_eq_some_iff {text : String} {name : BindingName} :
    ofText? text = some name ↔ name.text = text := by
  constructor
  · intro made
    unfold ofText? at made
    split at made
    · cases made
      rfl
    · cases made
  · rintro rfl
    simp [ofText?, name.text_ne_empty]

@[simp]
theorem ofText?_empty : ofText? "" = none :=
  rfl

/-- Put a name into an ascending list, unless it is there. -/
def insertAscending (name : BindingName) : List BindingName → List BindingName
  | [] => [name]
  | head :: rest =>
      match Text.byteOrder name.text head.text with
      | .lt => name :: head :: rest
      | .eq => head :: rest
      | .gt => head :: insertAscending name rest

/-- The names of a list in ascending order, each once. -/
def ascending (names : List BindingName) : List BindingName :=
  names.foldr insertAscending []

/-- Where a text stands among the names of a list. -/
def position? (names : List BindingName) (text : String) : Option Nat :=
  names.findIdx? (·.text == text)

/-- Of two names the one with more bytes, and of equally long ones the one that
comes later in the order. -/
def longer (left right : BindingName) : BindingName :=
  if left.text.utf8ByteSize < right.text.utf8ByteSize then right
  else if right.text.utf8ByteSize < left.text.utf8ByteSize then left
  else if Text.byteOrder left.text right.text = .lt then right
  else left

/-- The longest name of a list. -/
def longest? : List BindingName → Option BindingName
  | [] => none
  | head :: rest => some (rest.foldl longer head)

end BindingName

end Wiring
