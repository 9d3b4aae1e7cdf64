import Wiring.Proofs.Name.Grammar
import Wiring.Proofs.Text.Lowercase

/-!
# Canonical setters

Several identifiers may spell one name, but every name has a canonical one at either setting:
the prefix and then the name as it is, with a separator in between where one is dropped.  Which
texts are names does not depend on the prefix.  They are those that reading leaves as they
are, because a lower-case form begins with a character that is its own.
-/

namespace Wiring.SetterName

variable {identifier setterPrefix name : String} {snakeCase : Bool}

/-- The text begins with a character that is its own lower-case form. -/
def IsName (name : String) : Prop :=
  ∃ head tail, name = String.ofList (head :: tail) ∧ Text.lowercase head = [head]

/-- The separator that is dropped is the one in between, even if the name begins with another. -/
theorem IsName.property_separated (isName : IsName name) (setterPrefix : String) :
    property (setterPrefix.push separator ++ name) setterPrefix true = .ok name := by
  rcases isName with ⟨head, tail, rfl, same⟩
  rw [SetterName.property_separated, same]
  rfl

theorem IsName.property_joined (isName : IsName name) (setterPrefix : String) :
    property (setterPrefix ++ name) setterPrefix false = .ok name := by
  rcases isName with ⟨head, tail, rfl, same⟩
  rw [SetterName.property_joined setterPrefix tail (by simp), same]
  rfl

/-- A Latin letter may be written as a capital, which is never taken for a separator. -/
theorem property_capital (setterPrefix : String) {letter : Char} (small : letter.isLower = true)
    (tail : List Char) (snakeCase : Bool) :
    property (setterPrefix ++ String.ofList (letter.toUpper :: tail)) setterPrefix snakeCase =
      .ok (String.ofList (letter :: tail)) := by
  have apart : letter.toUpper ≠ separator := by
    intro same
    have form := Text.lowercase_toUpper small
    rw [same, lowercase_separator] at form
    cases form
    exact absurd small (by decide)
  rw [property_joined setterPrefix tail (fun _ => apart), Text.lowercase_toUpper small]
  rfl

theorem isName_lowercase_append (head : Char) (tail : List Char) :
    IsName (String.ofList (Text.lowercase head ++ tail)) := by
  cases form : Text.lowercase head with
  | nil => exact absurd form (Text.lowercase_ne_nil head)
  | cons first rest => exact ⟨first, rest ++ tail, rfl, Text.lowercase_head form⟩

theorem Spells.isName (spelled : Spells setterPrefix snakeCase identifier name) : IsName name := by
  cases spelled with
  | joined snakeCase head tail begins => exact isName_lowercase_append head tail
  | separated head tail => exact isName_lowercase_append head tail

/-- The identifiers behind a prefix that are read as the names they were made of. -/
structure HasCanonicalForms (setterPrefix : String) : Prop where
  separated : ∀ name, IsName name →
    property (setterPrefix.push separator ++ name) setterPrefix true = .ok name
  joined : ∀ name, IsName name → property (setterPrefix ++ name) setterPrefix false = .ok name
  capital : ∀ letter tail snakeCase, letter.isLower = true →
    property (setterPrefix ++ String.ofList (letter.toUpper :: tail)) setterPrefix snakeCase =
      .ok (String.ofList (letter :: tail))
  /-- Whatever is read, behind this prefix or another, has canonical forms behind this one. -/
  derived : ∀ identifier other snakeCase name, property identifier other snakeCase = .ok name →
    IsName name ∧
      property (setterPrefix.push separator ++ name) setterPrefix true = .ok name ∧
        property (setterPrefix ++ name) setterPrefix false = .ok name

/-- A name is read from its canonical forms behind every prefix, one that ends in a separator
included, and whatever is read from an identifier is such a name. -/
theorem has_canonical_forms (setterPrefix : String) : HasCanonicalForms setterPrefix where
  separated _ isName := isName.property_separated setterPrefix
  joined _ isName := isName.property_joined setterPrefix
  capital _ tail snakeCase small := property_capital setterPrefix small tail snakeCase
  derived identifier other snakeCase name success := by
    have isName := (property_eq_ok_iff.mp success).isName
    exact ⟨isName, isName.property_separated setterPrefix, isName.property_joined setterPrefix⟩

/-- The dotted capital has a form of two characters, and the first of them is its own. -/
theorem dotted_capital_has_forms :
    property "with_\u0130d" "with" true = .ok "i\u0307d" ∧
      property "get__i\u0307d" "get_" true = .ok "i\u0307d" ∧
        property "get_i\u0307d" "get_" false = .ok "i\u0307d" := by
  have read : property "with_\u0130d" "with" true = .ok "i\u0307d" := rfl
  have forms := ((has_canonical_forms "get_").derived _ _ _ _ read).2
  exact ⟨read, forms⟩

end Wiring.SetterName
