import Wiring.Text.Lowercase

/-!
# Property names of setters

A setter is named after the property it sets: the identifier begins with a
fixed prefix and goes on with the property, whose first letter is usually a
capital.  `setFooBar` sets `fooBar`.  Where words are joined by underscores the
property may be set off by one, so that `set_foo` sets `foo`; only that one
underscore is dropped, and a second one belongs to the property.
-/

namespace Wiring

/-- Why an identifier names no property. -/
inductive SetterNameError where
  /-- The identifier does not begin with the setter prefix. -/
  | missingPrefix
  /-- Nothing is left of the identifier once the prefix is taken off. -/
  | missingProperty
  deriving DecidableEq, Repr

/-- The wording of a naming failure. -/
def SetterNameError.message : SetterNameError → String
  | .missingPrefix => "identifier does not start with the setter prefix"
  | .missingProperty => "no property name follows the setter prefix"

namespace SetterName

/-- The prefix of a setter unless a configuration chooses another. -/
def defaultPrefix : String := "set"

/-- The character that may stand between prefix and property. -/
def separator : Char := '_'

/-- Take off the one separator that may follow the prefix. -/
def dropSeparator : List Char → List Char
  | [] => []
  | head :: rest => if head = separator then rest else head :: rest

/-- The property is the rest of the identifier with its first character in
lower case; it is never empty. -/
def decapitalize : List Char → Except SetterNameError (List Char)
  | [] => .error .missingProperty
  | head :: rest => .ok (Text.lowercase head ++ rest)

/-- The name of the property that a setter sets.  A setter whose words are
joined by underscores may have one of them after the prefix. -/
def property (identifier setterPrefix : String) (snakeCase : Bool) :
    Except SetterNameError String :=
  match setterPrefix.toList.isPrefixOf? identifier.toList with
  | none => .error .missingPrefix
  | some rest => (decapitalize (if snakeCase then dropSeparator rest else rest)).map String.ofList

@[simp]
theorem decapitalize_nil : decapitalize [] = .error .missingProperty :=
  rfl

@[simp]
theorem decapitalize_cons (head : Char) (rest : List Char) :
    decapitalize (head :: rest) = .ok (Text.lowercase head ++ rest) :=
  rfl

end SetterName

end Wiring
