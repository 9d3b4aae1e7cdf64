/-!
# Kinds of member

A type declares fields and setters.  A scan looks at one of the two lists, and
a member says for itself which of the two it is; the first decides where a
member is found and the second which rules it has to keep.
-/

namespace Wiring

/-- What a member is. -/
inductive MemberKind where
  | field
  /-- A method that takes the value of one property. -/
  | setter
  deriving DecidableEq, Repr

/-- The word for a kind of member in a message. -/
def MemberKind.word : MemberKind → String
  | .field => "field"
  | .setter => "setter"

/-- The name of a kind of member in the description of a type. -/
def MemberKind.label : MemberKind → String
  | .field => "Field"
  | .setter => "Setter"

/-- The list of declared members that a scan looks at. -/
inductive MemberScope where
  | fields
  | setters
  deriving DecidableEq, Repr

/-- The word for a scope in the log. -/
def MemberScope.word : MemberScope → String
  | .fields => "fields"
  | .setters => "setters"

/-- What a declaration says about a member besides its type. -/
structure Modifiers where
  isStatic : Bool := false
  isFinal : Bool := false
  deriving DecidableEq, Repr

/-- A rule that keeps a marked member from being bound. -/
inductive Constraint where
  /-- A setter has to take a value. -/
  | voidValue
  /-- A static member belongs to no single object. -/
  | static
  /-- A final member cannot be assigned. -/
  | final
  /-- A field of a scalar type holds nothing that could be supplied. -/
  | primitive
  deriving DecidableEq, Repr

/-- What is wrong with a member that breaks the rule. -/
def Constraint.message : Constraint → String
  | .voidValue => "setter takes no value"
  | .static => "member is static"
  | .final => "member is final"
  | .primitive => "field has a primitive type"

end Wiring
