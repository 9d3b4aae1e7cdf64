/-!
# Types and values

Types are compared by identity and never by assignability.  A type is
identified by its full name; besides that, a declaration records a kind for the
types of its members, which says no more than whether a member of that type
can be bound at all.

A value is a payload together with the type it was given.
-/

namespace Wiring

/-- The identity of a type, which its full name stands for. -/
structure TypeId where
  name : String
  deriving DecidableEq, Hashable, Repr

/-- What stands in place of the name of an absent type. -/
def TypeId.absentName : String := "<none>"

/-- What a declaration says about the type of a member. -/
inductive ValueKind where
  /-- An object or a handle to one. -/
  | reference
  /-- A scalar such as a number or a truth value. -/
  | primitive
  /-- No value at all. -/
  | void
  deriving DecidableEq, Repr

/-- The name of a kind of value. -/
def ValueKind.label : ValueKind → String
  | .reference => "Reference"
  | .primitive => "Primitive"
  | .void => "Void"

/-- The declared type of a member. -/
structure ValueType where
  type : TypeId
  kind : ValueKind
  deriving Repr

namespace ValueType

/-- Declared types are equal when they are the same type; the recorded kinds
take no part in it. -/
instance : BEq ValueType where
  beq left right := left.type == right.type

@[simp]
theorem beq_iff {left right : ValueType} : (left == right) = true ↔ left.type = right.type := by
  change (left.type == right.type) = true ↔ _
  simp

/-- The full name of the type. -/
def name (valueType : ValueType) : String := valueType.type.name

/-- Whether there is no value of the type. -/
def isVoid (valueType : ValueType) : Bool := valueType.kind == .void

/-- Whether the type is a scalar type. -/
def isPrimitive (valueType : ValueType) : Bool := valueType.kind == .primitive

/-- A declared type as it is shown to a reader. -/
def describe (valueType : ValueType) : String :=
  valueType.name ++ " (" ++ valueType.kind.label ++ ")"

end ValueType

/-- The content of a value. -/
inductive Payload where
  | null
  | bool (content : Bool)
  | int (content : Int)
  | text (content : String)
  deriving DecidableEq, Repr

/-- A payload and the type it was given. -/
structure Value where
  type : TypeId
  payload : Payload
  deriving DecidableEq, Repr

/-- The payload of a value of the expected type, and nothing for a value of any
other type. -/
def Value.as? (value : Value) (expected : TypeId) : Option Payload :=
  if value.type = expected then some value.payload else none

theorem Value.as?_eq_some_iff {value : Value} {expected : TypeId} {payload : Payload} :
    value.as? expected = some payload ↔ value.type = expected ∧ value.payload = payload := by
  simp [Value.as?]

end Wiring
