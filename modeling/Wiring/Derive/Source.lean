import Wiring.Derive.WrittenType

/-!
# Declarations to derive from

A declaration comes in parts: its name, its generic parameters, its fields, and
the attributes on it and on the fields.  An attribute names itself by a path and
may hold a list of options.  Attributes with other paths than the one that is
meant here belong to somebody else.
-/

namespace Wiring.Derive

/-- One option in an attribute, under its key. -/
inductive AttributeOption where
  /-- The key alone. -/
  | bare (key : String)
  /-- The key and, after an equals sign, a string. -/
  | text (key content : String)
  /-- The key and, after an equals sign, a number. -/
  | number (key : String) (content : Int)
  /-- The key and, after an equals sign, a type. -/
  | type (key : String) (written : WrittenType)
  /-- The key and, in parentheses, further options. -/
  | nested (key : String) (options : List AttributeOption)

/-- Every option has a key. -/
def AttributeOption.key : AttributeOption → String
  | bare key => key
  | text key _ => key
  | number key _ => key
  | type key _ => key
  | nested key _ => key

/-- What an attribute says besides its path. -/
inductive AttributeBody where
  | bare
  | text (content : String)
  | options (options : List AttributeOption)

/-- An attribute of a declaration or of a field. -/
structure Attribute where
  path : String
  body : AttributeBody

/-- The path of the attributes that say what is to be bound. -/
def attributePath : String := "inject"

/-- The bodies of the attributes that say what is to be bound, in order. -/
def Attribute.relevant (attributes : List Attribute) : List AttributeBody :=
  (attributes.filter fun candidate => candidate.path == attributePath).map (·.body)

/-- A field as it is declared. -/
structure FieldSource where
  /-- The name, with its raw mark if it has one. -/
  name : String
  type : WrittenType
  attributes : List Attribute

/-- What kind of thing is declared. -/
inductive Shape where
  /-- A structure whose fields have names. -/
  | named
  /-- A structure whose fields have positions. -/
  | tuple
  | unit
  | enum
  | union
  deriving DecidableEq, Repr

/-- A declaration in parts. -/
structure Source where
  /-- The name, with its raw mark if it has one. -/
  name : String
  /-- The generic parameters with the angle brackets around them, and the
  conditions after them; or nothing. -/
  generics : String
  shape : Shape
  fields : List FieldSource
  attributes : List Attribute

/-- Whether there are generic parameters.  They stand between angle brackets, and
empty ones hold none; conditions on types may follow, but are no parameters. -/
def Source.isGeneric (source : Source) : Bool :=
  match Token.ofText? source.generics with
  | some (.symbol "<" :: .symbol ">" :: _) => false
  | some (.symbol "<" :: _) => true
  | _ => false

end Wiring.Derive
