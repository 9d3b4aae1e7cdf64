import Wiring.Member.Kind
import Wiring.Name.Setter
import Wiring.Value

/-!
# What can go wrong

Failures come in three tiers.  A configuration is refused before anything is
looked at.  A failed discovery ends the pass in which it happens and is handed
to the caller unchanged.  A failed binding concerns one member only; it is
recorded, and the pass goes on.

Each failure has a wording, a code under which it can be looked up, and for
some a hint at what to do about it.
-/

namespace Wiring

/-- An argument that no pass can be started with. -/
inductive ConfigError where
  | emptyMarker
  | emptySetterPrefix
  deriving DecidableEq, Repr

namespace ConfigError

/-- The wording of a refusal. -/
def message : ConfigError → String
  | emptyMarker => "marker kind must not be empty"
  | emptySetterPrefix => "setter prefix must not be empty"

/-- The code under which a refusal can be looked up. -/
def code : ConfigError → String
  | emptyMarker => "injecta::config::empty_marker"
  | emptySetterPrefix => "injecta::config::empty_setter_prefix"

end ConfigError

/-- A failure that ends a pass. -/
inductive DiscoveryError where
  /-- A marked member cannot be bound by its very declaration. -/
  | structural (owner member : String) (kind : MemberKind) (marker : String)
      (constraint : Constraint)
  /-- A setter is not named after a property. -/
  | namingConvention (owner member setterPrefix : String) (reason : SetterNameError)
  /-- A member has no name to be bound under. -/
  | emptyBindingName (owner member : String) (kind : MemberKind)
  /-- Nothing was found where something had to be.  A pass that binds values of
  one type only names that type. -/
  | emptyMatchSet (owner marker : String) (accepts : Option String)
  /-- Two members would be bound under one name. -/
  | duplicateBindingName (name first second : String)
  deriving DecidableEq, Repr

namespace DiscoveryError

/-- The wording of a failure, which names everything it is about. -/
def message : DiscoveryError → String
  | structural owner member kind marker constraint =>
      kind.word ++ " `" ++ owner ++ "::" ++ member ++ "` marked `" ++ marker ++
        "` violates a structural constraint: " ++ constraint.message
  | namingConvention owner member setterPrefix reason =>
      "setter `" ++ owner ++ "::" ++ member ++ "` does not follow the `" ++ setterPrefix ++
        "<Property>` naming convention: " ++ reason.message
  | emptyBindingName owner member kind =>
      kind.word ++ " `" ++ owner ++ "::" ++ member ++ "` resolves to an empty binding name"
  | emptyMatchSet owner marker accepts =>
      "no member of `" ++ owner ++ "` carries the `" ++ marker ++ "` marker" ++
        match accepts with
        | some type => " with value type `" ++ type ++ "`"
        | none => ""
  | duplicateBindingName name first second =>
      "binding name `" ++ name ++ "` is claimed by both `" ++ first ++ "` and `" ++ second ++ "`"

/-- The code under which a failure can be looked up. -/
def code : DiscoveryError → String
  | structural .. => "injecta::structural_constraint"
  | namingConvention .. => "injecta::naming_convention"
  | emptyBindingName .. => "injecta::empty_binding_name"
  | emptyMatchSet .. => "injecta::empty_match_set"
  | duplicateBindingName .. => "injecta::duplicate_binding_name"

/-- What to do about a failure.  An empty binding name comes without a hint. -/
def help? : DiscoveryError → Option String
  | structural .. =>
      some ("marked members must be non-static, non-final, take a value, " ++
        "and (for fields) hold a non-primitive type")
  | namingConvention .. => some "rename the setter or give its marker an explicit `name`"
  | emptyBindingName .. => none
  | emptyMatchSet .. =>
      some "a typed injection only binds members declared with exactly the injected type"
  | duplicateBindingName .. => some "give one of the markers a distinct explicit `name`"

end DiscoveryError

/-- A failure to bind one member. -/
inductive BindError where
  /-- The member was declared without a way to bind it. -/
  | inaccessible
  /-- The part reached is not of the type the member expects. -/
  | targetMismatch (expected : TypeId)
  /-- The value is not of the type the member expects. -/
  | valueMismatch (expected : TypeId)
  /-- The climb to the part that declares the member ends at this step. -/
  | ancestorUnreachable (depth : Nat)
  /-- No value is known under the binding name. -/
  | missingResource (name : String)
  /-- The setter refused the value. -/
  | rejected (reason : String)
  deriving DecidableEq, Repr

namespace BindError

/-- The wording of a failure to bind. -/
def message : BindError → String
  | inaccessible => "member exposes no binding capability"
  | targetMismatch expected => "target is not a `" ++ expected.name ++ "`"
  | valueMismatch expected => "value is not a `" ++ expected.name ++ "`"
  | ancestorUnreachable depth =>
      "ancestor part at depth " ++ toString depth ++ " is unreachable"
  | missingResource name => "no resource is registered under `" ++ name ++ "`"
  | rejected reason => "setter rejected the value: " ++ reason

/-- The code under which a failure to bind can be looked up. -/
def code : BindError → String
  | inaccessible => "injecta::bind::inaccessible"
  | targetMismatch _ => "injecta::bind::target_mismatch"
  | valueMismatch _ => "injecta::bind::value_mismatch"
  | ancestorUnreachable _ => "injecta::bind::ancestor_unreachable"
  | missingResource _ => "injecta::bind::missing_resource"
  | rejected _ => "injecta::bind::rejected"

end BindError

end Wiring
