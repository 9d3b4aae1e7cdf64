import Wiring.Config
import Wiring.Match.Found
import Wiring.Name.Binding

/-!
# Naming members

A member is bound under the name that its marker gives, or else under a name
that follows from its identifier: a field is called as it is, and a setter after
the property it sets.

Names are resolved for all members of a list before they are compared.  The
first member that cannot be named decides how the resolution fails, and the
first name that occurs again decides how the comparison does.
-/

namespace Wiring

/-- A member and the name it is bound under. -/
structure Binding where
  found : Found
  name : BindingName

namespace Binding

/-- Bindings are compared by name and by the place of the member. -/
instance : BEq Binding where
  beq left right := left.name == right.name && left.found == right.found

/-- The member and its name, as they are shown to a reader. -/
def describe (binding : Binding) : String :=
  binding.found.member.kind.word ++ " " ++ binding.found.qualifiedName ++ " as `" ++
    binding.name.text ++ "`"

end Binding

/-- How members of one marker kind are named. -/
structure Naming where
  /-- The kind in its canonical spelling. -/
  marker : String
  setterPrefix : String
  snakeCaseSetters : Bool

namespace Naming

/-- The naming of a marker kind under a configuration.  The kind is checked
before the configuration. -/
def create (spelling : String) (config : Config) : Except ConfigError Naming := do
  let marker ← MarkerKind.checked spelling
  config.validate
  return ⟨marker, config.setterPrefix, config.snakeCaseSetters⟩

/-- The name that the first marker of the kind gives. -/
def explicitName? (naming : Naming) (member : Member) : Option String :=
  (member.marker? naming.marker).bind Marker.explicitName?

/-- The name that follows from the identifier of a member. -/
def derivedName (naming : Naming) (found : Found) : Except DiscoveryError String :=
  match found.member.kind with
  | .field => .ok found.ident
  | .setter =>
      (SetterName.property found.ident naming.setterPrefix naming.snakeCaseSetters).mapError
        (.namingConvention found.owner found.ident naming.setterPrefix)

/-- The name that a member is bound under. -/
def resolve (naming : Naming) (found : Found) : Except DiscoveryError BindingName :=
  match naming.explicitName? found.member with
  | some name => nonempty found name
  | none =>
      match naming.derivedName found with
      | .error error => .error error
      | .ok name => nonempty found name
where
  /-- Nothing is bound under an empty name. -/
  nonempty (found : Found) (name : String) : Except DiscoveryError BindingName :=
    match BindingName.ofText? name with
    | some name => .ok name
    | none => .error (.emptyBindingName found.owner found.ident found.member.kind)

end Naming

namespace Binding

/-- Name the members of a list in order, as far as the first that cannot be
named. -/
def resolveAll (resolve : Found → Except DiscoveryError BindingName) :
    List Found → Except DiscoveryError (List Binding)
  | [] => .ok []
  | found :: rest =>
      match resolve found with
      | .error error => .error error
      | .ok name =>
          match resolveAll resolve rest with
          | .error error => .error error
          | .ok bindings => .ok (⟨found, name⟩ :: bindings)

@[simp]
theorem resolveAll_nil (resolve : Found → Except DiscoveryError BindingName) :
    resolveAll resolve [] = .ok [] :=
  rfl

/-- Naming loses no member and keeps their order. -/
theorem map_found_of_resolveAll {resolve : Found → Except DiscoveryError BindingName}
    {members : List Found} {bindings : List Binding}
    (named : resolveAll resolve members = .ok bindings) :
    bindings.map found = members := by
  induction members generalizing bindings with
  | nil => simp at named; simp [← named]
  | cons head rest inductionHypothesis =>
      unfold resolveAll at named
      split at named
      · simp at named
      · split at named
        · simp at named
        · rename_i resolved
          simp only [Except.ok.injEq] at named
          simp [← named, inductionHypothesis resolved]

/-- The first binding whose name was claimed before, after the binding that
claimed it.  The bindings in `claimed` have distinct names. -/
def clashAfter? (claimed : List Binding) : List Binding → Option (Binding × Binding)
  | [] => none
  | binding :: rest =>
      match claimed.find? (·.name == binding.name) with
      | some first => some (first, binding)
      | none => clashAfter? (claimed ++ [binding]) rest

/-- The first two bindings of a list that share a name. -/
def clash? (bindings : List Binding) : Option (Binding × Binding) := clashAfter? [] bindings

/-- A list in which two bindings share a name is refused. -/
def ensureDistinct (bindings : List Binding) : Except DiscoveryError Unit :=
  match clash? bindings with
  | none => .ok ()
  | some (first, second) =>
      .error (.duplicateBindingName second.name.text first.found.qualifiedName
        second.found.qualifiedName)

end Binding

end Wiring
