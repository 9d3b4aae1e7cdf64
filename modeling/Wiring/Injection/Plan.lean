import Wiring.Match.Scan

/-!
# Plans

An injector is made for one marker kind.  Its plan for a type lists every
member that it would bind, fields before setters and each with its name.  A
plan is made completely or not at all: both scans run before anything is named,
everything is named before names are compared, and the first failure on that way
is the answer.
-/

namespace Wiring

/-- What binds the members of one marker kind. -/
structure Injector where
  /-- The kind in its canonical spelling. -/
  marker : String
  config : Config

namespace Injector

/-- The injector of a marker kind in any spelling but the empty one.  The
configuration is checked before the kind. -/
def create (spelling : String) (config : Config) : Except ConfigError Injector := do
  config.validate
  let marker ← MarkerKind.checked spelling
  return ⟨marker, config⟩

/-- How the injector names members. -/
def naming (injector : Injector) : Naming :=
  ⟨injector.marker, injector.config.setterPrefix, injector.config.snakeCaseSetters⟩

/-- The scan of one scope. -/
def scanner (injector : Injector) (filter? : Option TypeFilter) (scope : MemberScope) :
    Scanner where
  scope := scope
  accepts := (MarkerPredicate.mk injector.marker filter?).accepts
  rules := Rules.structural injector.marker false

/-- A plan without members is refused where the configuration asks for
some. -/
def checkPresence (injector : Injector) (root : String) (filter? : Option TypeFilter)
    (members : List Found) : Except DiscoveryError Unit :=
  if injector.config.requireMatch && members.isEmpty then
    .error (.emptyMatchSet root injector.marker
      ((filter?.bind TypeFilter.included?).map ValueType.name))
  else .ok ()

/-- A plan in which two members share a name is refused where the configuration
asks for distinct names. -/
def checkDistinct (injector : Injector) (bindings : List Binding) : Except DiscoveryError Unit :=
  if injector.config.distinctNames then Binding.ensureDistinct bindings else .ok ()

/-- What is left to do once both scans have found their members. -/
def arrange (injector : Injector) (root : String) (filter? : Option TypeFilter)
    (members : List Found) : Except DiscoveryError (List Binding) := do
  injector.checkPresence root filter? members
  let bindings ← Binding.resolveAll injector.naming.resolve members
  injector.checkDistinct bindings
  return bindings

/-- The members that the injector would bind in an object of the type, with
their names, in the order in which they are bound. -/
def plan (injector : Injector) (lineage : Lineage) (filter? : Option TypeFilter) :
    Pass (List Binding) := do
  let fields ← (injector.scanner filter? .fields).discover (some lineage)
  let setters ← (injector.scanner filter? .setters).discover (some lineage)
  Pass.check (injector.arrange lineage.name filter? (fields.members ++ setters.members))

end Injector

end Wiring
