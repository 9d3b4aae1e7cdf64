import Wiring.Error
import Wiring.Marker.Kind

/-!
# Configuration

A configuration says how setters are named and what else a pass demands of the
members it finds.  The defaults follow the usual naming of setters and demand
nothing.
-/

namespace Wiring

/-- The settings of an injector. -/
structure Config where
  /-- What the identifier of every setter has to begin with. -/
  setterPrefix : String := SetterName.defaultPrefix
  /-- Whether an underscore may follow the prefix. -/
  snakeCaseSetters : Bool := true
  /-- Whether a pass that finds nothing has failed. -/
  requireMatch : Bool := false
  /-- Whether two members may not be bound under one name. -/
  distinctNames : Bool := false
  deriving DecidableEq, Repr

/-- A configuration with an empty setter prefix is refused. -/
def Config.validate (config : Config) : Except ConfigError Unit :=
  if config.setterPrefix = "" then .error .emptySetterPrefix else .ok ()

@[simp]
theorem Config.validate_default : Config.validate {} = .ok () :=
  rfl

/-- The spelling under which a marker kind is kept.  No pass can be made for
the empty kind. -/
def MarkerKind.checked (spelling : String) : Except ConfigError String :=
  if spelling = "" then .error .emptyMarker else .ok (fold spelling)

end Wiring
