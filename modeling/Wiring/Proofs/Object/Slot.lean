import Wiring.Proofs.Object.Gain

/-!
# Slots that are written again

Of an object that has gained writes twice over, the later writes decide what its slots hold.
Where they go to the same slots as the earlier ones, nothing is left of those.
-/

namespace Wiring

namespace Posting

variable {position : Nat} {postings : List Posting} {write : Write}

/-- The slot that a posting goes to: which part it is in, and its name there. -/
def key (posting : Posting) : Nat × String := (posting.position, posting.write.slot)

end Posting

namespace Instance

/-- What a slot of one of the parts holds. -/
def slot? (object : Instance) (position : Nat) (slot : String) : Option Payload :=
  object.parts[position]?.bind (·.slot? slot)

/-- All slots of all parts hold the same. -/
structure SameSlots (object other : Instance) : Prop where
  lineage : object.lineage = other.lineage
  slots : ∀ position slot, object.slot? position slot = other.slot? position slot

theorem SameSlots.refl (object : Instance) : object.SameSlots object :=
  ⟨rfl, fun _ _ => rfl⟩

variable {first second third other : Instance} {before after : List Posting}

end Instance

end Wiring
