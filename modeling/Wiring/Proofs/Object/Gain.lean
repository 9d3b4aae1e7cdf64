import Wiring.Proofs.Object.Accessor
import Wiring.Proofs.Object.Reach

/-!
# What an object gains

Where accessors write once and only on success, all that ever happens to an object is that
its parts gain writes.  A posting says which part gains which write.  What an object has
gained adds up: postings of one step after the other are the postings of both.
-/

namespace Wiring

namespace Part

variable {part : Part} {first second : List Write}

/-- The part with further writes, earliest first. -/
def extend (part : Part) (entries : List Write) : Part :=
  { part with journal := part.journal ++ entries }

@[simp]
theorem extend_nil (part : Part) : part.extend [] = part := by
  simp [extend]

theorem extend_extend (part : Part) (first second : List Write) :
    (part.extend first).extend second = part.extend (first ++ second) := by
  simp [extend]

end Part

/-- A write, and the place of the part that gains it. -/
structure Posting where
  position : Nat
  write : Write
  deriving DecidableEq, Repr

/-- The writes that the part at a position gains. -/
def Posting.at (position : Nat) (postings : List Posting) : List Write :=
  postings.filterMap fun posting =>
    if posting.position = position then some posting.write else none

@[simp]
theorem Posting.at_nil (position : Nat) : Posting.at position [] = [] :=
  rfl

theorem Posting.at_append (position : Nat) (first second : List Posting) :
    Posting.at position (first ++ second) =
      Posting.at position first ++ Posting.at position second :=
  List.filterMap_append

namespace Instance

/-- Each part of the object has gained the writes that are posted to it, and nothing else
has changed. -/
structure Gains (before after : Instance) (postings : List Posting) : Prop where
  lineage : after.lineage = before.lineage
  parts : ∀ position : Nat,
    after.parts[position]? = before.parts[position]?.map (·.extend (Posting.at position postings))

variable {first second third object : Instance} {before after : List Posting}

theorem Gains.refl (object : Instance) : object.Gains object [] := by
  constructor
  · rfl
  · intro position
    simp

theorem Gains.trans (gained : first.Gains second before) (later : second.Gains third after) :
    first.Gains third (before ++ after) := by
  constructor
  · rw [later.lineage, gained.lineage]
  · intro position
    rw [later.parts, gained.parts, Option.map_map, Posting.at_append]
    congr 1
    funext part
    exact part.extend_extend _ _

end Instance

/-- A success is one write of the value to one slot of the first part, and a failure is no
change at all. -/
structure Accessor.WritesOnce (accessor : Accessor) (member slot : String) : Prop where
  failsCleanly : accessor.FailsCleanly
  writes : ∀ target value, (accessor.run target value).1 = .ok () →
    (accessor.run target value).2 = target.modifyHead (·.write ⟨member, slot, value.payload⟩)

/-- The accessor of the member, if it has one, writes once to the member's slot. -/
def Member.WritesOnce (slotOf : Member → String) (member : Member) : Prop :=
  ∀ accessor, member.accessor? = some accessor →
    accessor.WritesOnce member.ident (slotOf member)

/-- Every accessor along the chain writes once to the slot of its member. -/
def Lineage.WritesOnce (slotOf : Member → String) (lineage : Lineage) : Prop :=
  lineage.EveryAccessor fun member accessor => accessor.WritesOnce member.ident (slotOf member)

/-- The posting of a value that is bound to a find in the part at a position: it goes to the
slot of the member. -/
def Found.posting (slotOf : Member → String) (found : Found) (value : Value) (position : Nat) :
    Posting :=
  ⟨position, ⟨found.ident, slotOf found.member, value.payload⟩⟩

namespace Instance

variable {object : Instance} {accessor : Accessor} {member slot : String} {distance : Nat}
  {value : Value}

end Instance

end Wiring
