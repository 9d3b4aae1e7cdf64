import Wiring.Value

/-!
# Parts of a live object

A live object has one part for every level of its type: a part for the type
itself, one for its parent, and so on up to the root.  All that a part
remembers is what was written to it, in order.  A slot of a part holds what the
last write to that slot left there.
-/

namespace Wiring

/-- One value stored through a member. -/
structure Write where
  /-- The identifier of the member. -/
  member : String
  /-- Where the value was stored. -/
  slot : String
  payload : Payload
  deriving DecidableEq, Repr

/-- The share of a live object that one type of its chain declares. -/
structure Part where
  type : TypeId
  /-- What was written, earliest first. -/
  journal : List Write
  deriving DecidableEq, Repr

namespace Part

/-- A part that nothing was written to. -/
def fresh (type : TypeId) : Part := ⟨type, []⟩

/-- Record one more write. -/
def write (part : Part) (entry : Write) : Part :=
  { part with journal := part.journal ++ [entry] }

/-- What the last write to the slot left there. -/
def slot? (part : Part) (slot : String) : Option Payload :=
  (part.journal.reverse.find? (·.slot == slot)).map (·.payload)

/-- The slots in use, in the order of their first writes, with their
contents. -/
def slots (part : Part) : List (String × Payload) :=
  (part.journal.map (·.slot)).eraseDups.filterMap fun slot =>
    (part.slot? slot).map (slot, ·)

@[simp]
theorem type_write (part : Part) (entry : Write) : (part.write entry).type = part.type :=
  rfl

@[simp]
theorem journal_write (part : Part) (entry : Write) :
    (part.write entry).journal = part.journal ++ [entry] :=
  rfl

@[simp]
theorem slot?_fresh (type : TypeId) (slot : String) : (fresh type).slot? slot = none :=
  rfl

end Part

end Wiring
