import Wiring.Error
import Wiring.Object.Part

/-!
# Accessors and upcasts

An accessor binds a value to one member.  What it is given is a part of a live
object together with the parts embedded in it, that is, everything from one
level upwards.  It may refuse, and it may change what it was given in any way,
but a part keeps its type whatever is written to it.

An upcast leads from a part to one that is embedded in it.  It may look at what
it starts from, as earlier writes have left it, and changes nothing.  That it
should lead to the very next part is what a declaration intends and not what an
upcast promises.
-/

namespace Wiring

/-- What an accessor works on: the part of one level and all parts embedded in
it, own level first. -/
abbrev Target := List Part

/-- The types of a target's parts. -/
def Target.types (target : Target) : List TypeId := target.map Part.type

/-- The way a value is bound to a member.  The target is returned after a
failure too, since a setter may have changed it before it gave up. -/
structure Accessor where
  run : Target → Value → Except BindError Unit × Target
  /-- A part keeps its type. -/
  types_run : ∀ target value, (run target value).2.types = target.types

/-- A refusal: of every value, or of those with one payload only. -/
structure Rejection where
  reason : String
  payload? : Option Payload := none
  deriving DecidableEq, Repr

/-- Whether the refusal applies to a payload. -/
def Rejection.applies (rejection : Rejection) (payload : Payload) : Bool :=
  match rejection.payload? with
  | none => true
  | some refused => refused == payload

/-- How a member stores its values: which types of target and value it expects,
what it refuses and where it stores the rest. -/
structure Store where
  member : String
  slot : String
  target : TypeId
  value : TypeId
  rejection? : Option Rejection := none
  deriving DecidableEq, Repr

namespace Store

/-- The refusal of a payload. -/
def refusal? (store : Store) (payload : Payload) : Option String :=
  (store.rejection?.filter (·.applies payload)).map (·.reason)

/-- Which payload is stored.  The target is checked before the value, and both
before the setter has a say in it; nothing else decides. -/
def receive (store : Store) (target : TypeId) (value : Value) : Except BindError Payload :=
  if target = store.target then
    match value.as? store.value with
    | none => .error (.valueMismatch store.value)
    | some payload =>
        match store.refusal? payload with
        | some reason => .error (.rejected reason)
        | none => .ok payload
  else .error (.targetMismatch store.target)

/-- Only a received value leaves a trace. -/
def run (store : Store) : Target → Value → Except BindError Unit × Target
  | [], _ => (.error (.targetMismatch store.target), [])
  | part :: embedded, value =>
      match store.receive part.type value with
      | .error error => (.error error, part :: embedded)
      | .ok payload => (.ok (), part.write ⟨store.member, store.slot, payload⟩ :: embedded)

theorem types_run (store : Store) (target : Target) (value : Value) :
    (store.run target value).2.types = target.types := by
  cases target with
  | nil => rfl
  | cons part embedded =>
      cases received : store.receive part.type value <;> simp [run, received, Target.types]

/-- A failed store leaves its target alone. -/
theorem run_of_error {store : Store} {target : Target} {value : Value} {error : BindError}
    (failed : (store.run target value).1 = .error error) :
    (store.run target value).2 = target := by
  cases target with
  | nil => rfl
  | cons part embedded =>
      cases received : store.receive part.type value <;> simp_all [run]

/-- The accessor of a member that stores its values. -/
def accessor (store : Store) : Accessor where
  run := store.run
  types_run := store.types_run

end Store

/-- The way from a part to one embedded in it. -/
structure Upcast where
  /-- How many levels up the way leads from the first part of a target; no way may
  exist. -/
  levels : Target → Option Nat

namespace Upcast

/-- The way from a part of one type to the part embedded directly in it. -/
def toParent (child : TypeId) : Upcast where
  levels target := if target.head?.map Part.type = some child then some 1 else none

/-- No way at all. -/
def nowhere : Upcast where
  levels _ := none

/-- A way that goes round in a circle and ends where it began. -/
def itself : Upcast where
  levels _ := some 0

/-- How far the way leads within a target; a way out of the target is none. -/
def climb (upcast : Upcast) (target : Target) : Option Nat :=
  (upcast.levels target).filter (· < target.length)

end Upcast

end Wiring
