import Wiring.Lineage.Basic

/-!
# Live objects

A live object of a type has one part for every level of the type's chain, own
level first.  Nothing that is done to an object adds a part, takes one away or
changes the type of one, so the agreement of parts and levels is a part of the
object itself.
-/

namespace Wiring

/-- A live object of a described type. -/
structure Instance where
  lineage : Lineage
  parts : List Part
  /-- The parts are those of the type's chain. -/
  types_parts : Target.types parts = lineage.types

namespace Instance

/-- An object that nothing was bound to yet. -/
def fresh (lineage : Lineage) : Instance where
  lineage := lineage
  parts := lineage.types.map Part.fresh
  types_parts := by simp [Target.types, Function.comp_def, Part.fresh]

/-- Replace the parts from one level upwards by what an accessor left of
them. -/
def update (object : Instance) (distance : Nat) (accessor : Accessor) (value : Value) :
    Except BindError Unit × Instance :=
  let outcome := accessor.run (object.parts.drop distance) value
  (outcome.1,
    { lineage := object.lineage
      parts := object.parts.take distance ++ outcome.2
      types_parts := by
        have kept := accessor.types_run (object.parts.drop distance) value
        have whole := object.types_parts
        simp only [Target.types] at kept whole ⊢
        rw [List.map_append, kept, ← List.map_append, List.take_append_drop, whole] })

@[simp]
theorem lineage_update (object : Instance) (distance : Nat) (accessor : Accessor)
    (value : Value) : (object.update distance accessor value).2.lineage = object.lineage :=
  rfl

/-- The part that a member of an ancestor is bound in: the climb from the
object's own part, as far as the depth of the ancestor. -/
def reach (object : Instance) (depth : Nat) : Except BindError Nat :=
  (object.lineage.ascend depth object.parts).mapError BindError.ancestorUnreachable

/-- Bind a value to a member that was found at some depth. -/
def bind (object : Instance) (member : Member) (depth : Nat) (value : Value) :
    Except BindError Unit × Instance :=
  match member.accessor? with
  | none => (.error .inaccessible, object)
  | some accessor =>
      match object.reach depth with
      | .error error => (.error error, object)
      | .ok distance => object.update distance accessor value

@[simp]
theorem lineage_bind (object : Instance) (member : Member) (depth : Nat) (value : Value) :
    (object.bind member depth value).2.lineage = object.lineage := by
  unfold bind
  repeat' split
  all_goals simp

end Instance

end Wiring
