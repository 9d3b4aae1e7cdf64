import Wiring.Member.Basic

/-!
# Types and their ancestors

A type is described by what it declares itself and by the type it extends, if
there is one.  The description of a type therefore contains those of all its
ancestors, the nearest first, together with the ways that lead from a part of a
live object to the part of the next ancestor.
-/

namespace Wiring

/-- What one type declares. -/
structure Declaration where
  /-- Tells declarations apart: two types may agree in all the rest and still be
  declared separately. -/
  key : Nat
  name : String
  type : TypeId
  fields : List Member := []
  setters : List Member := []

/-- The declared members that a scan of the scope looks at. -/
def Declaration.members (declaration : Declaration) : MemberScope → List Member
  | .fields => declaration.fields
  | .setters => declaration.setters

/-- A type with all its ancestors. -/
inductive Lineage where
  /-- A type that extends no other. -/
  | root (own : Declaration)
  /-- A type that extends another, and the way from its part of a live object to
  the part of the other. -/
  | child (own : Declaration) (upcast : Upcast) (parent : Lineage)

namespace Lineage

/-- What the type declares itself. -/
def own : Lineage → Declaration
  | root own => own
  | child own _ _ => own

/-- The type that this one extends. -/
def parent? : Lineage → Option Lineage
  | root _ => none
  | child _ _ parent => some parent

/-- The name of the type. -/
def name (lineage : Lineage) : String := lineage.own.name

/-- The identity of the type. -/
def type (lineage : Lineage) : TypeId := lineage.own.type

/-- The type followed by each ancestor, up to the root. -/
def ancestors : Lineage → List Lineage
  | root own => [root own]
  | child own upcast parent => child own upcast parent :: parent.ancestors

/-- The declarations along the chain, own first. -/
def levels (lineage : Lineage) : List Declaration := lineage.ancestors.map own

/-- The types along the chain, own first. -/
def types (lineage : Lineage) : List TypeId := lineage.levels.map (·.type)

/-- Whether the type is another one or extends it, directly or not.  Types are
compared by identity. -/
def descendsFrom (lineage other : Lineage) : Bool :=
  lineage.types.contains other.type

@[simp]
theorem levels_root (own : Declaration) : (root own).levels = [own] :=
  rfl

@[simp]
theorem levels_child (own : Declaration) (upcast : Upcast) (parent : Lineage) :
    (child own upcast parent).levels = own :: parent.levels :=
  rfl

@[simp]
theorem types_root (own : Declaration) : (root own).types = [own.type] :=
  rfl

@[simp]
theorem types_child (own : Declaration) (upcast : Upcast) (parent : Lineage) :
    (child own upcast parent).types = own.type :: parent.types :=
  rfl

/-- A chain begins with the type itself. -/
theorem mem_ancestors_self (lineage : Lineage) : lineage ∈ lineage.ancestors := by
  cases lineage <;> simp [ancestors]

theorem descendsFrom_iff {lineage other : Lineage} :
    lineage.descendsFrom other = true ↔
      ∃ ancestor ∈ lineage.ancestors, ancestor.type = other.type := by
  simp [descendsFrom, types, levels, type]

/-- Climb the given number of levels from a target whose first part belongs to
the type.  The answer is the distance from the start of the target, or the step
at which the climb ends: where there is no ancestor left or no way leads to
it. -/
def ascend : Lineage → Nat → Target → Except Nat Nat
  | _, 0, _ => .ok 0
  | root _, _ + 1, _ => .error 1
  | child _ upcast parent, steps + 1, target =>
      match upcast.climb target with
      | none => .error 1
      | some distance =>
          match parent.ascend steps (target.drop distance) with
          | .ok rest => .ok (distance + rest)
          | .error step => .error (step + 1)

@[simp]
theorem ascend_zero (lineage : Lineage) (target : Target) : lineage.ascend 0 target = .ok 0 := by
  cases lineage <;> rfl

end Lineage

end Wiring
