import Wiring.Object.Instance
import Wiring.Proofs.Object.Accessor

/-!
# Climbs through an object

A climb takes the ways of a chain one after the other, each from the part that was reached
before, and on the parts as earlier writes have left them.  Only where all ways go by the types
of the parts, which stay, is a climb the same on all objects of a type, whatever has been done
to them.
-/

namespace Wiring

theorem Target.types_drop (target : Target) (distance : Nat) :
    Target.types (target.drop distance) = (Target.types target).drop distance :=
  List.map_drop

/-! ## Ways that go by types -/

/-- Where the way leads depends on the types of the parts, whatever was written to them. -/
def Upcast.LeadsByType (upcast : Upcast) : Prop :=
  ∀ target other, Target.types target = Target.types other →
    upcast.levels target = upcast.levels other

/-- The same for all ways along a chain. -/
def Lineage.LeadsByType : Lineage → Prop
  | root _ => True
  | child _ upcast parent => upcast.LeadsByType ∧ parent.LeadsByType

namespace Upcast

variable {upcast : Upcast} {target other : Target} {child next : TypeId} {rest : List TypeId}

theorem leadsByType_toParent (child : TypeId) : (toParent child).LeadsByType := by
  intro target other sameTypes
  have sameHead := congrArg List.head? sameTypes
  rw [Target.types, Target.types, List.head?_map, List.head?_map] at sameHead
  simp only [toParent, sameHead]

theorem leadsByType_nowhere : nowhere.LeadsByType := fun _ _ _ => rfl

theorem climb_congr (leads : upcast.LeadsByType) (sameTypes : target.types = other.types) :
    upcast.climb target = upcast.climb other := by
  have sameLength := congrArg List.length sameTypes
  rw [Target.types, Target.types, List.length_map, List.length_map] at sameLength
  simp only [climb, leads target other sameTypes, sameLength]

/-- From a part of the expected type, the way to the parent arrives at the next part. -/
theorem climb_toParent (types : target.types = child :: next :: rest) :
    (toParent child).climb target = some 1 := by
  have length := congrArg List.length types
  have head := congrArg List.head? types
  rw [Target.types, List.length_map] at length
  rw [Target.types, List.head?_map, List.head?_cons] at head
  have inside : 1 < target.length := by
    rw [length]
    exact Nat.le_add_left 2 rest.length
  simp only [climb, toParent, if_pos head, Option.filter_some, decide_eq_true inside, if_true]

end Upcast

namespace Lineage

variable {own : Declaration} {upcast : Upcast} {parent : Lineage} {target other : Target}
  {steps distance : Nat}

theorem ascend_child_succ (own : Declaration) (upcast : Upcast) (parent : Lineage)
    (steps : Nat) (target : Target) :
    (child own upcast parent).ascend (steps + 1) target =
      match upcast.climb target with
      | none => .error 1
      | some distance =>
          match parent.ascend steps (target.drop distance) with
          | .ok rest => .ok (distance + rest)
          | .error step => .error (step + 1) :=
  rfl

/-- After the first step, a climb continues as one of the parent. -/
theorem ascend_child_of_climb (climbed : upcast.climb target = some distance) (own : Declaration)
    (parent : Lineage) (steps : Nat) :
    (child own upcast parent).ascend (steps + 1) target =
      match parent.ascend steps (target.drop distance) with
      | .ok rest => .ok (distance + rest)
      | .error step => .error (step + 1) := by
  rw [ascend_child_succ, climbed]

theorem ascend_congr {lineage : Lineage} (leads : lineage.LeadsByType) (steps : Nat)
    (sameTypes : target.types = other.types) :
    lineage.ascend steps target = lineage.ascend steps other := by
  induction lineage generalizing steps target other with
  | root own => cases steps <;> rfl
  | child own upcast parent inductionHypothesis =>
      obtain ⟨leadsHere, leadsAbove⟩ := leads
      cases steps with
      | zero => rfl
      | succ steps =>
          rw [ascend_child_succ, ascend_child_succ, Upcast.climb_congr leadsHere sameTypes]
          cases upcast.climb other with
          | none => rfl
          | some distance =>
              have dropped : Target.types (target.drop distance) =
                  Target.types (other.drop distance) := by
                rw [Target.types_drop, Target.types_drop, sameTypes]
              simp only [inductionHypothesis leadsAbove steps dropped]

end Lineage

/-! ## Bindings and the climbs before them -/

namespace Instance

variable {object other : Instance} {member : Member} {accessor : Accessor}
  {depth distance step : Nat} {value : Value} {error : BindError}

@[simp]
theorem reach_zero (object : Instance) : object.reach 0 = .ok 0 := by
  unfold reach
  rw [Lineage.ascend_zero]
  rfl

theorem reach_of_ascend_ok (climbed : object.lineage.ascend depth object.parts = .ok distance) :
    object.reach depth = .ok distance := by
  unfold reach
  rw [climbed]
  rfl

theorem reach_of_ascend_error (ended : object.lineage.ascend depth object.parts = .error step) :
    object.reach depth = .error (.ancestorUnreachable step) := by
  unfold reach
  rw [ended]
  rfl

theorem ascend_of_reach_ok (reached : object.reach depth = .ok distance) :
    object.lineage.ascend depth object.parts = .ok distance := by
  cases climbed : object.lineage.ascend depth object.parts with
  | error step =>
      rw [reach_of_ascend_error climbed] at reached
      contradiction
  | ok rest =>
      rw [reach_of_ascend_ok climbed] at reached
      exact congrArg Except.ok (Except.ok.inj reached)

/-- A climb fails in one way only. -/
theorem exists_step_of_reach_error (ended : object.reach depth = .error error) :
    ∃ step, error = .ancestorUnreachable step ∧
      object.lineage.ascend depth object.parts = .error step := by
  cases climbed : object.lineage.ascend depth object.parts with
  | ok rest =>
      rw [reach_of_ascend_ok climbed] at ended
      contradiction
  | error step =>
      rw [reach_of_ascend_error climbed] at ended
      exact ⟨step, (Except.error.inj ended).symm, rfl⟩

/-- Where ways go by types, a climb is the same on all objects of the type. -/
theorem reach_congr (leads : object.lineage.LeadsByType) (sameType : other.lineage = object.lineage)
    (depth : Nat) : other.reach depth = object.reach depth := by
  have sameTypes : Target.types other.parts = Target.types object.parts := by
    rw [other.types_parts, object.types_parts, sameType]
  unfold reach
  rw [sameType, Lineage.ascend_congr leads depth sameTypes]

theorem bind_of_inaccessible (missing : member.accessor? = none) :
    object.bind member depth value = (.error .inaccessible, object) := by
  simp [bind, missing]

theorem bind_of_unreachable (given : member.accessor? = some accessor)
    (ended : object.reach depth = .error error) :
    object.bind member depth value = (.error error, object) := by
  simp [bind, given, ended]

theorem bind_of_reached (given : member.accessor? = some accessor)
    (reached : object.reach depth = .ok distance) :
    object.bind member depth value = object.update distance accessor value := by
  simp [bind, given, reached]

/-- What is bound was reached. -/
theorem exists_reach_of_bound {result : Unit}
    (bound : (object.bind member depth value).1 = .ok result) :
    ∃ distance, object.reach depth = .ok distance := by
  cases reached : object.reach depth with
  | ok distance => exact ⟨distance, rfl⟩
  | error error =>
      cases given : member.accessor? with
      | none =>
          rw [bind_of_inaccessible given] at bound
          contradiction
      | some accessor =>
          rw [bind_of_unreachable given reached] at bound
          contradiction

/-- The part at each distance is that of the level in the same place. -/
theorem type_head?_drop_parts (object : Instance) (depth : Nat) :
    (object.parts.drop depth).head?.map Part.type =
      object.lineage.levels[depth]?.map (·.type) := by
  rw [← Lineage.types_getElem?, ← object.types_parts, List.head?_drop]
  exact List.getElem?_map.symm

/-- From each distance on, the parts of two objects of one type have the same types. -/
theorem types_drop_parts {left right : Instance} (sameType : left.lineage = right.lineage)
    (distance : Nat) :
    Target.types (left.parts.drop distance) = Target.types (right.parts.drop distance) := by
  have sameTypes : Target.types left.parts = Target.types right.parts := by
    rw [left.types_parts, right.types_parts, sameType]
  rw [Target.types_drop, Target.types_drop, sameTypes]

end Instance

end Wiring
