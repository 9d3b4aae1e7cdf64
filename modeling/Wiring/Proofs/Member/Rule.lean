import Wiring.Member.Basic
import Wiring.Proofs.First

/-!
# Structural rules one by one

The check of a declaration stops at the first rule that is broken.  Here each rule
is stated by itself, and the check is shown to report the first of them.
-/

namespace Wiring

variable {member : Member} {constraint : Constraint}

namespace Constraint

/-- The member breaks the rule, whatever it makes of the others. -/
def Broken (member : Member) : Constraint → Prop
  | voidValue => member.kind = .setter ∧ member.valueType.kind = .void
  | static => member.modifiers.isStatic = true
  | final => member.modifiers.isFinal = true
  | primitive => member.kind = .field ∧ member.valueType.kind = .primitive

/-- The rules in the order in which they are checked. -/
def all : List Constraint := [voidValue, static, final, primitive]

theorem mem_all (constraint : Constraint) : constraint ∈ all := by
  cases constraint <;> simp [all]

end Constraint

namespace Member

theorem isVoid_iff : member.valueType.isVoid = true ↔ member.valueType.kind = .void := by
  simp [ValueType.isVoid]

theorem isPrimitive_iff :
    member.valueType.isPrimitive = true ↔ member.valueType.kind = .primitive := by
  simp [ValueType.isPrimitive]

/-- The check reports the first of the broken rules. -/
theorem violation?_eq_some_iff :
    member.violation? = some constraint ↔
      First (Constraint.Broken member) Constraint.all constraint := by
  unfold violation? Constraint.all
  simp only [isVoid_iff, isPrimitive_iff, First.cons_iff, Constraint.Broken, First.not_nil,
    and_false, or_false]
  by_cases void : member.kind = .setter ∧ member.valueType.kind = .void
  · simp [void, @eq_comm _ constraint]
  · by_cases static : member.modifiers.isStatic = true
    · simp [void, static, @eq_comm _ constraint]
    · by_cases final : member.modifiers.isFinal = true
      · simp [void, static, final, @eq_comm _ constraint]
      · by_cases primitive : member.kind = .field ∧ member.valueType.kind = .primitive
        · simp [static, final, primitive, @eq_comm _ constraint]
        · simp [void, static, final, primitive]

/-- The check is silent exactly when no rule is broken. -/
theorem violation?_eq_none_iff :
    member.violation? = none ↔ ∀ constraint : Constraint, ¬ constraint.Broken member := by
  constructor
  · intro silent constraint broken
    rcases exists_first_or_forall_not (Constraint.Broken member) Constraint.all with
      ⟨reported, first⟩ | kept
    · rw [violation?_eq_some_iff.mpr first] at silent
      contradiction
    · exact kept constraint constraint.mem_all broken
  · intro kept
    cases reported : member.violation? with
    | none => rfl
    | some constraint =>
        rcases violation?_eq_some_iff.mp reported with ⟨_, _, _, _, broken⟩
        exact absurd broken (kept constraint)

end Member

end Wiring
