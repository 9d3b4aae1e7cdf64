import Wiring.Derive.Meaning

/-!
# Members of expansions

An expansion takes its setters from the announcements on the declaration, one for
each, and its fields from the declared ones.  This file says which of its members
can be bound, and that a way to bind one asks for the declared type and for values
of the member's own type.
-/

namespace Wiring.Derive

/-- The declaration announces the setter at the given place among its setters. -/
def Source.Announces (source : Source) (index : Nat) (setter : SetterSource) : Prop :=
  ∃ setters, SetterSource.ofBodies (Attribute.relevant source.attributes) = .ok setters ∧
    setters[index]? = some setter

/-- The action has a way to refuse a value. -/
def Action.MayRefuse : Action → Prop
  | assign _ _ => False
  | call _ fallible => fallible = true

/-- The way asks for the owner as its target and for values of the member's type. -/
structure Binder.Fits (binder : Binder) (owner : String) (expanded : ExpandedMember) : Prop where
  target : binder.target = owner
  value : binder.value = expanded.valueType

variable {source : Source} {expansion : Expansion} {expanded : ExpandedMember} {owner : String}

/-- What a declaration that is not refused expands to. -/
theorem Source.expand_eq_ok (accepted : source.expand = .ok expansion) :
    ∃ fields setters, FieldMode.ofFields false source.fields = .ok fields ∧
      SetterSource.ofBodies (Attribute.relevant source.attributes) = .ok setters ∧
        expansion =
          { type := source.name
            name := Word.unraw source.name
            fields := fields.filterMap fun entry => entry.1.expand? source.name entry.2
            setters := setters.map (SetterSource.expand source.name)
            parent? := parentAmong? fields } := by
  unfold expand at accepted
  split at accepted
  · contradiction
  · split at accepted
    · contradiction
    · cases fields : FieldMode.ofFields false source.fields with
      | error fault => simp [fields, bind, Except.bind] at accepted
      | ok entries =>
          cases setters : SetterSource.ofBodies (Attribute.relevant source.attributes) with
          | error fault => simp [fields, setters, bind, Except.bind] at accepted
          | ok announced =>
              simp only [fields, setters, bind, Except.bind, Except.ok.injEq] at accepted
              exact ⟨entries, announced, rfl, rfl, accepted.symm⟩

/-- A field is bound without refusals if it is marked, and cannot be bound if it is
not. -/
theorem FieldSource.binder?_expand? {field : FieldSource} {mode : FieldMode}
    (member : field.expand? owner mode = some expanded) :
    (expanded.markers = [] ∧ expanded.binder? = none) ∨
      ∃ binder, expanded.binder? = some binder ∧ binder.Fits owner expanded ∧
        ¬ binder.action.MayRefuse := by
  cases mode with
  | plain =>
      cases member
      exact Or.inl ⟨rfl, rfl⟩
  | marked options =>
      cases member
      exact Or.inr ⟨_, rfl, ⟨rfl, rfl⟩, id⟩
  | parent => contradiction

theorem Source.binder?_of_mem_fields (accepted : source.expand = .ok expansion)
    (present : expanded ∈ expansion.fields) :
    (expanded.markers = [] ∧ expanded.binder? = none) ∨
      ∃ binder, expanded.binder? = some binder ∧ binder.Fits source.name expanded ∧
        ¬ binder.action.MayRefuse := by
  obtain ⟨fields, setters, -, -, rfl⟩ := expand_eq_ok accepted
  obtain ⟨entry, -, member⟩ := List.mem_filterMap.mp present
  exact FieldSource.binder?_expand? member

/-- The setters of an expansion are those that are announced, in the same places. -/
theorem Source.setters_getElem? (accepted : source.expand = .ok expansion) {index : Nat}
    (listed : expansion.setters[index]? = some expanded) :
    ∃ setter, source.Announces index setter ∧ expanded = setter.expand source.name := by
  obtain ⟨fields, setters, -, announced, rfl⟩ := expand_eq_ok accepted
  rw [List.getElem?_map, Option.map_eq_some_iff] at listed
  obtain ⟨setter, place, rfl⟩ := listed
  exact ⟨setter, ⟨setters, announced, place⟩, rfl⟩

/-- At most one setter is announced at each place. -/
theorem Source.Announces.unique {index : Nat} {setter other : SetterSource}
    (announced : source.Announces index setter) (again : source.Announces index other) :
    setter = other := by
  obtain ⟨setters, read, place⟩ := announced
  obtain ⟨others, readAgain, placeAgain⟩ := again
  rw [read] at readAgain
  cases readAgain
  exact Option.some.inj (place.symm.trans placeAgain)

namespace SetterSource

variable {setter : SetterSource}

/-- The setters that cannot be bound are the void ones. -/
theorem binder?_expand_eq_none_iff :
    (setter.expand owner).binder? = none ↔ setter.type.isUnit = true := by
  unfold expand
  cases setter.type.isUnit <;> simp

theorem valueKind_expand_of_isUnit (owner : String) (takesNothing : setter.type.isUnit = true) :
    (setter.expand owner).valueKind = .void := by
  simp [expand, WrittenType.valueKind, takesNothing]

/-- Only a setter that is announced as fallible may refuse a value. -/
theorem fits_of_binder?_expand {binder : Binder}
    (given : (setter.expand owner).binder? = some binder) :
    binder.Fits owner (setter.expand owner) ∧
      (binder.action.MayRefuse → setter.fallible = true) := by
  cases takes : setter.type.isUnit with
  | true => simp [expand, takes] at given
  | false =>
      simp only [expand, takes, Bool.false_eq_true, if_false, Option.some.injEq] at given
      rw [← given]
      exact ⟨⟨rfl, rfl⟩, id⟩

end SetterSource

/-! ## What a way to bind a member answers -/

namespace Binder

variable {environment : Environment} {binder : Binder} {ident : String} {target : Target}
  {value : Value}

/-- On its target, a binder refuses values of other types for their type. -/
theorem run_of_foreign
    (onTarget : target.head?.map Part.type = some (environment.typeOf (.word binder.target)))
    (foreign : value.type ≠ environment.typeOf binder.value) :
    (binder.run environment ident target value).1 =
      .error (.valueMismatch (environment.typeOf binder.value)) := by
  simp [run, onTarget, Value.as?, foreign]

/-- On its target, a binder takes every value of the expected type, unless its action
refuses it. -/
theorem run_of_expected
    (onTarget : target.head?.map Part.type = some (environment.typeOf (.word binder.target)))
    (expected : value.type = environment.typeOf binder.value) :
    (binder.run environment ident target value).1 = .ok () ∨
      binder.action.MayRefuse ∧
        ∃ reason, (binder.run environment ident target value).1 = .error (.rejected reason) := by
  simp only [run, onTarget, Value.as?, expected, if_true]
  cases action : binder.action with
  | assign field wrapped => cases target <;> exact Or.inl rfl
  | call method fallible =>
      cases fallible with
      | false => exact Or.inl rfl
      | true =>
          simp only [Action.run, if_true]
          cases ((environment.method binder.target method).run target value.payload).1 with
          | ok _ => exact Or.inl rfl
          | error reason => exact Or.inr ⟨rfl, reason, rfl⟩

end Binder

end Wiring.Derive
