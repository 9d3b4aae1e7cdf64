import Wiring.Proofs.Lineage.Levels

/-!
# What accessors can be relied on for

An accessor may do anything to the parts that it is given.  This file names the
restraints that statements about injections ask for, and shows that a member which
stores its values observes them.
-/

namespace Wiring

namespace Accessor

/-- A refusal leaves no trace. -/
def FailsCleanly (accessor : Accessor) : Prop :=
  ∀ target value error, (accessor.run target value).1 = .error error →
    (accessor.run target value).2 = target

/-- Values of any other type than the given one are refused. -/
def Expects (accessor : Accessor) (type : TypeId) : Prop :=
  ∀ target value, value.type ≠ type → ∃ error, (accessor.run target value).1 = .error error

/-- At most the first part of a target is changed, and the parts embedded in it stay
as they are. -/
def KeepsEmbedded (accessor : Accessor) : Prop :=
  ∀ target value, (accessor.run target value).2.tail = target.tail

/-- No refusal is worded as the end of a climb, which the accessor takes no part in. -/
def LeavesClimbs (accessor : Accessor) : Prop :=
  ∀ target value depth, (accessor.run target value).1 ≠ .error (.ancestorUnreachable depth)

/-- No refusal is worded as a failed lookup, which the accessor takes no part in. -/
def LeavesLookups (accessor : Accessor) : Prop :=
  ∀ target value name, (accessor.run target value).1 ≠ .error (.missingResource name)

/-- Whether a value is taken depends on it and on the types of the parts, whatever was
written to them. -/
def SucceedsByType (accessor : Accessor) : Prop :=
  ∀ target other value, Target.types target = Target.types other →
    ((accessor.run target value).1 = .ok () ↔ (accessor.run other value).1 = .ok ())

/-- The same for the whole answer, the wording of a refusal included. -/
def AnswersByType (accessor : Accessor) : Prop :=
  ∀ target other value, Target.types target = Target.types other →
    (accessor.run target value).1 = (accessor.run other value).1

theorem AnswersByType.succeedsByType {accessor : Accessor} (answers : accessor.AnswersByType) :
    accessor.SucceedsByType := by
  intro target other value sameTypes
  rw [answers target other value sameTypes]

end Accessor

/-- Every accessor that the declaration mentions has a property, which may refer to
its member. -/
def Declaration.EveryAccessor (declaration : Declaration) (holds : Member → Accessor → Prop) :
    Prop :=
  ∀ scope, ∀ member ∈ declaration.members scope, ∀ accessor,
    member.accessor? = some accessor → holds member accessor

/-- The same for all levels of a chain. -/
def Lineage.EveryAccessor (lineage : Lineage) (holds : Member → Accessor → Prop) : Prop :=
  ∀ declaration ∈ lineage.levels, declaration.EveryAccessor holds

theorem Lineage.EveryAccessor.of_found {lineage : Lineage} {holds : Member → Accessor → Prop}
    {scope : MemberScope} {found : Found} {accessor : Accessor}
    (every : lineage.EveryAccessor holds) (present : found ∈ lineage.found scope)
    (given : found.member.accessor? = some accessor) : holds found.member accessor := by
  obtain ⟨level, -, declared⟩ := mem_found_iff.mp present
  exact every found.declaring (List.mem_of_getElem? level) scope found.member
    (List.mem_of_getElem? declared) accessor given

/-- What holds of the accessor of a member holds of all that the member has. -/
theorem Member.holds_of_given {member : Member} {accessor : Accessor} {holds : Accessor → Prop}
    (given : member.accessor? = some accessor) (held : holds accessor) :
    ∀ other, member.accessor? = some other → holds other := by
  intro other same
  rw [given] at same
  rw [← Option.some.inj same]
  exact held

theorem Declaration.everyAccessor_of_lists {declaration : Declaration}
    {holds : Member → Accessor → Prop}
    (fields : ∀ member ∈ declaration.fields, ∀ accessor,
      member.accessor? = some accessor → holds member accessor)
    (setters : ∀ member ∈ declaration.setters, ∀ accessor,
      member.accessor? = some accessor → holds member accessor) :
    declaration.EveryAccessor holds := by
  intro scope
  cases scope with
  | fields => exact fields
  | setters => exact setters

theorem Lineage.everyAccessor_root {own : Declaration} {holds : Member → Accessor → Prop}
    (every : own.EveryAccessor holds) : (root own).EveryAccessor holds :=
  List.forall_mem_singleton.mpr every

theorem Lineage.everyAccessor_child {own : Declaration} {parent : Lineage}
    {holds : Member → Accessor → Prop} (every : own.EveryAccessor holds)
    (above : parent.EveryAccessor holds) (upcast : Upcast) :
    (child own upcast parent).EveryAccessor holds :=
  List.forall_mem_cons.mpr ⟨every, above⟩

theorem Lineage.EveryAccessor.imp {lineage : Lineage} {holds other : Member → Accessor → Prop}
    (every : lineage.EveryAccessor holds)
    (implies : ∀ member accessor, holds member accessor → other member accessor) :
    lineage.EveryAccessor other :=
  fun declaration level scope member declared accessor given =>
    implies member accessor (every declaration level scope member declared accessor given)

theorem Lineage.succeedsByType_of_answersByType {lineage : Lineage}
    (answers : lineage.EveryAccessor fun _ accessor => accessor.AnswersByType) :
    lineage.EveryAccessor fun _ accessor => accessor.SucceedsByType :=
  answers.imp fun _ _ => Accessor.AnswersByType.succeedsByType

namespace Store

theorem failsCleanly_accessor (store : Store) : store.accessor.FailsCleanly := by
  intro target value error failed
  exact run_of_error failed

theorem keepsEmbedded_accessor (store : Store) : store.accessor.KeepsEmbedded := by
  intro target value
  change (store.run target value).2.tail = target.tail
  cases target with
  | nil => rfl
  | cons part embedded =>
      cases received : store.receive part.type value <;> simp [run, received]

/-- Of the part that it is given, a store looks at the type only. -/
theorem answersByType_accessor (store : Store) : store.accessor.AnswersByType := by
  intro target other value sameTypes
  change (store.run target value).1 = (store.run other value).1
  cases target with
  | nil =>
      cases other with
      | nil => rfl
      | cons part embedded => simp [Target.types] at sameTypes
  | cons part embedded =>
      cases other with
      | nil => simp [Target.types] at sameTypes
      | cons otherPart otherEmbedded =>
          simp only [Target.types, List.map_cons, List.cons.injEq] at sameTypes
          simp only [run, sameTypes.1]
          cases store.receive otherPart.type value <;> rfl

theorem receive_ne_missingResource (store : Store) (target : TypeId) (value : Value)
    (name : String) : store.receive target value ≠ .error (.missingResource name) := by
  unfold receive
  repeat' split
  all_goals simp

theorem leavesLookups_accessor (store : Store) : store.accessor.LeavesLookups := by
  intro target value name
  change (store.run target value).1 ≠ _
  cases target with
  | nil => simp [run]
  | cons part embedded =>
      cases received : store.receive part.type value with
      | ok payload => simp [run, received]
      | error error =>
          have other := store.receive_ne_missingResource part.type value name
          rw [received] at other
          simpa [run, received] using other

/-- What is received is the payload of a value of the expected type. -/
theorem as?_of_receive {store : Store} {target : TypeId} {value : Value} {payload : Payload}
    (received : store.receive target value = .ok payload) :
    value.as? store.value = some payload := by
  unfold receive at received
  split at received
  · split at received
    · contradiction
    · rename_i accepted
      split at received
      · contradiction
      · cases received
        exact accepted
  · contradiction

theorem expects_accessor (store : Store) : store.accessor.Expects store.value := by
  intro target value foreign
  change ∃ error, (store.run target value).1 = .error error
  cases target with
  | nil => exact ⟨_, rfl⟩
  | cons part embedded =>
      cases received : store.receive part.type value with
      | error error => exact ⟨error, by simp [run, received]⟩
      | ok payload => exact absurd (Value.as?_eq_some_iff.mp (as?_of_receive received)).1 foreign

end Store

/-- Whatever binds the member stores values of the declared type, and nothing else. -/
def Member.Stores (member : Member) : Prop :=
  ∀ accessor, member.accessor? = some accessor →
    ∃ store : Store, store.accessor = accessor ∧ store.value = member.valueType.type

/-- The member with a store for its values in parts of one type. -/
def Member.stored (member : Member) (owner : TypeId) (rejection? : Option Rejection) : Member :=
  { member with
    accessor? := some (Store.accessor
      ⟨member.ident, member.ident, owner, member.valueType.type, rejection?⟩) }

theorem Member.stores_stored (member : Member) (owner : TypeId)
    (rejection? : Option Rejection) : (member.stored owner rejection?).Stores := by
  intro accessor given
  exact ⟨_, Option.some.inj given, rfl⟩

theorem Member.stores_of_inaccessible {member : Member} (missing : member.accessor? = none) :
    member.Stores := by
  intro accessor given
  rw [missing] at given
  contradiction

/-- All declared members store values of their declared types. -/
def Declaration.Stores (declaration : Declaration) : Prop :=
  ∀ scope, ∀ member ∈ declaration.members scope, member.Stores

theorem Declaration.stores_of_lists {declaration : Declaration}
    (fields : ∀ member ∈ declaration.fields, member.Stores)
    (setters : ∀ member ∈ declaration.setters, member.Stores) : declaration.Stores := by
  intro scope
  cases scope with
  | fields => exact fields
  | setters => exact setters

/-- The same for all levels of a chain. -/
def Lineage.Stores (lineage : Lineage) : Prop :=
  ∀ declaration ∈ lineage.levels, declaration.Stores

theorem Lineage.stores_root {own : Declaration} (stores : own.Stores) : (root own).Stores :=
  List.forall_mem_singleton.mpr stores

theorem Lineage.stores_child {own : Declaration} {parent : Lineage} (stores : own.Stores)
    (above : parent.Stores) (upcast : Upcast) : (child own upcast parent).Stores :=
  List.forall_mem_cons.mpr ⟨stores, above⟩

/-- What holds of all stores holds of all accessors along a chain of members that store
their values. -/
theorem Lineage.Stores.everyAccessor {lineage : Lineage} {holds : Accessor → Prop}
    (stores : lineage.Stores) (every : ∀ store : Store, holds store.accessor) :
    lineage.EveryAccessor fun _ accessor => holds accessor := by
  intro declaration level scope member declared accessor given
  obtain ⟨store, rfl, -⟩ := stores declaration level scope member declared accessor given
  exact every store

/-- Members that store their values give all the assurances there are. -/
theorem Declaration.Stores.everyAccessor {declaration : Declaration}
    (stores : declaration.Stores) :
    declaration.EveryAccessor fun member accessor =>
      (accessor.Expects member.valueType.type ∧ accessor.FailsCleanly) ∧
        accessor.KeepsEmbedded := by
  intro scope member declared accessor given
  obtain ⟨store, rfl, holds⟩ := stores scope member declared accessor given
  rw [← holds]
  exact ⟨⟨store.expects_accessor, store.failsCleanly_accessor⟩, store.keepsEmbedded_accessor⟩

end Wiring
