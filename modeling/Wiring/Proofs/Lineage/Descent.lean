import Mathlib.Data.Set.Insert
import Mathlib.Logic.Relation
import Wiring.Proofs.Lineage.Levels

/-!
# The order of ancestors

Whether a type descends from another is found out by walking up its chain and comparing
identities.  The laws of an order hold of the chains themselves: the chain of an ancestor is the
rest of the chain from its own place on.  They are laws of the comparison as long as an identity
tells which type it belongs to, and fail where it does not.
-/

namespace Wiring

namespace Lineage

variable {types : Set Lineage} {lineage ancestor other upper : Lineage}

/-- The first type extends the second directly. -/
def Extends (lineage parent : Lineage) : Prop := lineage.parent? = some parent

/-- Types of which no two share an identity, each together with the one that it extends.  A type
comes with its whole chain, so that extension cannot run in a circle. -/
structure Family (types : Set Lineage) : Prop where
  parent_mem : ∀ lineage ∈ types, ∀ parent, lineage.Extends parent → parent ∈ types
  apart : ∀ lineage ∈ types, ∀ other ∈ types, lineage.type = other.type → lineage = other

/-! ## Chains -/

theorem head?_ancestors (lineage : Lineage) : lineage.ancestors.head? = some lineage := by
  cases lineage <;> rfl

theorem ancestors_inj (same : lineage.ancestors = other.ancestors) : lineage = other := by
  have heads := congrArg List.head? same
  rw [head?_ancestors, head?_ancestors] at heads
  exact Option.some.inj heads

/-- What stands on a chain stands at the head of the rest of it. -/
theorem mem_ancestors_iff_suffix :
    ancestor ∈ lineage.ancestors ↔ ancestor.ancestors <:+ lineage.ancestors := by
  constructor
  · intro above
    obtain ⟨height, above⟩ := List.mem_iff_getElem?.mp above
    rw [← drop_ancestors above]
    exact List.drop_suffix height lineage.ancestors
  · intro rest
    exact rest.subset ancestor.mem_ancestors_self

theorem mem_ancestors_trans (above : ancestor ∈ lineage.ancestors)
    (further : upper ∈ ancestor.ancestors) : upper ∈ lineage.ancestors :=
  (mem_ancestors_iff_suffix.mp above).subset further

/-- Two types that stand on each other's chains are the same. -/
theorem mem_ancestors_antisymm (above : other ∈ lineage.ancestors)
    (below : lineage ∈ other.ancestors) : lineage = other := by
  have upward := mem_ancestors_iff_suffix.mp above
  have downward := mem_ancestors_iff_suffix.mp below
  have sameLength := Nat.le_antisymm downward.length_le upward.length_le
  exact ancestors_inj (downward.eq_of_length sameLength)

/-- A chain does not branch. -/
theorem mem_ancestors_total (first : ancestor ∈ lineage.ancestors)
    (second : other ∈ lineage.ancestors) :
    other ∈ ancestor.ancestors ∨ ancestor ∈ other.ancestors := by
  rw [mem_ancestors_iff_suffix] at first second
  rw [mem_ancestors_iff_suffix, mem_ancestors_iff_suffix]
  exact List.suffix_or_suffix_of_suffix second first

/-- A chain is what is reached by going from each type to the one that it extends. -/
theorem mem_ancestors_iff_reaches :
    ancestor ∈ lineage.ancestors ↔ Relation.ReflTransGen Extends lineage ancestor := by
  constructor
  · intro above
    induction lineage with
    | root own =>
        rw [List.mem_singleton.mp above]
    | child own upcast parent inductionHypothesis =>
        rcases List.mem_cons.mp above with rfl | above
        · exact .refl
        · exact .head rfl (inductionHypothesis above)
  · intro reaches
    induction reaches using Relation.ReflTransGen.head_induction_on with
    | refl => exact ancestor.mem_ancestors_self
    | @head lower parent extending _ inductionHypothesis =>
        cases lower with
        | root own => cases extending
        | child own upcast upper =>
            cases extending
            exact List.mem_cons_of_mem _ inductionHypothesis

/-! ## Identities -/

/-- A type has its whole chain in every family that it belongs to. -/
theorem Family.mem_of_mem_ancestors (family : Family types) (present : lineage ∈ types)
    (above : ancestor ∈ lineage.ancestors) : ancestor ∈ types := by
  induction lineage with
  | root own =>
      rw [List.mem_singleton.mp above]
      exact present
  | child own upcast parent inductionHypothesis =>
      rcases List.mem_cons.mp above with rfl | above
      · exact present
      · exact inductionHypothesis (family.parent_mem _ present parent rfl) above

/-- In a family it is the other type itself that is found on the chain. -/
theorem Family.descendsFrom_iff_mem (family : Family types) (present : lineage ∈ types)
    (otherPresent : other ∈ types) :
    lineage.descendsFrom other = true ↔ other ∈ lineage.ancestors := by
  rw [descendsFrom_iff]
  constructor
  · rintro ⟨ancestor, above, same⟩
    -- The level that was recognized belongs to the family, where only one type is called so.
    have ancestorPresent := family.mem_of_mem_ancestors present above
    rw [← family.apart ancestor ancestorPresent other otherPresent same]
    exact above
  · intro above
    exact ⟨other, above, rfl⟩

/-- Among these types, descent is the order in which they stand on chains. -/
structure OrderedByDescent (types : Set Lineage) : Prop where
  iff_mem : ∀ lineage ∈ types, ∀ other ∈ types,
    lineage.descendsFrom other = true ↔ other ∈ lineage.ancestors
  /-- A type descends from those that are reached by going from each type to the one that it
  extends. -/
  iff_reaches : ∀ lineage ∈ types, ∀ other ∈ types,
    lineage.descendsFrom other = true ↔ Relation.ReflTransGen Extends lineage other
  refl : ∀ lineage ∈ types, lineage.descendsFrom lineage = true
  trans : ∀ lineage ∈ types, ∀ other ∈ types, ∀ upper ∈ types,
    lineage.descendsFrom other = true → other.descendsFrom upper = true →
      lineage.descendsFrom upper = true
  antisymm : ∀ lineage ∈ types, ∀ other ∈ types,
    lineage.descendsFrom other = true → other.descendsFrom lineage = true → lineage = other
  /-- The types that one type descends from follow each other. -/
  total : ∀ lineage ∈ types, ∀ other ∈ types, ∀ upper ∈ types,
    lineage.descendsFrom other = true → lineage.descendsFrom upper = true →
      other.descendsFrom upper = true ∨ upper.descendsFrom other = true
  iff_suffix : ∀ lineage ∈ types, ∀ other ∈ types,
    lineage.descendsFrom other = true ↔ other.ancestors <:+ lineage.ancestors

/-- Where identities tell types apart, descent is the order of ancestors. -/
theorem descent_orders_family (family : Family types) : OrderedByDescent types where
  iff_mem lineage present other otherPresent := family.descendsFrom_iff_mem present otherPresent
  iff_reaches lineage present other otherPresent := by
    rw [family.descendsFrom_iff_mem present otherPresent, mem_ancestors_iff_reaches]
  refl lineage present := by
    rw [family.descendsFrom_iff_mem present present]
    exact lineage.mem_ancestors_self
  trans lineage present other otherPresent upper upperPresent := by
    rw [family.descendsFrom_iff_mem present otherPresent,
      family.descendsFrom_iff_mem otherPresent upperPresent,
      family.descendsFrom_iff_mem present upperPresent]
    exact mem_ancestors_trans
  antisymm lineage present other otherPresent := by
    rw [family.descendsFrom_iff_mem present otherPresent,
      family.descendsFrom_iff_mem otherPresent present]
    exact mem_ancestors_antisymm
  total lineage present other otherPresent upper upperPresent := by
    rw [family.descendsFrom_iff_mem present otherPresent,
      family.descendsFrom_iff_mem present upperPresent,
      family.descendsFrom_iff_mem otherPresent upperPresent,
      family.descendsFrom_iff_mem upperPresent otherPresent]
    exact mem_ancestors_total
  iff_suffix lineage present other otherPresent := by
    rw [family.descendsFrom_iff_mem present otherPresent, mem_ancestors_iff_suffix]

end Lineage

/-! ## Hounds and cats -/

namespace Kennel

def declared (key : Nat) (name : String) : Declaration where
  key := key
  name := name
  type := ⟨name⟩

def animal : Lineage := .root (declared 0 "Animal")

def dog : Lineage := .child (declared 1 "Dog") (Upcast.toParent ⟨"Dog"⟩) animal

def hound : Lineage := .child (declared 2 "Hound") (Upcast.toParent ⟨"Hound"⟩) dog

def cat : Lineage := .child (declared 3 "Cat") Upcast.nowhere animal

def animals : Set Lineage := {hound, dog, cat, animal}

theorem family_animals : Lineage.Family animals where
  parent_mem := by
    rintro lineage (rfl | rfl | rfl | rfl) parent extending <;> cases extending <;> simp [animals]
  apart := by
    rintro lineage (rfl | rfl | rfl | rfl) other (rfl | rfl | rfl | rfl) same <;>
      first | rfl | exact absurd same (by decide)

/-- A hound is a dog and an animal, in this order; a cat is an animal too, and no dog is one. -/
theorem animals_are_ordered :
    Lineage.Family animals ∧ Lineage.OrderedByDescent animals ∧
      hound.descendsFrom animal = true ∧ animal.ancestors <:+ hound.ancestors ∧
        cat.descendsFrom animal = true ∧ dog.descendsFrom cat = false := by
  have ordered := Lineage.descent_orders_family family_animals
  have houndPresent : hound ∈ animals := by simp [animals]
  have dogPresent : dog ∈ animals := by simp [animals]
  have animalPresent : animal ∈ animals := by simp [animals]
  have houndIsDog := (ordered.iff_mem hound houndPresent dog dogPresent).mpr
    (List.mem_cons_of_mem hound List.mem_cons_self)
  have houndIsAnimal := ordered.trans hound houndPresent dog dogPresent animal animalPresent
    houndIsDog rfl
  have rest := (ordered.iff_suffix hound houndPresent animal animalPresent).mp houndIsAnimal
  exact ⟨family_animals, ordered, houndIsAnimal, rest, rfl, rfl⟩

/-- Where two types share an identity there is no such order: a toy dog that goes by the identity
of dogs is taken for an ancestor of hounds and descends from toys, but no hound does. -/
example :
    let toy : Lineage := .root (declared 4 "Toy")
    let toyDog : Lineage := .child { declared 5 "ToyDog" with type := dog.type } Upcast.nowhere toy
    hound.descendsFrom toyDog = true ∧ toyDog.descendsFrom toy = true ∧
      hound.descendsFrom toy = false := by
  decide

end Kennel

end Wiring
