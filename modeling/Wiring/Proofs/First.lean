/-!
# The first of a list

Scans, names and comparisons all stop at the first item that gives cause to.
This file says what it is to be that item, without saying how it is looked for.
-/

namespace Wiring

universe u

variable {α : Type u} {holds other : α → Prop} {items : List α} {item head : α}

/-- The item has the property, and none that stands before it has. -/
def First (holds : α → Prop) (items : List α) (item : α) : Prop :=
  ∃ before after, items = before ++ item :: after ∧
    (∀ earlier ∈ before, ¬ holds earlier) ∧ holds item

namespace First

protected theorem holds (first : First holds items item) : holds item := by
  rcases first with ⟨before, after, split, clean, found⟩
  exact found

theorem of_head (found : holds head) (rest : List α) : First holds (head :: rest) head :=
  ⟨[], rest, rfl, by simp, found⟩

theorem of_tail (passed : ¬ holds head) (first : First holds items item) :
    First holds (head :: items) item := by
  rcases first with ⟨before, after, rfl, clean, found⟩
  refine ⟨head :: before, after, rfl, ?_, found⟩
  intro earlier present
  rcases List.mem_cons.mp present with rfl | present
  · exact passed
  · exact clean earlier present

/-- Either the head is the first itself, or it is passed over. -/
theorem cons_iff :
    First holds (head :: items) item ↔
      (holds head ∧ item = head) ∨ (¬ holds head ∧ First holds items item) := by
  constructor
  · rintro ⟨before, after, split, clean, found⟩
    cases before with
    | nil =>
        simp only [List.nil_append, List.cons.injEq] at split
        rcases split with ⟨rfl, -⟩
        exact Or.inl ⟨found, rfl⟩
    | cons passed before =>
        simp only [List.cons_append, List.cons.injEq] at split
        rcases split with ⟨rfl, rfl⟩
        have skipped := clean head List.mem_cons_self
        have later := fun earlier present => clean earlier (List.mem_cons_of_mem head present)
        exact Or.inr ⟨skipped, before, after, rfl, later, found⟩
  · rintro (⟨found, rfl⟩ | ⟨passed, first⟩)
    · exact of_head found items
    · exact of_tail passed first

theorem not_nil : ¬ First holds [] item := by
  rintro ⟨before, after, split, -⟩
  simp at split

protected theorem mem (first : First holds items item) : item ∈ items := by
  rcases first with ⟨before, after, rfl, clean, found⟩
  exact List.mem_append_right before List.mem_cons_self

/-- What comes after a first item does not matter. -/
theorem append (first : First holds items item) (rest : List α) :
    First holds (items ++ rest) item := by
  rcases first with ⟨before, after, rfl, clean, found⟩
  exact ⟨before, after ++ rest, by simp, clean, found⟩

/-- Where no item has the property, the next one that has it is the first. -/
theorem of_clean (clean : ∀ earlier ∈ items, ¬ holds earlier) (found : holds item) :
    First holds (items ++ [item]) item :=
  ⟨items, [], rfl, clean, found⟩

/-- Equivalent properties have the same first item. -/
theorem congr (same : ∀ item, holds item ↔ other item) (first : First holds items item) :
    First other items item := by
  rcases first with ⟨before, after, split, clean, found⟩
  refine ⟨before, after, split, ?_, (same item).mp found⟩
  intro earlier present found
  exact clean earlier present ((same earlier).mpr found)

/-- A search finds the first item that passes the test. -/
theorem find?_eq_some_iff {test : α → Bool} :
    items.find? test = some item ↔ First (fun item => test item = true) items item := by
  rw [List.find?_eq_some_iff_append]
  constructor
  · rintro ⟨found, before, after, split, clean⟩
    refine ⟨before, after, split, ?_, found⟩
    intro earlier present
    simpa using clean earlier present
  · rintro ⟨before, after, split, clean, found⟩
    refine ⟨found, before, after, split, ?_⟩
    intro earlier present
    simpa using clean earlier present

end First

/-- A list without a first item of some property has no such item at all. -/
theorem exists_first_or_forall_not (holds : α → Prop) (items : List α) :
    (∃ item, First holds items item) ∨ ∀ item ∈ items, ¬ holds item := by
  induction items with
  | nil => exact Or.inr (by simp)
  | cons head rest inductionHypothesis =>
      by_cases found : holds head
      · exact Or.inl ⟨head, First.of_head found rest⟩
      · rcases inductionHypothesis with ⟨item, first⟩ | clean
        · exact Or.inl ⟨item, First.of_tail found first⟩
        · apply Or.inr
          intro item present
          rcases List.mem_cons.mp present with rfl | present
          · exact found
          · exact clean item present

end Wiring
