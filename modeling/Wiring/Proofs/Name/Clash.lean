import Mathlib.Data.List.Nodup
import Wiring.Match.Naming

/-!
# Clashes of names

The search for a clash keeps what it has passed.  As long as it finds none, the
names it has passed are distinct, so that the binding that claimed a repeated name
first is the only one that it can report.
-/

namespace Wiring.Binding

variable {claimed bindings : List Binding} {binding first second : Binding}

/-- No two bindings of the list have one name. -/
def Distinct (bindings : List Binding) : Prop :=
  (bindings.map (·.name)).Nodup

/-- The second binding is the earliest whose name was claimed before, and the
first is the one that claimed it. -/
def Clashes (bindings : List Binding) (first second : Binding) : Prop :=
  ∃ before after, bindings = before ++ second :: after ∧ Distinct before ∧
    first ∈ before ∧ first.name = second.name

theorem distinct_nil : Distinct [] :=
  List.nodup_nil

theorem distinct_append_singleton_iff :
    Distinct (claimed ++ [binding]) ↔
      Distinct claimed ∧ ∀ earlier ∈ claimed, earlier.name ≠ binding.name := by
  unfold Distinct
  rw [List.map_append, List.nodup_append']
  simp [List.disjoint_singleton]

/-- A name has only one claimant. -/
theorem Distinct.eq_of_name_eq (distinct : Distinct bindings) (firstMem : first ∈ bindings)
    (secondMem : second ∈ bindings) (same : first.name = second.name) : first = second :=
  List.inj_on_of_nodup_map distinct firstMem secondMem same

theorem Distinct.of_append {before after : List Binding} (distinct : Distinct (before ++ after)) :
    Distinct before := by
  unfold Distinct at distinct ⊢
  rw [List.map_append] at distinct
  exact distinct.of_append_left

/-! ## One step of the search -/

/-- A clash among bindings of which some have been passed already. -/
def ClashesAfter (claimed bindings : List Binding) (first second : Binding) : Prop :=
  ∃ before after, bindings = before ++ second :: after ∧ Distinct (claimed ++ before) ∧
    first ∈ claimed ++ before ∧ first.name = second.name

theorem not_distinct_of_claimed {earlier : Binding} (present : earlier ∈ claimed)
    (sameName : earlier.name = binding.name) (rest : List Binding) :
    ¬ Distinct (claimed ++ binding :: rest) := by
  intro distinct
  rw [List.append_cons] at distinct
  have fresh := (distinct_append_singleton_iff.mp distinct.of_append).2
  exact fresh earlier present sameName

/-- A binding whose name was claimed clashes with the claimant, and the search goes no
further. -/
theorem clashesAfter_cons_of_claimed {earlier : Binding} (distinct : Distinct claimed)
    (present : earlier ∈ claimed) (sameName : earlier.name = binding.name)
    (rest : List Binding) :
    ClashesAfter claimed (binding :: rest) first second ↔ earlier = first ∧ binding = second := by
  constructor
  · rintro ⟨before, after, split, distinctBefore, firstMem, firstName⟩
    cases before with
    | nil =>
        simp only [List.nil_append, List.cons.injEq] at split
        rcases split with ⟨rfl, -⟩
        rw [List.append_nil] at firstMem
        exact ⟨distinct.eq_of_name_eq present firstMem (sameName.trans firstName.symm), rfl⟩
    | cons passed before =>
        simp only [List.cons_append, List.cons.injEq] at split
        rcases split with ⟨rfl, -⟩
        exact absurd distinctBefore (not_distinct_of_claimed present sameName before)
  · rintro ⟨rfl, rfl⟩
    exact ⟨[], rest, rfl, by simpa using distinct, by simpa using present, sameName⟩

/-- A binding whose name was not claimed joins those that are passed. -/
theorem clashesAfter_cons_of_unclaimed
    (fresh : ∀ earlier ∈ claimed, earlier.name ≠ binding.name) (rest : List Binding) :
    ClashesAfter claimed (binding :: rest) first second ↔
      ClashesAfter (claimed ++ [binding]) rest first second := by
  constructor
  · rintro ⟨before, after, split, distinctBefore, firstMem, sameName⟩
    cases before with
    | nil =>
        simp only [List.nil_append, List.cons.injEq] at split
        rcases split with ⟨rfl, -⟩
        rw [List.append_nil] at firstMem
        exact absurd sameName (fresh first firstMem)
    | cons passed before =>
        simp only [List.cons_append, List.cons.injEq] at split
        rcases split with ⟨rfl, rfl⟩
        rw [List.append_cons] at distinctBefore firstMem
        exact ⟨before, after, rfl, distinctBefore, firstMem, sameName⟩
  · rintro ⟨before, after, rfl, distinctBefore, firstMem, sameName⟩
    rw [← List.append_cons] at distinctBefore firstMem
    exact ⟨binding :: before, after, rfl, distinctBefore, firstMem, sameName⟩

/-! ## The whole search -/

/-- What the search has passed joins the list that it looks at. -/
theorem clashAfter?_eq_some_iff (distinct : Distinct claimed) :
    clashAfter? claimed bindings = some (first, second) ↔
      ClashesAfter claimed bindings first second := by
  induction bindings generalizing claimed with
  | nil => simp [clashAfter?, ClashesAfter]
  | cons head rest inductionHypothesis =>
      cases claimant : claimed.find? (·.name == head.name) with
      | some earlier =>
          have sameName : earlier.name = head.name := by
            simpa using List.find?_some claimant
          rw [clashesAfter_cons_of_claimed distinct (List.mem_of_find?_eq_some claimant) sameName]
          simp [clashAfter?, claimant]
      | none =>
          have fresh : ∀ earlier ∈ claimed, earlier.name ≠ head.name := by
            simpa using claimant
          have extended := distinct_append_singleton_iff.mpr ⟨distinct, fresh⟩
          rw [clashesAfter_cons_of_unclaimed fresh, ← inductionHypothesis extended]
          simp [clashAfter?, claimant]

theorem clash?_eq_some_iff :
    clash? bindings = some (first, second) ↔ Clashes bindings first second :=
  clashAfter?_eq_some_iff distinct_nil

theorem clashAfter?_eq_none_iff (distinct : Distinct claimed) :
    clashAfter? claimed bindings = none ↔ Distinct (claimed ++ bindings) := by
  induction bindings generalizing claimed with
  | nil => simpa [clashAfter?] using distinct
  | cons head rest inductionHypothesis =>
      cases claimant : claimed.find? (·.name == head.name) with
      | some earlier =>
          have sameName : earlier.name = head.name := by
            simpa using List.find?_some claimant
          have clashing := not_distinct_of_claimed (List.mem_of_find?_eq_some claimant) sameName rest
          simp [clashAfter?, claimant, clashing]
      | none =>
          have fresh : ∀ earlier ∈ claimed, earlier.name ≠ head.name := by
            simpa using claimant
          have extended := distinct_append_singleton_iff.mpr ⟨distinct, fresh⟩
          rw [List.append_cons, ← inductionHypothesis extended]
          simp [clashAfter?, claimant]

theorem clash?_eq_none_iff : clash? bindings = none ↔ Distinct bindings :=
  clashAfter?_eq_none_iff distinct_nil

/-- The comparison of names succeeds exactly when there is nothing to report. -/
theorem ensureDistinct_eq_ok_iff : ensureDistinct bindings = .ok () ↔ Distinct bindings := by
  rw [← clash?_eq_none_iff]
  unfold ensureDistinct
  cases clash? bindings <;> simp

end Wiring.Binding
