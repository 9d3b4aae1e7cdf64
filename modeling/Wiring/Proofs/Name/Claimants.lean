import Std.Data.HashMap.Lemmas
import Wiring.Proofs.Name.Clash

/-!
# Who claims a name first

Names are compared by a walk through the bindings with a table of who claimed which name.  Each
binding is entered under its name, in the place of whoever stood there, and the walk ends when
somebody did.  Until then nobody is displaced, so that the table holds exactly the bindings that
were passed.  Told by positions, the walk ends at the first one at which a name returns; what
stands behind that position is never looked at.
-/

namespace Wiring

theorem BindingName.text_inj {left right : BindingName} :
    left.text = right.text ↔ left = right := by
  cases left
  cases right
  simp

namespace Binding

variable {bindings passed others : List Binding} {binding first second : Binding}
  {claimants : Std.HashMap String Found} {position limit : Nat}

/-! ## The walk with a table -/

/-- Enter bindings one after the other under their names, until one displaces another. -/
def enterAll (claimants : Std.HashMap String Found) :
    List Binding → Except DiscoveryError Unit
  | [] => .ok ()
  | binding :: rest =>
      -- The binding is entered before it is known whether it displaces another.
      let displaced? := claimants[binding.name.text]?
      let claimants := claimants.insert binding.name.text binding.found
      match displaced? with
      | some first =>
          .error (.duplicateBindingName binding.name.text first.qualifiedName
            binding.found.qualifiedName)
      | none => enterAll claimants rest

/-- The answer to the search for a clash. -/
def report : Option (Binding × Binding) → Except DiscoveryError Unit
  | none => .ok ()
  | some (first, second) =>
      .error (.duplicateBindingName second.name.text first.found.qualifiedName
        second.found.qualifiedName)

theorem ensureDistinct_eq_report (bindings : List Binding) :
    ensureDistinct bindings = report (clash? bindings) := by
  unfold ensureDistinct
  cases clash? bindings <;> rfl

/-- Under each name the table holds the binding with that name among those that were passed. -/
def Records (claimants : Std.HashMap String Found) (passed : List Binding) : Prop :=
  ∀ name : BindingName,
    claimants[name.text]? = (passed.find? (·.name == name)).map (·.found)

theorem records_nil : Records ∅ [] := by
  intro name
  rw [Std.HashMap.getElem?_empty, List.find?_nil, Option.map_none]

/-- A binding under a fresh name joins the table and displaces nobody. -/
theorem Records.insert (records : Records claimants passed)
    (fresh : passed.find? (·.name == binding.name) = none) :
    Records (claimants.insert binding.name.text binding.found) (passed ++ [binding]) := by
  intro name
  rw [Std.HashMap.getElem?_insert, List.find?_append]
  by_cases same : binding.name = name
  · rw [← same, fresh]
    simp
  · have otherText : binding.name.text ≠ name.text := mt BindingName.text_inj.mp same
    simp [otherText, same, records name]

/-- The table answers as the list of those that were passed does. -/
theorem enterAll_eq_report (records : Records claimants passed) :
    enterAll claimants bindings = report (clashAfter? passed bindings) := by
  induction bindings generalizing claimants passed with
  | nil => rfl
  | cons head rest inductionHypothesis =>
      have displaced := records head.name
      cases claimant : passed.find? (·.name == head.name) with
      | some earlier =>
          rw [claimant] at displaced
          simp [enterAll, clashAfter?, claimant, displaced, report]
      | none =>
          rw [claimant] at displaced
          simp [enterAll, clashAfter?, claimant, displaced,
            inductionHypothesis (records.insert claimant)]

theorem enterAll_empty (bindings : List Binding) :
    enterAll ∅ bindings = ensureDistinct bindings := by
  rw [enterAll_eq_report records_nil, ensureDistinct_eq_report, clash?]

/-! ## Positions -/

/-- The binding at the position has the name of one that stands before it. -/
def RepeatsAt (bindings : List Binding) (position : Nat) : Prop :=
  ∃ earlier < position, ∃ first second, bindings[earlier]? = some first ∧
    bindings[position]? = some second ∧ first.name = second.name

/-- At the position a name returns for the first time: the second binding stands there, and the
first one had the name before it. -/
structure ReturnsAt (bindings : List Binding) (position : Nat) (first second : Binding) :
    Prop where
  returned : bindings[position]? = some second
  claimed : ∃ earlier < position, bindings[earlier]? = some first ∧ first.name = second.name
  least : ∀ lower < position, ¬ RepeatsAt bindings lower

theorem distinct_iff_pairwise :
    Distinct bindings ↔ bindings.Pairwise fun first second => first.name ≠ second.name :=
  List.pairwise_map

/-- Names are distinct as far as none of them repeats an earlier one. -/
theorem distinct_take_iff :
    Distinct (bindings.take limit) ↔ ∀ position < limit, ¬ RepeatsAt bindings position := by
  rw [distinct_iff_pairwise, List.pairwise_iff_getElem]
  constructor
  · rintro apart position within ⟨earlier, before, first, second, atEarlier, atPosition, same⟩
    rw [← List.getElem?_take_of_lt (Nat.lt_trans before within)] at atEarlier
    rw [← List.getElem?_take_of_lt within] at atPosition
    obtain ⟨earlierBound, rfl⟩ := List.getElem?_eq_some_iff.mp atEarlier
    obtain ⟨positionBound, rfl⟩ := List.getElem?_eq_some_iff.mp atPosition
    exact apart earlier position earlierBound positionBound before same
  · intro single earlier position earlierBound positionBound before same
    have within : position < limit :=
      Nat.lt_of_lt_of_le positionBound (List.length_take_le limit bindings)
    refine single position within ⟨earlier, before, _, _, ?_, ?_, same⟩
    · rw [← List.getElem?_take_of_lt (Nat.lt_trans before within)]
      exact List.getElem?_eq_getElem earlierBound
    · rw [← List.getElem?_take_of_lt within]
      exact List.getElem?_eq_getElem positionBound

/-- Only one binding before the position has the name that returns there. -/
theorem ReturnsAt.existsUnique (returns : ReturnsAt bindings position first second) :
    ∃! earlier, earlier < position ∧
      ∃ claimant, bindings[earlier]? = some claimant ∧ claimant.name = second.name := by
  obtain ⟨earlier, before, atEarlier, same⟩ := returns.claimed
  refine ⟨earlier, ⟨before, first, atEarlier, same⟩, ?_⟩
  rintro other ⟨otherBefore, claimant, atOther, otherSame⟩
  rcases Nat.lt_trichotomy other earlier with lower | equal | higher
  · exact absurd ⟨other, lower, claimant, first, atOther, atEarlier, otherSame.trans same.symm⟩
      (returns.least earlier before)
  · exact equal
  · exact absurd ⟨earlier, higher, first, claimant, atEarlier, atOther, same.trans otherSame.symm⟩
      (returns.least other otherBefore)

theorem returnsAt_length {before after : List Binding} (distinct : Distinct before)
    (firstMem : first ∈ before) (same : first.name = second.name) :
    ReturnsAt (before ++ second :: after) before.length first second where
  returned := by
    rw [List.getElem?_append_right (Nat.le_refl _), Nat.sub_self, List.getElem?_cons_zero]
  claimed := by
    obtain ⟨earlier, atEarlier⟩ := List.mem_iff_getElem?.mp firstMem
    have bound := (List.getElem?_eq_some_iff.mp atEarlier).1
    exact ⟨earlier, bound, by rw [List.getElem?_append_left bound, atEarlier], same⟩
  least := by
    rw [← distinct_take_iff, List.take_left]
    exact distinct

/-- A name returns at a position when the bindings up to it, and whatever comes after, make a
clash. -/
theorem ReturnsAt.clashes (returns : ReturnsAt bindings position first second)
    (alike : others.take (position + 1) = bindings.take (position + 1)) :
    Clashes others first second := by
  obtain ⟨earlier, before, atEarlier, same⟩ := returns.claimed
  refine ⟨bindings.take position, others.drop (position + 1), ?_,
    distinct_take_iff.mpr returns.least, ?_, same⟩
  · conv_lhs => rw [← List.take_append_drop (position + 1) others]
    rw [alike, List.take_add_one, returns.returned, Option.toList_some, List.append_assoc,
      List.singleton_append]
  · rw [← List.getElem?_take_of_lt before] at atEarlier
    exact List.mem_of_getElem? atEarlier

theorem clashes_iff_returnsAt :
    Clashes bindings first second ↔ ∃ position, ReturnsAt bindings position first second := by
  constructor
  · rintro ⟨before, after, rfl, distinct, firstMem, same⟩
    exact ⟨before.length, returnsAt_length distinct firstMem same⟩
  · rintro ⟨position, returns⟩
    exact returns.clashes rfl

/-! ## The report -/

theorem Clashes.ensureDistinct_eq (clashes : Clashes bindings first second) :
    ensureDistinct bindings =
      .error (.duplicateBindingName second.name.text first.found.qualifiedName
        second.found.qualifiedName) := by
  rw [ensureDistinct_eq_report, clash?_eq_some_iff.mpr clashes, report]

/-- The comparison of names reports the first return of a name, and nothing else. -/
structure ReportsReturn (bindings : List Binding) : Prop where
  ok_iff : ensureDistinct bindings = .ok () ↔
    bindings.Pairwise fun first second => first.name ≠ second.name
  returns : (¬ bindings.Pairwise fun first second => first.name ≠ second.name) →
    ∃ position first second, ReturnsAt bindings position first second
  reported : ∀ position first second, ReturnsAt bindings position first second →
    ensureDistinct bindings =
      .error (.duplicateBindingName second.name.text first.found.qualifiedName
        second.found.qualifiedName)
  unique : ∀ position first second, ReturnsAt bindings position first second →
    ∃! earlier, earlier < position ∧
      ∃ claimant, bindings[earlier]? = some claimant ∧ claimant.name = second.name
  /-- Other bindings behind the position would be answered alike. -/
  unread : ∀ position first second, ReturnsAt bindings position first second →
    ∀ others : List Binding, others.take (position + 1) = bindings.take (position + 1) →
      ensureDistinct others = ensureDistinct bindings
  /-- The walk with a table answers the same. -/
  enterAll : enterAll ∅ bindings = ensureDistinct bindings

/-- Bindings are accepted when their names are distinct; otherwise the first binding whose name
was claimed before is reported, with the only one that claimed it. -/
theorem comparison_reports_return (bindings : List Binding) : ReportsReturn bindings where
  ok_iff := by rw [ensureDistinct_eq_ok_iff, distinct_iff_pairwise]
  returns := by
    intro repeated
    rw [← distinct_iff_pairwise, ← clash?_eq_none_iff] at repeated
    obtain ⟨⟨first, second⟩, clash⟩ := Option.ne_none_iff_exists'.mp repeated
    obtain ⟨position, returns⟩ := clashes_iff_returnsAt.mp (clash?_eq_some_iff.mp clash)
    exact ⟨position, first, second, returns⟩
  reported _ _ _ returns := (returns.clashes rfl).ensureDistinct_eq
  unique _ _ _ returns := returns.existsUnique
  unread _ _ _ returns others alike := by
    rw [(returns.clashes alike).ensureDistinct_eq, (returns.clashes rfl).ensureDistinct_eq]
  enterAll := enterAll_empty bindings

end Binding

end Wiring
