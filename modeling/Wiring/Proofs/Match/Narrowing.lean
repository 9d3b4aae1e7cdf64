import Mathlib.Data.List.Nodup
import Wiring.Proofs.Match.Ancestors
import Wiring.Proofs.Match.Walk

/-!
# Narrower scans

A scan that takes up less than another one finds less of the same, in the same order.  It has
fewer members to check, so that it succeeds where the other does, and if it fails, the other has
failed by then.  What a successful scan finds does not depend on its rules at all; it tells of
every member on the chain whether the predicate takes it up, and nothing else.
-/

namespace Wiring

/-- The members that a scan of a type looks at; without a type there are none. -/
def MemberScope.foundOn (scope : MemberScope) : Option Lineage → List Found
  | none => []
  | some lineage => lineage.found scope

namespace MatchSet

/-- The members of a set that a predicate takes up. -/
def only (whole : MatchSet) (accepts : Member → Bool) : MatchSet :=
  { whole with members := whole.members.filter fun found => accepts found.member }

theorem members_beq_iff {left right : List Found} :
    (left == right) = true ↔ left.map Found.place = right.map Found.place := by
  induction left generalizing right with
  | nil => cases right <;> simp
  | cons head rest inductionHypothesis =>
      cases right with
      | nil => simp
      | cons other others => simp [inductionHypothesis]

/-- Sets are equal when they were found for one name and at the same places. -/
theorem beq_iff {left right : MatchSet} :
    (left == right) = true ↔
      left.root? = right.root? ∧ left.members.map Found.place = right.members.map Found.place := by
  change (left.root? == right.root? && left.members == right.members) = true ↔ _
  rw [Bool.and_eq_true, beq_iff_eq, members_beq_iff]

end MatchSet

/-- Two selections of a list in which everything has a place of its own agree on the places only
if they agree on the list. -/
theorem Found.map_place_filter_eq_iff {members : List Found} {first second : Found → Bool}
    (apart : (members.map place).Nodup) :
    (members.filter first).map place = (members.filter second).map place ↔
      ∀ found ∈ members, first found = second found := by
  have kept : ∀ {left right : Found → Bool}, (members.filter left).map place =
      (members.filter right).map place → ∀ found ∈ members, left found = true →
        right found = true := by
    intro left right same found present taken
    have placed : found.place ∈ (members.filter left).map place :=
      List.mem_map_of_mem (List.mem_filter.mpr ⟨present, taken⟩)
    rw [same] at placed
    -- Whoever was kept at that place is the member itself, as no other one has it.
    obtain ⟨other, otherTaken, samePlace⟩ := List.mem_map.mp placed
    obtain ⟨otherPresent, otherTaken⟩ := List.mem_filter.mp otherTaken
    rw [← List.inj_on_of_nodup_map apart otherPresent present samePlace]
    exact otherTaken
  constructor
  · intro same found present
    exact Bool.eq_iff_iff.mpr ⟨kept same found present, kept same.symm found present⟩
  · intro agree
    rw [List.filter_congr agree]

theorem Lineage.nodup_place_found (lineage : Lineage) (scope : MemberScope) :
    ((lineage.found scope).map Found.place).Nodup :=
  List.pairwise_map.mpr ((lineage.pairwise_foundFrom scope 0).imp Found.Before.place_ne)

namespace Scanner

variable {scanner first second narrow wide : Scanner} {lineage : Lineage}
  {root? : Option Lineage} {found : Found} {whole other : MatchSet} {error : DiscoveryError}

/-! ## The member at which a scan fails -/

/-- The last thing that the scan checks is the member, and it fails as that check does. -/
structure FailsAt (scanner : Scanner) (root? : Option Lineage) (found : Found) : Prop where
  last : (scanner.walk root?).checks.getLast? = some (.member found)
  fails : ∃ error, scanner.rules.checkMember found = .error error ∧
    (scanner.discover root?).result = .error error

theorem failsAt_of_first
    (refused : First scanner.Refuses (scanner.candidates lineage) found) :
    scanner.FailsAt (some lineage) found := by
  obtain ⟨before, after, split, passed, error, failed⟩ := refused
  have lists := scanner.lists_candidates lineage
  rw [split] at lists
  have verdict := Verdict.refused lists
    (fun earlier present => not_refuses_iff.mp (passed earlier present)) failed
  constructor
  · rw [verdict.walk_eq, List.map_append, List.map_singleton, List.getLast?_concat]
  · exact ⟨error, failed, verdict.result_discover_eq⟩

/-- Where no set is refused, a scan fails at the first member that is. -/
theorem exists_first_of_error (lenient : scanner.rules.AcceptsSets)
    (failed : (scanner.discover (some lineage)).result = .error error) :
    ∃ found, First scanner.Refuses (scanner.candidates lineage) found := by
  rcases exists_first_or_forall_not scanner.Refuses (scanner.candidates lineage) with
    refused | passed
  · exact refused
  · have succeeded := (result_discover_eq_ok_iff lenient).mpr
      ⟨fun found present => not_refuses_iff.mp (passed found present), rfl⟩
    rw [failed] at succeeded
    cases succeeded

/-! ## Two predicates -/

/-- The first scan looks where the second does and asks the same of members, but takes up none
that the second leaves alone. -/
structure Narrows (narrow wide : Scanner) : Prop where
  scope : narrow.scope = wide.scope
  rules : narrow.rules = wide.rules
  included : ∀ member, narrow.accepts member = true → wide.accepts member = true

/-- What the narrower scan takes up is what it picks out of the other's candidates. -/
theorem Narrows.candidates_eq (narrows : narrow.Narrows wide) (lineage : Lineage) :
    narrow.candidates lineage =
      (wide.candidates lineage).filter fun found => narrow.accepts found.member := by
  unfold candidates
  rw [List.filter_filter, narrows.scope]
  apply List.filter_congr
  intro found _
  exact Bool.eq_iff_iff.mpr (by simpa using narrows.included found.member)

theorem Narrows.discover (narrows : narrow.Narrows wide) (lenient : wide.rules.AcceptsSets)
    (succeeds : (wide.discover root?).result = .ok whole) :
    (narrow.discover root?).result = .ok (whole.only narrow.accepts) := by
  cases root? with
  | none =>
      cases succeeds
      rfl
  | some lineage =>
      obtain ⟨passed, rfl⟩ := (result_discover_eq_ok_iff lenient).mp succeeds
      rw [← narrows.rules] at lenient passed
      refine (result_discover_eq_ok_iff lenient).mpr ⟨?_, ?_⟩
      · intro found present
        rw [narrows.candidates_eq] at present
        exact passed found (List.mem_of_mem_filter present)
      · rw [narrows.candidates_eq, MatchSet.only]

/-- The wider scan comes upon the member that the narrower one refuses, unless it has refused
another before. -/
theorem Narrows.exists_first (narrows : narrow.Narrows wide)
    (refused : First narrow.Refuses (narrow.candidates lineage) found) :
    ∃ earlier, First wide.Refuses (wide.candidates lineage) earlier ∧
      (earlier = found ∨ earlier.Before found) := by
  have present := refused.mem
  rw [narrows.candidates_eq] at present
  have present := List.mem_of_mem_filter present
  have refuses : wide.Refuses found := by
    have refuses := refused.holds
    rw [Refuses, narrows.rules] at refuses
    exact refuses
  have ordered : (wide.candidates lineage).Pairwise Found.Before :=
    (lineage.pairwise_foundFrom wide.scope 0).filter _
  rcases exists_first_or_forall_not wide.Refuses (wide.candidates lineage) with
    ⟨earlier, earliest⟩ | passed
  · refine ⟨earlier, earliest, ?_⟩
    -- What stands before the first that is refused has passed, and the member has not.
    obtain ⟨before, after, split, passed, -⟩ := earliest
    rw [split] at present ordered
    rcases List.mem_append.mp present with present | present
    · exact absurd refuses (passed found present)
    · rcases List.mem_cons.mp present with same | present
      · exact Or.inl same.symm
      · have behind := (List.pairwise_append.mp ordered).2.1
        exact Or.inr (List.rel_of_pairwise_cons behind present)
  · exact absurd refuses (passed found present)

theorem Narrows.exists_failsAt (narrows : narrow.Narrows wide)
    (lenient : wide.rules.AcceptsSets)
    (failed : (narrow.discover root?).result = .error error) :
    ∃ found earlier, narrow.FailsAt root? found ∧ wide.FailsAt root? earlier ∧
      (earlier = found ∨ earlier.Before found) := by
  cases root? with
  | none => cases failed
  | some lineage =>
      rw [← narrows.rules] at lenient
      obtain ⟨found, refused⟩ := exists_first_of_error lenient failed
      obtain ⟨earlier, earliest, placed⟩ := narrows.exists_first refused
      exact ⟨found, earlier, failsAt_of_first refused, failsAt_of_first earliest, placed⟩

/-! ## What is found -/

/-- A scan that succeeds has found what its predicate takes up. -/
theorem eq_of_discovered (succeeds : (scanner.discover root?).result = .ok whole) :
    whole = ⟨root?.map Lineage.name,
      (scanner.scope.foundOn root?).filter fun found => scanner.accepts found.member⟩ := by
  cases root? with
  | none =>
      cases succeeds
      rfl
  | some lineage => exact (discover_succeeds_iff.mp succeeds).2.2

theorem eq_of_same_predicate (sameScope : first.scope = second.scope)
    (sameAccepts : first.accepts = second.accepts)
    (succeeds : (first.discover root?).result = .ok whole)
    (otherSucceeds : (second.discover root?).result = .ok other) : whole = other := by
  rw [eq_of_discovered succeeds, eq_of_discovered otherSucceeds, sameScope, sameAccepts]

theorem beq_iff_agree (sameScope : first.scope = second.scope)
    (succeeds : (first.discover root?).result = .ok whole)
    (otherSucceeds : (second.discover root?).result = .ok other) :
    (whole == other) = true ↔
      ∀ found ∈ first.scope.foundOn root?,
        first.accepts found.member = second.accepts found.member := by
  have apart : ((first.scope.foundOn root?).map Found.place).Nodup := by
    cases root? with
    | none => exact List.nodup_nil
    | some lineage => exact lineage.nodup_place_found first.scope
  rw [MatchSet.beq_iff, eq_of_discovered succeeds, eq_of_discovered otherSucceeds, ← sameScope,
    Found.map_place_filter_eq_iff apart]
  simp only [true_and]

/-- How the scans of one type, or of none, go together. -/
structure Consistent (root? : Option Lineage) : Prop where
  /-- A narrower scan succeeds as well, and finds those of the members that it takes up. -/
  narrowed : ∀ narrow wide : Scanner, narrow.Narrows wide → wide.rules.AcceptsSets →
    ∀ whole, (wide.discover root?).result = .ok whole →
      (narrow.discover root?).result = .ok (whole.only narrow.accepts)
  /-- A wider scan fails as well, and no later. -/
  widened : ∀ narrow wide : Scanner, narrow.Narrows wide → wide.rules.AcceptsSets →
    ∀ error, (narrow.discover root?).result = .error error →
      ∃ found earlier, narrow.FailsAt root? found ∧ wide.FailsAt root? earlier ∧
        (earlier = found ∨ earlier.Before found)
  /-- The rules decide whether anything is found, and not what. -/
  unruled : ∀ first second : Scanner, first.scope = second.scope →
    first.accepts = second.accepts →
      ∀ whole other, (first.discover root?).result = .ok whole →
        (second.discover root?).result = .ok other → whole = other
  /-- Sets are equal when their predicates agree on everything that was looked at. -/
  beq_iff : ∀ first second : Scanner, first.scope = second.scope →
    ∀ whole other, (first.discover root?).result = .ok whole →
      (second.discover root?).result = .ok other →
        ((whole == other) = true ↔
          ∀ found ∈ first.scope.foundOn root?,
            first.accepts found.member = second.accepts found.member)

/-- Scans grow with their predicates, and nothing but the predicate decides what is found. -/
theorem scans_are_consistent (root? : Option Lineage) : Consistent root? where
  narrowed _ _ narrows lenient _ succeeds := narrows.discover lenient succeeds
  widened _ _ narrows lenient _ failed := narrows.exists_failsAt lenient failed
  unruled _ _ sameScope sameAccepts _ _ succeeds otherSucceeds :=
    eq_of_same_predicate sameScope sameAccepts succeeds otherSucceeds
  beq_iff _ _ sameScope _ _ succeeds otherSucceeds :=
    beq_iff_agree sameScope succeeds otherSucceeds

end Scanner

/-! ## Bread, which is made of dough -/

namespace Bakery

open Sample (text marked)

def salt : Member :=
  { marked "resource" .field "salt" text with modifiers := { isFinal := true } }

def crust : Member :=
  { marked "context" .field "crust" text with modifiers := { isStatic := true } }

def oven : Member := marked "context" .setter "setOven" text

def dough : Declaration where
  key := 0
  name := "Dough"
  type := ⟨"Dough"⟩
  fields := [salt]
  setters := [marked "resource" .setter "setYeast" text]

def bread : Declaration where
  key := 1
  name := "Bread"
  type := ⟨"Bread"⟩
  fields := [crust, marked "resource" .field "crumb" text]
  setters := [oven]

def lineage : Lineage := .child bread Upcast.nowhere (.root dough)

def resources (member : Member) : Bool := member.hasMarker "resource"

def anything (_ : Member) : Bool := true

def scanner (scope : MemberScope) (accepts : Member → Bool) : Scanner :=
  ⟨scope, accepts, Rules.structural "resource" false⟩

/-- Among the setters the resources are picked out of all that there are.  Among the fields the
search for resources fails at the salt of the dough, and the search for anything does not get
there, as it fails at the crust of the bread. -/
theorem scans_of_bakery :
    (∃ whole, ((scanner .setters anything).discover (some lineage)).result = .ok whole ∧
      ((scanner .setters resources).discover (some lineage)).result =
        .ok (whole.only resources) ∧
      (whole == whole.only resources) = false) ∧
    ∃ found earlier, (scanner .fields resources).FailsAt (some lineage) found ∧
      (scanner .fields anything).FailsAt (some lineage) earlier ∧ earlier.Before found ∧
        found.member = salt ∧ earlier.member = crust := by
  have consistent := Scanner.scans_are_consistent (some lineage)
  have narrows : ∀ scope, (scanner scope resources).Narrows (scanner scope anything) :=
    fun _ => ⟨rfl, rfl, fun _ _ => rfl⟩
  have lenient : (Rules.structural "resource" false).AcceptsSets := fun _ => rfl
  have succeeds : ∃ whole,
      ((scanner .setters anything).discover (some lineage)).result = .ok whole := ⟨_, rfl⟩
  obtain ⟨whole, succeeds⟩ := succeeds
  have narrowed := consistent.narrowed _ _ (narrows .setters) lenient whole succeeds
  refine ⟨⟨whole, succeeds, narrowed, ?_⟩, ?_⟩
  · have agree_iff := consistent.beq_iff (scanner .setters anything) (scanner .setters resources)
      rfl whole _ succeeds narrowed
    rw [Bool.eq_false_iff, ne_eq]
    intro equal
    have agree := agree_iff.mp equal
    have present : (⟨bread, .setters, 0, oven, 0⟩ : Found) ∈
        MemberScope.setters.foundOn (some lineage) := List.mem_cons_self
    exact absurd (agree _ present) (by decide)
  · have refused : ((scanner .fields resources).discover (some lineage)).result =
        .error (.structural "Dough" "salt" .field "resource" .final) := rfl
    obtain ⟨found, earlier, fails, failsEarlier, placed⟩ :=
      consistent.widened _ _ (narrows .fields) lenient _ refused
    have atSalt : found = ⟨dough, .fields, 0, salt, 1⟩ :=
      Check.member.inj (Option.some.inj (fails.last.symm.trans rfl))
    have atCrust : earlier = ⟨bread, .fields, 0, crust, 0⟩ :=
      Check.member.inj (Option.some.inj (failsEarlier.last.symm.trans rfl))
    subst atSalt atCrust
    refine ⟨_, _, fails, failsEarlier, placed.resolve_left ?_, rfl, rfl⟩
    intro same
    exact absurd (congrArg Found.depth same) (by decide)

end Bakery

end Wiring
