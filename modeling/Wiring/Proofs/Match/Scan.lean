import Wiring.Match.Scan
import Wiring.Proofs.First

/-!
# The answers of scans

A scan answers as its first refused member does, and with all its candidates if
none is refused and the set as a whole is not either.  What was logged on the way
plays no part in the answer.
-/

namespace Wiring

namespace Scanner

variable {scanner : Scanner} {members : List Found} {found : Found}

/-- A check of the scan turns the member down. -/
def Refuses (scanner : Scanner) (found : Found) : Prop :=
  ∃ error, scanner.rules.checkMember found = .error error

theorem not_refuses_iff : ¬ scanner.Refuses found ↔ scanner.rules.checkMember found = .ok () := by
  unfold Refuses
  cases scanner.rules.checkMember found <;> simp

theorem result_checkAll_cons (scanner : Scanner) (found : Found) (rest : List Found) :
    (scanner.checkAll (found :: rest)).result =
      (scanner.rules.checkMember found).bind fun _ => (scanner.checkAll rest).result := by
  rw [checkAll_cons, Pass.result_bind, result_check]

/-- The checks succeed exactly when no member is refused. -/
theorem result_checkAll_eq_ok_iff :
    (scanner.checkAll members).result = .ok () ↔
      ∀ found ∈ members, scanner.rules.checkMember found = .ok () := by
  induction members with
  | nil => simp
  | cons head rest inductionHypothesis =>
      rw [result_checkAll_cons]
      cases checked : scanner.rules.checkMember head with
      | error error => simp [Except.bind, checked]
      | ok _ => simpa [Except.bind, checked] using inductionHypothesis

/-- The first refused member decides, whatever comes after it. -/
theorem result_checkAll_of_first (first : First scanner.Refuses members found) :
    (scanner.checkAll members).result = scanner.rules.checkMember found := by
  induction members with
  | nil => exact absurd first First.not_nil
  | cons head rest inductionHypothesis =>
      rw [result_checkAll_cons]
      rcases First.cons_iff.mp first with ⟨⟨error, refused⟩, rfl⟩ | ⟨passed, later⟩
      · rw [refused]
        rfl
      · rw [not_refuses_iff.mp passed]
        exact inductionHypothesis later

/-- Members that pass or fail in the place of others do so in a list of them as well. -/
theorem result_checkAll_map {change : Found → Found}
    (alike : ∀ found, scanner.rules.checkMember (change found) = scanner.rules.checkMember found)
    (members : List Found) :
    (scanner.checkAll (members.map change)).result = (scanner.checkAll members).result := by
  induction members with
  | nil => rfl
  | cons head rest inductionHypothesis =>
      rw [List.map_cons, result_checkAll_cons, result_checkAll_cons, alike, inductionHypothesis]

/-- The members are checked before the set that they make. -/
theorem result_discover (scanner : Scanner) (lineage : Lineage) :
    (scanner.discover (some lineage)).result =
      (scanner.checkAll (scanner.candidates lineage)).result.bind fun _ =>
        (scanner.rules.checkSet ⟨some lineage.name, scanner.candidates lineage⟩).map fun _ =>
          ⟨some lineage.name, scanner.candidates lineage⟩ := by
  unfold discover
  rw [Pass.result_bind_of_ok _ (Pass.result_note _), Pass.result_bind]
  congr 1
  funext _
  rw [Pass.result_bind, Pass.result_check]
  cases scanner.rules.checkSet ⟨some lineage.name, scanner.candidates lineage⟩ <;> rfl

/-- A scan succeeds when it refuses neither a member nor the whole set. -/
theorem discover_succeeds_iff {lineage : Lineage} {accepted : MatchSet} :
    (scanner.discover (some lineage)).result = .ok accepted ↔
      (∀ found ∈ scanner.candidates lineage, scanner.rules.checkMember found = .ok ()) ∧
        scanner.rules.checkSet ⟨some lineage.name, scanner.candidates lineage⟩ = .ok () ∧
          accepted = ⟨some lineage.name, scanner.candidates lineage⟩ := by
  rw [result_discover, ← result_checkAll_eq_ok_iff]
  cases (scanner.checkAll (scanner.candidates lineage)).result with
  | error error => simp [Except.bind]
  | ok _ =>
      cases scanner.rules.checkSet ⟨some lineage.name, scanner.candidates lineage⟩ with
      | error error => simp [Except.bind, Except.map]
      | ok _ => simp [Except.bind, Except.map, eq_comm]

/-- A refused candidate makes the whole scan fail. -/
theorem result_discover_error_of_refuses {lineage : Lineage}
    (present : found ∈ scanner.candidates lineage) (refused : scanner.Refuses found) :
    ∃ error, (scanner.discover (some lineage)).result = .error error := by
  rw [result_discover]
  cases checked : (scanner.checkAll (scanner.candidates lineage)).result with
  | error error => exact ⟨error, rfl⟩
  | ok _ =>
      have passed := result_checkAll_eq_ok_iff.mp checked found present
      exact absurd refused (not_refuses_iff.mpr passed)

end Scanner

end Wiring
