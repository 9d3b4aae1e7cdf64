import Wiring.Match.Predicate
import Wiring.Match.Rules
import Wiring.Pass

/-!
# Scans

A scan walks along the chain of a type, takes up the members that its predicate
accepts, checks each of them in the order in which it comes upon it, and checks
the whole set at the end.  The first member that fails its check ends the scan;
the members after it are not looked at.  A scan of no type finds nothing and
checks nothing.
-/

namespace Wiring

/-- What a scan looks at, takes up and checks. -/
structure Scanner where
  scope : MemberScope
  accepts : Member → Bool
  rules : Rules

namespace Scanner

/-- Check one member; only a member that passes is logged. -/
def check (scanner : Scanner) (found : Found) : Pass Unit := do
  Pass.check (scanner.rules.checkMember found)
  Pass.note (.accepted found.qualifiedName found.depth)

/-- Check members in order, as far as the first that fails. -/
def checkAll (scanner : Scanner) : List Found → Pass Unit
  | [] => pure ()
  | found :: rest => do
      scanner.check found
      scanner.checkAll rest

/-- The members along a chain that the predicate takes up. -/
def candidates (scanner : Scanner) (lineage : Lineage) : List Found :=
  (lineage.found scanner.scope).filter fun found => scanner.accepts found.member

/-- The match set of a type, or of no type. -/
def discover (scanner : Scanner) : Option Lineage → Pass MatchSet
  | none => do
      Pass.note (.discovering scanner.scope none)
      return MatchSet.empty none
  | some lineage => do
      Pass.note (.discovering scanner.scope (some lineage.name))
      scanner.checkAll (scanner.candidates lineage)
      let accepted : MatchSet := ⟨some lineage.name, scanner.candidates lineage⟩
      Pass.check (scanner.rules.checkSet accepted)
      return accepted

@[simp]
theorem checkAll_nil (scanner : Scanner) : scanner.checkAll [] = pure () :=
  rfl

theorem checkAll_cons (scanner : Scanner) (found : Found) (rest : List Found) :
    scanner.checkAll (found :: rest) = (do scanner.check found; scanner.checkAll rest) :=
  rfl

/-- A member passes exactly when its check does. -/
@[simp]
theorem result_check (scanner : Scanner) (found : Found) :
    (scanner.check found).result = scanner.rules.checkMember found := by
  unfold check
  rw [Pass.result_bind]
  cases checked : scanner.rules.checkMember found <;> simp [Except.bind]

/-- A scan of no type answers with the empty set. -/
@[simp]
theorem result_discover_none (scanner : Scanner) :
    (scanner.discover none).result = .ok (MatchSet.empty none) :=
  rfl

end Scanner

end Wiring
