import Wiring.Proofs.Match.Scan
import Wiring.Proofs.Plan.Order
import Wiring.Proofs.Sample

/-!
# Scans of ancestors

To scan a type is to check the members of its lowest levels and then to do what a scan of the
ancestor above them does.  Checks that take no notice of the depth of a member cannot tell the
two scans apart, so that the one succeeds and fails with the other as soon as the lowest
levels have passed.
-/

namespace Wiring

namespace Rules

/-- The check of a member takes no notice of its depth. -/
def IgnoresDepth (rules : Rules) : Prop :=
  ∀ (found : Found) (depth : Nat),
    rules.checkMember { found with depth := depth } = rules.checkMember found

/-- No set is refused as a whole. -/
def AcceptsSets (rules : Rules) : Prop :=
  ∀ accepted, rules.checkSet accepted = .ok ()

end Rules

namespace Lineage

variable {lineage ancestor base : Lineage} {scope : MemberScope} {height : Nat} {found : Found}

/-- All members of one scope on so many levels of the chain, own level first. -/
def foundBelow (lineage : Lineage) (scope : MemberScope) (height : Nat) : List Found :=
  ((lineage.levels.take height).mapIdx fun depth declaration =>
    declaration.found scope depth).flatten

theorem depth_lt_of_mem_foundBelow (present : found ∈ lineage.foundBelow scope height) :
    found.depth < height := by
  obtain ⟨level, listed, present⟩ := List.mem_flatten.mp present
  obtain ⟨depth, bound, rfl⟩ := List.mem_mapIdx.mp listed
  rw [(Declaration.mem_found_iff.mp present).2.2.1]
  exact Nat.lt_of_lt_of_le bound (List.length_take_le height lineage.levels)

theorem drop_levels (above : lineage.ancestors[height]? = some ancestor) :
    lineage.levels.drop height = ancestor.levels := by
  unfold levels
  rw [← List.map_drop, drop_ancestors above]

/-- What is found along a chain is what is found on its lowest levels, followed by what the
ancestor above them finds. -/
theorem found_eq_append (above : lineage.ancestors[height]? = some ancestor)
    (scope : MemberScope) :
    lineage.found scope =
      lineage.foundBelow scope height ++ (ancestor.found scope).map (Found.deeper height) := by
  have within : height ≤ lineage.levels.length := by
    unfold levels
    rw [List.length_map]
    exact Nat.le_of_lt (List.getElem?_eq_some_iff.mp above).1
  have shifted : (ancestor.found scope).map (Found.deeper height) =
      (ancestor.levels.mapIdx fun depth declaration =>
        declaration.found scope (depth + height)).flatten := by
    unfold found
    rw [← foundFrom_add, foundFrom_eq_flatten]
    simp only [Nat.zero_add, Nat.add_comm height]
  rw [found_eq_flatten, foundBelow, shifted]
  conv_lhs => rw [← List.take_append_drop height lineage.levels]
  rw [List.mapIdx_append, List.flatten_append, List.length_take_of_le within, drop_levels above]

/-- A type that ends where the levels end finds nothing else than they do. -/
theorem found_eq_foundBelow (ends : base.levels = lineage.levels.take height)
    (scope : MemberScope) : base.found scope = lineage.foundBelow scope height := by
  rw [found_eq_flatten, ends, foundBelow]

/-- What is found further down comes first. -/
theorem pairwise_depth_found (lineage : Lineage) (scope : MemberScope) :
    (lineage.found scope).Pairwise fun first second => first.depth ≤ second.depth := by
  refine (lineage.pairwise_foundFrom scope 0).imp_of_mem ?_
  intro first second firstMem secondMem before
  have sameScope := (depth_le_of_mem_foundFrom firstMem).2.trans
    (depth_le_of_mem_foundFrom secondMem).2.symm
  rcases before with ⟨field, setter⟩ | ⟨-, lower | ⟨level, -⟩⟩
  · rw [field, setter] at sameScope
    contradiction
  · exact Nat.le_of_lt lower
  · exact Nat.le_of_eq level

end Lineage

namespace Scanner

variable {scanner : Scanner} {lineage ancestor : Lineage} {height : Nat}

/-- The members on so many levels of the chain that the predicate takes up. -/
def candidatesBelow (scanner : Scanner) (lineage : Lineage) (height : Nat) : List Found :=
  (lineage.foundBelow scanner.scope height).filter fun found => scanner.accepts found.member

theorem candidates_eq_append (above : lineage.ancestors[height]? = some ancestor) :
    scanner.candidates lineage =
      scanner.candidatesBelow lineage height ++
        (scanner.candidates ancestor).map (Found.deeper height) := by
  unfold candidates candidatesBelow
  rw [Lineage.found_eq_append above, List.filter_append, List.filter_map]
  rfl

theorem result_checkAll_append (scanner : Scanner) (lower upper : List Found) :
    (scanner.checkAll (lower ++ upper)).result =
      (scanner.checkAll lower).result.bind fun _ => (scanner.checkAll upper).result := by
  induction lower with
  | nil => rfl
  | cons head rest inductionHypothesis =>
      rw [List.cons_append, result_checkAll_cons, result_checkAll_cons, inductionHypothesis]
      cases scanner.rules.checkMember head <;> rfl

/-- Where no set is refused, a scan succeeds when all its candidates pass. -/
theorem result_discover_eq_ok_iff (lenient : scanner.rules.AcceptsSets) {whole : MatchSet} :
    (scanner.discover (some lineage)).result = .ok whole ↔
      (∀ found ∈ scanner.candidates lineage, scanner.rules.checkMember found = .ok ()) ∧
        whole = ⟨some lineage.name, scanner.candidates lineage⟩ := by
  rw [discover_succeeds_iff, lenient]
  simp only [true_and]

/-- The lowest levels are checked, and the rest is left to the scan of the ancestor. -/
theorem result_discover_of_ancestor (ignores : scanner.rules.IgnoresDepth)
    (lenient : scanner.rules.AcceptsSets)
    (above : lineage.ancestors[height]? = some ancestor) :
    (scanner.discover (some lineage)).result =
      (scanner.checkAll (scanner.candidatesBelow lineage height)).result.bind fun _ =>
        (scanner.discover (some ancestor)).result.map fun upper =>
          ⟨some lineage.name, scanner.candidatesBelow lineage height ++
            upper.members.map (Found.deeper height)⟩ := by
  have alike : ∀ found : Found, scanner.rules.checkMember (found.deeper height) =
      scanner.rules.checkMember found := fun found => ignores found (found.depth + height)
  rw [result_discover, result_discover, lenient, lenient, candidates_eq_append above,
    result_checkAll_append, result_checkAll_map alike]
  cases (scanner.checkAll (scanner.candidatesBelow lineage height)).result with
  | error error => rfl
  | ok _ => cases (scanner.checkAll (scanner.candidates ancestor)).result <;> rfl

theorem result_discover_eq_ok_iff_of_ancestor (ignores : scanner.rules.IgnoresDepth)
    (lenient : scanner.rules.AcceptsSets)
    (above : lineage.ancestors[height]? = some ancestor) {whole : MatchSet} :
    (scanner.discover (some lineage)).result = .ok whole ↔
      (∀ found ∈ scanner.candidatesBelow lineage height,
          scanner.rules.checkMember found = .ok ()) ∧
        ∃ upper, (scanner.discover (some ancestor)).result = .ok upper ∧
          whole = ⟨some lineage.name, scanner.candidatesBelow lineage height ++
            upper.members.map (Found.deeper height)⟩ := by
  rw [← result_checkAll_eq_ok_iff, result_discover_of_ancestor ignores lenient above]
  cases (scanner.checkAll (scanner.candidatesBelow lineage height)).result with
  | error error => simp [Except.bind]
  | ok _ =>
      cases (scanner.discover (some ancestor)).result with
      | error error => simp [Except.bind, Except.map]
      | ok upper => simp [Except.bind, Except.map, eq_comm]

/-- A chain that ends where the lowest levels end is scanned as they are. -/
theorem result_discover_of_take {base : Lineage} (lenient : scanner.rules.AcceptsSets)
    (ends : base.levels = lineage.levels.take height)
    (passed : ∀ found ∈ scanner.candidatesBelow lineage height,
      scanner.rules.checkMember found = .ok ()) :
    (scanner.discover (some base)).result =
      .ok ⟨some base.name, scanner.candidatesBelow lineage height⟩ := by
  have same : scanner.candidates base = scanner.candidatesBelow lineage height := by
    unfold candidates candidatesBelow
    rw [Lineage.found_eq_foundBelow ends]
  rw [result_discover_eq_ok_iff lenient, same]
  exact ⟨passed, rfl⟩

/-- The scan of a type against that of the ancestor so many levels above it. -/
structure Extends (scanner : Scanner) (lineage ancestor : Lineage) (height : Nat) : Prop where
  /-- The scan succeeds where the lowest levels pass and the ancestor's scan succeeds. -/
  ok_iff : (∃ whole, (scanner.discover (some lineage)).result = .ok whole) ↔
    (∀ found ∈ scanner.candidatesBelow lineage height,
        scanner.rules.checkMember found = .ok ()) ∧
      ∃ upper, (scanner.discover (some ancestor)).result = .ok upper
  /-- The lowest levels come first, and then all that the ancestor's scan accepts. -/
  members : ∀ whole upper, (scanner.discover (some lineage)).result = .ok whole →
    (scanner.discover (some ancestor)).result = .ok upper →
      whole.members = scanner.candidatesBelow lineage height ++
        upper.members.map (Found.deeper height)
  below : ∀ found ∈ scanner.candidatesBelow lineage height, found.depth < height
  /-- Behind levels that pass, the ancestor's failure is the failure. -/
  error : (∀ found ∈ scanner.candidatesBelow lineage height,
      scanner.rules.checkMember found = .ok ()) →
    ∀ error, (scanner.discover (some ancestor)).result = .error error →
      (scanner.discover (some lineage)).result = .error error
  /-- A chain that ends below the ancestor has the same matches, but for the ancestor's. -/
  kept : ∀ base : Lineage, base.levels = lineage.levels.take height →
    ∀ whole, (scanner.discover (some lineage)).result = .ok whole →
      ∃ lower, (scanner.discover (some base)).result = .ok lower ∧
        lower.members <+: whole.members
  ordered : ∀ whole, (scanner.discover (some lineage)).result = .ok whole →
    whole.members.Pairwise fun first second => first.depth ≤ second.depth

/-- A scan extends the scan of every ancestor of its type. -/
theorem discover_extends_ancestors (ignores : scanner.rules.IgnoresDepth)
    (lenient : scanner.rules.AcceptsSets)
    (above : lineage.ancestors[height]? = some ancestor) :
    scanner.Extends lineage ancestor height := by
  have accepts := @result_discover_eq_ok_iff_of_ancestor scanner lineage ancestor height ignores
    lenient above
  constructor
  case ok_iff =>
    constructor
    · rintro ⟨whole, accepted⟩
      obtain ⟨lower, upper, discovered, -⟩ := accepts.mp accepted
      exact ⟨lower, upper, discovered⟩
    · rintro ⟨lower, upper, discovered⟩
      exact ⟨_, accepts.mpr ⟨lower, upper, discovered, rfl⟩⟩
  case members =>
    intro whole upper accepted discovered
    obtain ⟨-, other, again, rfl⟩ := accepts.mp accepted
    rw [discovered] at again
    cases again
    rfl
  case below =>
    intro found present
    exact Lineage.depth_lt_of_mem_foundBelow (List.mem_of_mem_filter present)
  case error =>
    intro lower error failed
    rw [result_discover_of_ancestor ignores lenient above,
      result_checkAll_eq_ok_iff.mpr lower, failed]
    rfl
  case kept =>
    intro base ends whole accepted
    obtain ⟨lower, upper, -, rfl⟩ := accepts.mp accepted
    exact ⟨_, result_discover_of_take lenient ends lower, List.prefix_append _ _⟩
  case ordered =>
    intro whole accepted
    obtain ⟨-, rfl⟩ := (result_discover_eq_ok_iff lenient).mp accepted
    exact (lineage.pairwise_depth_found scanner.scope).filter _

end Scanner

/-! ## A ferry, which is a ship, which is a vessel -/

namespace Ferry

open Sample (text marked)

/-- The setter of a vessel is static. -/
def vessel : Declaration where
  key := 0
  name := "Vessel"
  type := ⟨"Vessel"⟩
  fields := [marked "resource" .field "flag" text]
  setters :=
    [{ marked "resource" .setter "setPort" text with modifiers := { isStatic := true } }]

def ship : Declaration where
  key := 1
  name := "Ship"
  type := ⟨"Ship"⟩
  fields := [⟨"draught", .field, text, {}, [], none⟩, marked "resource" .field "log" text]

def ferry : Declaration where
  key := 2
  name := "Ferry"
  type := ⟨"Ferry"⟩
  fields := [marked "resource" .field "deck" text]
  setters := [marked "resource" .setter "setRamp" text]

def shipLineage : Lineage := .child ship Upcast.nowhere (.root vessel)

def ferryLineage : Lineage := .child ferry Upcast.nowhere shipLineage

def scanner (scope : MemberScope) : Scanner where
  scope := scope
  accepts member := member.hasMarker "resource"
  rules := Rules.structural "resource" false

/-- The fields of a ferry are its own and those of a ship, one level up; its setters cannot be
scanned, because those of a ship cannot. -/
theorem discover_ferry :
    (∃ whole upper, ((scanner .fields).discover (some ferryLineage)).result = .ok whole ∧
      ((scanner .fields).discover (some shipLineage)).result = .ok upper ∧
        whole.members = (scanner .fields).candidatesBelow ferryLineage 1 ++
          upper.members.map (Found.deeper 1) ∧
        whole.members.map (fun found => (found.ident, found.depth)) =
          [("deck", 0), ("log", 1), ("flag", 2)]) ∧
    ((scanner .setters).discover (some ferryLineage)).result =
      .error (.structural "Vessel" "setPort" .setter "resource" .static) := by
  have ignores : ∀ scope, (scanner scope).rules.IgnoresDepth := fun _ _ _ => rfl
  have lenient : ∀ scope, (scanner scope).rules.AcceptsSets := fun _ _ => rfl
  have above : ferryLineage.ancestors[1]? = some shipLineage := rfl
  have fields := Scanner.discover_extends_ancestors (ignores .fields) (lenient .fields) above
  have setters := Scanner.discover_extends_ancestors (ignores .setters) (lenient .setters) above
  constructor
  · have discovered : ∃ upper,
        ((scanner .fields).discover (some shipLineage)).result = .ok upper := ⟨_, rfl⟩
    obtain ⟨upper, discovered⟩ := discovered
    obtain ⟨whole, accepted⟩ := fields.ok_iff.mpr ⟨by decide, upper, discovered⟩
    have listed := fields.members whole upper accepted discovered
    refine ⟨whole, upper, accepted, discovered, listed, ?_⟩
    cases discovered
    rw [listed]
    rfl
  · exact setters.error (by decide) _ rfl

end Ferry

end Wiring
