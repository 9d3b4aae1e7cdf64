import Mathlib.Data.List.Sort
import Wiring.Proofs.Plan.Order

/-!
# What a scan asks its rules

A scan walks from level to level with the depth as a counter, and on each level from member to
member.  It passes over what its predicate leaves alone, has the rest checked, and gives up at
the first failure.  Here the walk is taken step by step, with a record of the checks that it
makes, and compared with a description that knows neither loop nor counter: the members that
the scan takes, in the order of their places.  A verdict on a type says of every case both the
answer and the checks, and so also which members are never checked.
-/

namespace Wiring

/-- What a scan can have checked. -/
inductive Check where
  /-- One member that the predicate takes up. -/
  | member (found : Found)
  /-- Everything that was accepted. -/
  | whole (accepted : MatchSet)

/-- What the rules say to a check. -/
def Rules.answer (rules : Rules) : Check → Except DiscoveryError Unit
  | .member found => rules.checkMember found
  | .whole accepted => rules.checkSet accepted

/-- An answer or a failure, and the checks that were made for it, earliest first. -/
structure Checked (α : Type) where
  checks : List Check
  result : Except DiscoveryError α

namespace Checked

variable {α β γ : Type} {checks : List Check}

/-- Go on with an answer and keep the record; a failure ends the run. -/
def andThen (first : Checked α) (next : α → Checked β) : Checked β :=
  match first.result with
  | .error error => ⟨first.checks, .error error⟩
  | .ok value => ⟨first.checks ++ (next value).checks, (next value).result⟩

instance : Monad Checked where
  pure value := ⟨[], .ok value⟩
  bind := andThen

@[simp]
theorem pure_eq (value : α) : (pure value : Checked α) = ⟨[], .ok value⟩ :=
  rfl

@[simp]
theorem bind_of_error (error : DiscoveryError) (next : α → Checked β) :
    (⟨checks, .error error⟩ : Checked α) >>= next = ⟨checks, .error error⟩ :=
  rfl

@[simp]
theorem bind_of_ok (value : α) (next : α → Checked β) :
    (⟨checks, .ok value⟩ : Checked α) >>= next =
      ⟨checks ++ (next value).checks, (next value).result⟩ :=
  rfl

theorem bind_assoc (first : Checked α) (next : α → Checked β) (last : β → Checked γ) :
    first >>= next >>= last = first >>= fun value => next value >>= last := by
  rcases first with ⟨checks, error | value⟩
  · rfl
  · rw [bind_of_ok, bind_of_ok]
    rcases next value with ⟨others, error | value⟩
    · rfl
    · simp

end Checked

/-- Ask the rules, and go on only if they do not object. -/
def Rules.ask (rules : Rules) (check : Check) : Checked Unit := ⟨[check], rules.answer check⟩

/-- The set with one more member. -/
def MatchSet.push (accepted : MatchSet) (found : Found) : MatchSet :=
  { accepted with members := accepted.members ++ [found] }

namespace Scanner

/-! ## The walk -/

/-- Walk through the members of a level, from the given position on. -/
def walkMembers (scanner : Scanner) (level : Declaration) (depth : Nat) :
    Nat → List Member → MatchSet → Checked MatchSet
  | _, [], accepted => pure accepted
  | index, member :: rest, accepted =>
      if scanner.accepts member then do
        let found : Found := ⟨level, scanner.scope, index, member, depth⟩
        scanner.rules.ask (.member found)
        scanner.walkMembers level depth (index + 1) rest (accepted.push found)
      else scanner.walkMembers level depth (index + 1) rest accepted

/-- Walk through the levels of a chain, from the given depth on. -/
def walkLevels (scanner : Scanner) : Nat → List Declaration → MatchSet → Checked MatchSet
  | _, [], accepted => pure accepted
  | depth, level :: rest, accepted => do
      let accepted ← scanner.walkMembers level depth 0 (level.members scanner.scope) accepted
      scanner.walkLevels (depth + 1) rest accepted

/-- The scan of a type, or of no type, step by step. -/
def walk (scanner : Scanner) : Option Lineage → Checked MatchSet
  | none => pure (MatchSet.empty none)
  | some lineage => do
      let accepted ← scanner.walkLevels 0 lineage.levels (MatchSet.empty (some lineage.name))
      scanner.rules.ask (.whole accepted)
      return accepted

/-! ## The verdict -/

/-- The find is a member on the chain that the scan looks at and takes up. -/
structure Takes (scanner : Scanner) (lineage : Lineage) (found : Found) : Prop where
  /-- The declaring type stands as high in the chain as the find says. -/
  level : lineage.levels[found.depth]? = some found.declaring
  scope : found.scope = scanner.scope
  declared : (found.declaring.members scanner.scope)[found.index]? = some found.member
  accepted : scanner.accepts found.member = true

/-- All members that the scan takes, ordered by their levels and on each level by their
positions. -/
structure Lists (scanner : Scanner) (lineage : Lineage) (members : List Found) : Prop where
  mem_iff : ∀ found, found ∈ members ↔ scanner.Takes lineage found
  ordered : members.Pairwise fun first second => first.depth < second.depth ∨
    (first.depth = second.depth ∧ first.index < second.index)

/-- The verdict on a type: the answer, and the checks that lead to it. -/
inductive Verdict (scanner : Scanner) (lineage : Lineage) : Checked MatchSet → Prop where
  /-- The first member that fails is the last that is checked. -/
  | refused {before after : List Found} {found : Found} {error : DiscoveryError}
      (lists : scanner.Lists lineage (before ++ found :: after))
      (passed : ∀ earlier ∈ before, scanner.rules.checkMember earlier = .ok ())
      (failed : scanner.rules.checkMember found = .error error) :
      Verdict scanner lineage ⟨(before ++ [found]).map .member, .error error⟩
  /-- Only where no member fails can the whole set. -/
  | rejected {members : List Found} {error : DiscoveryError}
      (lists : scanner.Lists lineage members)
      (passed : ∀ found ∈ members, scanner.rules.checkMember found = .ok ())
      (failed : scanner.rules.checkSet ⟨some lineage.name, members⟩ = .error error) :
      Verdict scanner lineage
        ⟨members.map .member ++ [.whole ⟨some lineage.name, members⟩], .error error⟩
  | accepted {members : List Found}
      (lists : scanner.Lists lineage members)
      (passed : ∀ found ∈ members, scanner.rules.checkMember found = .ok ())
      (whole : scanner.rules.checkSet ⟨some lineage.name, members⟩ = .ok ()) :
      Verdict scanner lineage
        ⟨members.map .member ++ [.whole ⟨some lineage.name, members⟩],
          .ok ⟨some lineage.name, members⟩⟩

variable {scanner other : Scanner} {lineage : Lineage} {members : List Found}
  {run : Checked MatchSet}

/-! ## The list of the members that are taken -/

theorem mem_candidates_iff {found : Found} :
    found ∈ scanner.candidates lineage ↔ scanner.Takes lineage found := by
  rw [candidates, List.mem_filter, Lineage.mem_found_iff]
  constructor
  · rintro ⟨⟨level, scope, declared⟩, accepted⟩
    exact ⟨level, scope, declared, accepted⟩
  · rintro ⟨level, scope, declared, accepted⟩
    exact ⟨⟨level, scope, declared⟩, accepted⟩

theorem lists_candidates (scanner : Scanner) (lineage : Lineage) :
    scanner.Lists lineage (scanner.candidates lineage) := by
  constructor
  · intro found
    exact mem_candidates_iff
  · have ordered := (lineage.pairwise_foundFrom scanner.scope 0).filter
      fun found => scanner.accepts found.member
    refine List.Pairwise.imp_of_mem ?_ ordered
    intro first second firstMem secondMem before
    have firstScope := (mem_candidates_iff.mp firstMem).scope
    have secondScope := (mem_candidates_iff.mp secondMem).scope
    rcases before with ⟨field, setter⟩ | ⟨-, placed⟩
    · rw [← firstScope, field] at secondScope
      rw [setter] at secondScope
      contradiction
    · exact placed

/-- There is only one such list. -/
theorem Lists.eq_candidates (lists : scanner.Lists lineage members) :
    members = scanner.candidates lineage := by
  have irreflexive : Std.Irrefl fun first second : Found => first.depth < second.depth ∨
      (first.depth = second.depth ∧ first.index < second.index) := ⟨fun _ => by omega⟩
  have antisymmetric : Std.Antisymm fun first second : Found => first.depth < second.depth ∨
      (first.depth = second.depth ∧ first.index < second.index) := ⟨fun _ _ _ _ => by omega⟩
  apply List.Pairwise.eq_of_mem_iff lists.ordered (scanner.lists_candidates lineage).ordered
  intro found
  rw [lists.mem_iff, mem_candidates_iff]

theorem Lists.nodup_places (lists : scanner.Lists lineage members) :
    (members.map Found.place).Nodup := by
  refine List.pairwise_map.mpr (lists.ordered.imp ?_)
  intro first second placed same
  simp only [Found.place, Found.Place.mk.injEq] at same
  omega

/-- Scans that look at the same members and take up the same of them list the same. -/
theorem Lists.congr (lists : scanner.Lists lineage members)
    (sameScope : other.scope = scanner.scope) (sameAccepts : other.accepts = scanner.accepts) :
    other.Lists lineage members := by
  constructor
  · intro found
    rw [lists.mem_iff]
    constructor
    · rintro ⟨level, scope, declared, accepted⟩
      rw [← sameScope] at scope declared
      rw [← sameAccepts] at accepted
      exact ⟨level, scope, declared, accepted⟩
    · rintro ⟨level, scope, declared, accepted⟩
      rw [sameScope] at scope declared
      rw [sameAccepts] at accepted
      exact ⟨level, scope, declared, accepted⟩
  · exact lists.ordered

end Scanner

/-! ## The walk without levels -/

namespace Rules

variable {rules : Rules} {members before : List Found} {found : Found} {error : DiscoveryError}

/-- Have members checked one after the other, and accept each that passes. -/
def acceptAll (rules : Rules) : List Found → MatchSet → Checked MatchSet
  | [], accepted => pure accepted
  | found :: rest, accepted => do
      rules.ask (.member found)
      rules.acceptAll rest (accepted.push found)

theorem acceptAll_cons (rules : Rules) (found : Found) (rest : List Found) (accepted : MatchSet) :
    rules.acceptAll (found :: rest) accepted =
      rules.ask (.member found) >>= fun _ => rules.acceptAll rest (accepted.push found) :=
  rfl

theorem acceptAll_append (rules : Rules) (first second : List Found) (accepted : MatchSet) :
    rules.acceptAll (first ++ second) accepted =
      rules.acceptAll first accepted >>= rules.acceptAll second := by
  induction first generalizing accepted with
  | nil => rfl
  | cons found rest inductionHypothesis =>
      rw [List.cons_append, acceptAll_cons, acceptAll_cons, Checked.bind_assoc]
      congr 1
      funext _
      exact inductionHypothesis (accepted.push found)

theorem acceptAll_of_passed (passed : ∀ found ∈ members, rules.checkMember found = .ok ())
    (accepted : MatchSet) :
    rules.acceptAll members accepted =
      ⟨members.map .member, .ok { accepted with members := accepted.members ++ members }⟩ := by
  induction members generalizing accepted with
  | nil => rw [List.append_nil]; rfl
  | cons found rest inductionHypothesis =>
      rcases List.forall_mem_cons.mp passed with ⟨head, tail⟩
      rw [acceptAll_cons, inductionHypothesis tail, ask, answer, head]
      simp [MatchSet.push]

/-- What comes after the first failure is not checked. -/
theorem acceptAll_of_failed (passed : ∀ earlier ∈ before, rules.checkMember earlier = .ok ())
    (failed : rules.checkMember found = .error error) (after : List Found)
    (accepted : MatchSet) :
    rules.acceptAll (before ++ found :: after) accepted =
      ⟨(before ++ [found]).map .member, .error error⟩ := by
  rw [acceptAll_append, acceptAll_of_passed passed, Checked.bind_of_ok, acceptAll_cons, ask,
    answer, failed, List.map_append]
  rfl

end Rules

namespace Scanner

variable {scanner other : Scanner} {lineage : Lineage} {members : List Found}
  {run : Checked MatchSet}

/-- What is walked through on a level is checked member by member, under the right positions. -/
theorem walkMembers_eq (scanner : Scanner) (level : Declaration) (depth index : Nat)
    (members : List Member) (accepted : MatchSet) :
    scanner.walkMembers level depth index members accepted =
      scanner.rules.acceptAll
        ((members.mapIdx fun offset member =>
          (⟨level, scanner.scope, index + offset, member, depth⟩ : Found)).filter
            fun found => scanner.accepts found.member) accepted := by
  induction members generalizing index accepted with
  | nil => rfl
  | cons member rest inductionHypothesis =>
      have shift : ∀ offset, index + 1 + offset = index + (offset + 1) := by omega
      rw [walkMembers, List.mapIdx_cons, List.filter_cons]
      by_cases taken : scanner.accepts member = true
      · rw [if_pos taken, if_pos taken, Rules.acceptAll_cons]
        simp only [inductionHypothesis, shift, Nat.add_zero]
      · rw [if_neg taken, if_neg taken]
        simp only [inductionHypothesis, shift]

theorem walkLevels_eq (scanner : Scanner) (depth : Nat) (levels : List Declaration)
    (accepted : MatchSet) :
    scanner.walkLevels depth levels accepted =
      scanner.rules.acceptAll
        ((levels.mapIdx fun offset level =>
            level.found scanner.scope (depth + offset)).flatten.filter
          fun found => scanner.accepts found.member) accepted := by
  induction levels generalizing depth accepted with
  | nil => rfl
  | cons level rest inductionHypothesis =>
      have shift : ∀ offset, depth + 1 + offset = depth + (offset + 1) := by omega
      rw [walkLevels, List.mapIdx_cons, List.flatten_cons, List.filter_append,
        Rules.acceptAll_append, walkMembers_eq]
      simp only [Nat.zero_add, Nat.add_zero]
      congr 1
      funext accepted
      simp only [inductionHypothesis, shift]

/-- The walk comes upon the members that are taken, in their order. -/
theorem walk_some (scanner : Scanner) (lineage : Lineage) :
    scanner.walk (some lineage) =
      scanner.rules.acceptAll (scanner.candidates lineage) (MatchSet.empty (some lineage.name)) >>=
        fun accepted => scanner.rules.ask (.whole accepted) >>= fun _ => pure accepted := by
  rw [walk, walkLevels_eq, candidates, Lineage.found_eq_flatten]
  simp only [Nat.zero_add]

/-! ## The walk ends with the verdict -/

theorem Verdict.walk_eq (verdict : scanner.Verdict lineage run) :
    scanner.walk (some lineage) = run := by
  cases verdict with
  | refused lists passed failed =>
      rw [walk_some, ← lists.eq_candidates, Rules.acceptAll_of_failed passed failed]
      rfl
  | rejected lists passed failed =>
      rw [walk_some, ← lists.eq_candidates, Rules.acceptAll_of_passed passed, Checked.bind_of_ok]
      simp [MatchSet.empty, Rules.ask, Rules.answer, failed]
  | accepted lists passed whole =>
      rw [walk_some, ← lists.eq_candidates, Rules.acceptAll_of_passed passed, Checked.bind_of_ok]
      simp [MatchSet.empty, Rules.ask, Rules.answer, whole]

theorem Verdict.result_discover_eq (verdict : scanner.Verdict lineage run) :
    (scanner.discover (some lineage)).result = run.result := by
  cases verdict with
  | @refused before after found error lists passed failed =>
      have first : First scanner.Refuses (before ++ found :: after) found :=
        ⟨before, after, rfl, fun earlier present => not_refuses_iff.mpr (passed earlier present),
          error, failed⟩
      rw [result_discover, ← lists.eq_candidates, result_checkAll_of_first first, failed]
      rfl
  | rejected lists passed failed =>
      rw [result_discover, ← lists.eq_candidates, result_checkAll_eq_ok_iff.mpr passed]
      simp [Except.bind, Except.map, failed]
  | accepted lists passed whole =>
      rw [result_discover, ← lists.eq_candidates, result_checkAll_eq_ok_iff.mpr passed]
      simp [Except.bind, Except.map, whole]

/-- There is a verdict on every type. -/
theorem exists_verdict_on (scanner : Scanner) (lineage : Lineage) :
    ∃ run, scanner.Verdict lineage run := by
  have lists := scanner.lists_candidates lineage
  rcases exists_first_or_forall_not scanner.Refuses (scanner.candidates lineage) with
    ⟨found, before, after, split, passed, error, failed⟩ | passed
  · rw [split] at lists
    exact ⟨_, .refused lists (fun earlier present => not_refuses_iff.mp (passed earlier present))
      failed⟩
  · have accepted := fun found present => not_refuses_iff.mp (passed found present)
    cases whole : scanner.rules.checkSet ⟨some lineage.name, scanner.candidates lineage⟩ with
    | error error => exact ⟨_, .rejected lists accepted whole⟩
    | ok _ => exact ⟨_, .accepted lists accepted whole⟩

theorem walk_some_iff : scanner.walk (some lineage) = run ↔ scanner.Verdict lineage run := by
  constructor
  · rintro rfl
    rcases scanner.exists_verdict_on lineage with ⟨run, verdict⟩
    rw [verdict.walk_eq]
    exact verdict
  · exact Verdict.walk_eq

theorem result_walk (scanner : Scanner) (root? : Option Lineage) :
    (scanner.walk root?).result = (scanner.discover root?).result := by
  cases root? with
  | none => rfl
  | some lineage => exact (walk_some_iff.mp rfl).result_discover_eq.symm

/-- The verdict rests on the answers to the checks that were made, and on no others. -/
theorem Verdict.congr (verdict : scanner.Verdict lineage run)
    (sameScope : other.scope = scanner.scope) (sameAccepts : other.accepts = scanner.accepts)
    (agree : ∀ check ∈ run.checks, other.rules.answer check = scanner.rules.answer check) :
    other.Verdict lineage run := by
  cases verdict with
  | @refused before after found error lists passed failed =>
      have answers : ∀ earlier ∈ before ++ [found],
          other.rules.checkMember earlier = scanner.rules.checkMember earlier :=
        fun earlier present => agree _ (List.mem_map_of_mem present)
      refine .refused (lists.congr sameScope sameAccepts) ?_ ?_
      · intro earlier present
        rw [answers earlier (List.mem_append_left _ present)]
        exact passed earlier present
      · rw [answers found (List.mem_append_right _ List.mem_cons_self)]
        exact failed
  | @rejected members error lists passed failed =>
      rcases List.forall_mem_append.mp agree with ⟨each, whole⟩
      refine .rejected (lists.congr sameScope sameAccepts) ?_ ?_
      · intro found present
        exact (each _ (List.mem_map_of_mem present)).trans (passed found present)
      · exact (whole _ List.mem_cons_self).trans failed
  | @accepted members lists passed accepted =>
      rcases List.forall_mem_append.mp agree with ⟨each, whole⟩
      refine .accepted (lists.congr sameScope sameAccepts) ?_ ?_
      · intro found present
        exact (each _ (List.mem_map_of_mem present)).trans (passed found present)
      · exact (whole _ List.mem_cons_self).trans accepted

theorem exists_ok_iff : (∃ whole, (scanner.discover (some lineage)).result = .ok whole) ↔
    (∀ found, scanner.Takes lineage found → scanner.rules.checkMember found = .ok ()) ∧
      ∀ members, scanner.Lists lineage members →
        scanner.rules.checkSet ⟨some lineage.name, members⟩ = .ok () := by
  have lists := scanner.lists_candidates lineage
  constructor
  · rintro ⟨whole, succeeds⟩
    rcases discover_succeeds_iff.mp succeeds with ⟨passed, accepted, -⟩
    refine ⟨fun found taken => passed found ((lists.mem_iff found).mpr taken), ?_⟩
    intro members listed
    rw [listed.eq_candidates]
    exact accepted
  · rintro ⟨passed, accepted⟩
    have each : ∀ found ∈ scanner.candidates lineage, scanner.rules.checkMember found = .ok () :=
      fun found present => passed found ((lists.mem_iff found).mp present)
    exact ⟨_, discover_succeeds_iff.mpr ⟨each, accepted _ lists, rfl⟩⟩

/-- A scanner answers as the verdict says, and asks its rules no more than the verdict does. -/
structure KeepsToVerdict (scanner : Scanner) : Prop where
  /-- The walk with its record is the scan. -/
  result_walk : ∀ root?, (scanner.walk root?).result = (scanner.discover root?).result
  walk_iff : ∀ lineage run, scanner.walk (some lineage) = run ↔ scanner.Verdict lineage run
  ok_iff : ∀ lineage, (∃ whole, (scanner.discover (some lineage)).result = .ok whole) ↔
    (∀ found, scanner.Takes lineage found → scanner.rules.checkMember found = .ok ()) ∧
      ∀ members, scanner.Lists lineage members →
        scanner.rules.checkSet ⟨some lineage.name, members⟩ = .ok ()
  listed : ∀ lineage, ∃ members, scanner.Lists lineage members
  /-- No member is listed twice, and in no other order. -/
  once : ∀ lineage members, scanner.Lists lineage members → (members.map Found.place).Nodup ∧
    ∀ others, scanner.Lists lineage others → others = members
  /-- Rules that answer alike to these checks make no difference, whatever they say to others. -/
  unasked : ∀ (other : Scanner) (lineage : Lineage), other.scope = scanner.scope →
    other.accepts = scanner.accepts →
      (∀ check ∈ (scanner.walk (some lineage)).checks,
        other.rules.answer check = scanner.rules.answer check) →
        (other.discover (some lineage)).result = (scanner.discover (some lineage)).result
  /-- Without a type there is an empty set at once, whatever the rules say to it. -/
  absent : scanner.walk none = ⟨[], .ok ⟨none, []⟩⟩ ∧
    (scanner.discover none).result = .ok ⟨none, []⟩

/-- A scan succeeds exactly if all that it takes up passes and the whole set does, and its set
is then all of that, in order; the first member to fail is its failure, and only without one
the set; and no other member is ever checked. -/
theorem discoveries_keep_to_verdict (scanner : Scanner) : scanner.KeepsToVerdict := by
  constructor
  case result_walk => exact scanner.result_walk
  case walk_iff => exact fun _ _ => walk_some_iff
  case ok_iff => exact fun _ => exists_ok_iff
  case listed => exact fun lineage => ⟨_, scanner.lists_candidates lineage⟩
  case once =>
    intro lineage members lists
    refine ⟨lists.nodup_places, ?_⟩
    intro others listed
    rw [lists.eq_candidates, listed.eq_candidates]
  case unasked =>
    intro other lineage sameScope sameAccepts agree
    rcases scanner.exists_verdict_on lineage with ⟨run, verdict⟩
    rw [verdict.walk_eq] at agree
    rw [(verdict.congr sameScope sameAccepts agree).result_discover_eq, verdict.result_discover_eq]
  case absent => exact ⟨rfl, rfl⟩

end Scanner

end Wiring
