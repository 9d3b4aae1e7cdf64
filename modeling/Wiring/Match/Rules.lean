import Wiring.Match.Naming

/-!
# Rules for what a scan accepts

Every member that a scan accepts is checked by itself, and when all of them
have passed the whole set may be checked as well.  The structural rules ask
whether the declaration of a member lets it be bound at all.  Further rules can
be laid on top of any others; the rule of distinct names is one of those.
-/

namespace Wiring

/-- The checks of a scan. -/
structure Rules where
  /-- The check of one accepted member. -/
  checkMember : Found → Except DiscoveryError Unit
  /-- The check of the whole set, which usually asks for nothing. -/
  checkSet : MatchSet → Except DiscoveryError Unit := fun _ => .ok ()

namespace Rules

/-- Rules that accept everything. -/
def lenient : Rules where
  checkMember _ := .ok ()

/-- The structural check of one member, for a marker kind in its canonical
spelling. -/
def checkStructure (marker : String) (found : Found) : Except DiscoveryError Unit :=
  match found.member.violation? with
  | some constraint =>
      .error (.structural found.owner found.ident found.member.kind marker constraint)
  | none => .ok ()

/-- A set without members is refused where one is required. -/
def checkPresence (marker : String) (required : Bool) (accepted : MatchSet) :
    Except DiscoveryError Unit :=
  if required && accepted.isEmpty then .error (.emptyMatchSet accepted.rootName marker none)
  else .ok ()

/-- The structural rules of a marker kind in its canonical spelling. -/
def structural (marker : String) (required : Bool) : Rules where
  checkMember := checkStructure marker
  checkSet := checkPresence marker required

/-- The structural rules of a marker kind in any spelling but the empty one. -/
def createStructural (spelling : String) (required : Bool) : Except ConfigError Rules :=
  (MarkerKind.checked spelling).map fun marker => structural marker required

/-- Refuse also a set in which two members resolve to one name.  The names are
looked at only when the other rules accept the set. -/
def withDistinctNames (rules : Rules) (resolve : Found → Except DiscoveryError BindingName) :
    Rules where
  checkMember := rules.checkMember
  checkSet accepted := do
    rules.checkSet accepted
    let bindings ← Binding.resolveAll resolve accepted.members
    Binding.ensureDistinct bindings

theorem checkStructure_eq_ok_iff {marker : String} {found : Found} :
    checkStructure marker found = .ok () ↔ found.member.violation? = none := by
  cases violation : found.member.violation? <;> simp [checkStructure, violation]

end Rules

end Wiring
