import Wiring.Lineage.Basic

/-!
# Found members

A scan looks at the members of one scope along a chain of types, the scanned
type first and each type's members in the order of their declaration.  What it
finds is a member together with the place of its declaration.  Two finds are
the same when the places are: the same entry of the same declaration at the same
depth.  What the entries say is not compared.
-/

namespace Wiring

/-- A member and the place of its declaration. -/
structure Found where
  declaring : Declaration
  scope : MemberScope
  /-- The position in the list of declared members. -/
  index : Nat
  member : Member
  /-- How many levels lie between the scanned type and the declaring one. -/
  depth : Nat

namespace Found

/-- Where a member was found. -/
structure Place where
  declaration : Nat
  scope : MemberScope
  index : Nat
  depth : Nat
  deriving DecidableEq, Repr

/-- The place of a find. -/
def place (found : Found) : Place :=
  ⟨found.declaring.key, found.scope, found.index, found.depth⟩

/-- Finds are compared by their places. -/
instance : BEq Found where
  beq left right := left.place == right.place

@[simp]
theorem beq_iff {left right : Found} : (left == right) = true ↔ left.place = right.place := by
  change (left.place == right.place) = true ↔ _
  simp

/-- The name of the declaring type. -/
def owner (found : Found) : String := found.declaring.name

/-- The identifier of the member. -/
def ident (found : Found) : String := found.member.ident

/-- The member's name with its owner before it. -/
def qualifiedName (found : Found) : String :=
  found.owner ++ "::" ++ found.ident

/-- The member with its kind and type, as it is shown to a reader. -/
def describe (found : Found) : String :=
  found.member.kind.word ++ " " ++ found.qualifiedName ++ ": " ++ found.member.valueType.name

end Found

/-- The members that a declaration contributes to a scan at some depth. -/
def Declaration.found (declaration : Declaration) (scope : MemberScope) (depth : Nat) :
    List Found :=
  (declaration.members scope).mapIdx fun index member =>
    { declaring := declaration, scope, index, member, depth }

/-- All members of one scope along the chain, when the type itself stands at the
given depth. -/
def Lineage.foundFrom (scope : MemberScope) : Nat → Lineage → List Found
  | depth, .root own => own.found scope depth
  | depth, .child own _ parent => own.found scope depth ++ foundFrom scope (depth + 1) parent

/-- All members of one scope along the chain. -/
def Lineage.found (lineage : Lineage) (scope : MemberScope) : List Found :=
  lineage.foundFrom scope 0

@[simp]
theorem Lineage.foundFrom_root (scope : MemberScope) (depth : Nat) (own : Declaration) :
    (Lineage.root own).foundFrom scope depth = own.found scope depth :=
  rfl

@[simp]
theorem Lineage.foundFrom_child (scope : MemberScope) (depth : Nat) (own : Declaration)
    (upcast : Upcast) (parent : Lineage) :
    (Lineage.child own upcast parent).foundFrom scope depth =
      own.found scope depth ++ parent.foundFrom scope (depth + 1) :=
  rfl

/-- What a scan accepted, in the order in which it was found. -/
structure MatchSet where
  /-- The name of the scanned type; a scan of no type has none. -/
  root? : Option String
  members : List Found

namespace MatchSet

/-- A set without members. -/
def empty (root? : Option String) : MatchSet := ⟨root?, []⟩

/-- Sets are compared by the scanned type's name and by the places of their
members. -/
instance : BEq MatchSet where
  beq left right := left.root? == right.root? && left.members == right.members

/-- Whether the scan accepted nothing. -/
def isEmpty (accepted : MatchSet) : Bool := accepted.members.isEmpty

/-- The identifiers of the members, in order. -/
def idents (accepted : MatchSet) : List String := accepted.members.map Found.ident

/-- The name of the scanned type in a message. -/
def rootName (accepted : MatchSet) : String := accepted.root?.getD TypeId.absentName

/-- One line for the set and one for every member. -/
def describe (accepted : MatchSet) : String :=
  accepted.rootName ++ ": " ++ toString accepted.members.length ++ " match(es)\n" ++
    String.join (accepted.members.mapIdx fun index found =>
      "  [" ++ toString index ++ "] depth " ++ toString found.depth ++ " " ++ found.describe ++
        "\n")

end MatchSet

end Wiring
