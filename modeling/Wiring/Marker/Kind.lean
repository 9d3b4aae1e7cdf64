/-!
# Marker kinds and their spellings

A marker names its kind by a text.  A few kinds are built in; each has one
canonical spelling and some aliases, and every spelling of a built-in kind
means the same kind.  Any other text is a kind of its own that the host
defines, and only its exact spelling means it.
-/

namespace Wiring

/-- The kinds of marker that are built in. -/
inductive MarkerKind where
  | resource
  | context
  | serviceRef
  deriving DecidableEq, Repr

/-- How settled a built-in kind is. -/
inductive Stability where
  | stable
  | draft
  | deprecated
  deriving DecidableEq, Repr

/-- What is known about a built-in kind. -/
structure KindEntry where
  kind : MarkerKind
  canonical : String
  aliases : List String
  description : String
  /-- The first version that knows the kind. -/
  since : String
  stability : Stability
  deriving DecidableEq, Repr

namespace MarkerKind

/-- The entry of a kind. -/
def entry : MarkerKind → KindEntry
  | resource =>
      { kind := resource
        canonical := "resource"
        aliases := ["Resource"]
        description := "Bind a named resource resolved through a lookup facility."
        since := "0.1.0"
        stability := .stable }
  | context =>
      { kind := context
        canonical := "context"
        aliases := ["Context", "WebServiceContext"]
        description := "Bind an externally supplied context object by its exact type."
        since := "0.1.0"
        stability := .stable }
  | serviceRef =>
      { kind := serviceRef
        canonical := "service_ref"
        aliases := ["ServiceRef", "WebServiceRef"]
        description := "Bind a reference to a remote service endpoint."
        since := "0.1.0"
        stability := .draft }

/-- The built-in kinds in the order in which they are listed. -/
def all : List MarkerKind := [resource, context, serviceRef]

/-- The canonical spelling of a kind. -/
def canonical (kind : MarkerKind) : String := kind.entry.canonical

/-- The kind that a text spells.  Canonical spellings are tried before
aliases. -/
def ofSpelling? (spelling : String) : Option MarkerKind :=
  match all.find? (·.canonical == spelling) with
  | some kind => some kind
  | none => all.find? (·.entry.aliases.contains spelling)

/-- The canonical spelling of the kind a text spells; a text that spells no
built-in kind stands for itself. -/
def fold (spelling : String) : String :=
  match ofSpelling? spelling with
  | some kind => kind.canonical
  | none => spelling

/-- Two spellings mean one kind when they fold to one spelling. -/
def same (left right : String) : Bool := fold left == fold right

theorem mem_all (kind : MarkerKind) : kind ∈ all := by
  cases kind <;> simp [all]

@[simp]
theorem entry_kind (kind : MarkerKind) : kind.entry.kind = kind := by
  cases kind <;> rfl

@[simp]
theorem same_self (spelling : String) : same spelling spelling = true := by
  simp [same]

theorem same_iff {left right : String} : same left right = true ↔ fold left = fold right := by
  simp [same]

end MarkerKind

end Wiring
