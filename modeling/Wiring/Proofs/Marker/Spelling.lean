import Mathlib.Data.List.Nodup
import Mathlib.Data.Setoid.Partition
import Wiring.Proofs.First
import Wiring.Proofs.Marker.Folding

/-!
# Spellings and kinds

The entries of the built-in kinds list which texts spell them.  No text is listed twice, so that
a text spells at most one kind, and it does not matter that canonical spellings are tried before
aliases.  Two texts mean one kind when they are listed in one entry; a text that is listed nowhere
means a kind of its own.
-/

namespace Wiring

namespace MarkerKind

variable {kind : MarkerKind} {spelling left right : String}

/-- The texts that spell the kind. -/
def spellings (kind : MarkerKind) : List String := kind.canonical :: kind.entry.aliases

/-- The text spells none of the built-in kinds. -/
def Unlisted (spelling : String) : Prop := ∀ kind : MarkerKind, spelling ∉ kind.spellings

/-! ## The entries -/

/-- No text is listed twice, neither for one kind nor for two. -/
theorem nodup_spellings : (all.flatMap spellings).Nodup := by
  decide

theorem unlisted_empty : Unlisted "" := by
  intro kind
  cases kind <;> decide

theorem mem_spellings_iff :
    spelling ∈ kind.spellings ↔ kind.canonical = spelling ∨ spelling ∈ kind.entry.aliases := by
  rw [spellings, List.mem_cons, eq_comm]

theorem canonical_mem_spellings (kind : MarkerKind) : kind.canonical ∈ kind.spellings :=
  List.mem_cons_self

/-- A text spells at most one kind. -/
theorem eq_of_mem_spellings {first second : MarkerKind} (firstSpelt : spelling ∈ first.spellings)
    (secondSpelt : spelling ∈ second.spellings) : first = second := by
  have apart := (List.nodup_flatMap.mp nodup_spellings).2
  have symmetric : Std.Symm (Function.onFun List.Disjoint spellings) :=
    ⟨fun _ _ disjoint => disjoint.symm⟩
  by_contra different
  exact apart.forall first.mem_all second.mem_all different firstSpelt secondSpelt

/-- The kinds are listed each under its own entry. -/
theorem find?_entry (kind : MarkerKind) :
    (all.map entry).find? (·.kind == kind) = some kind.entry := by
  cases kind <;> rfl

/-! ## Looking a spelling up -/

theorem mem_spellings_of_ofSpelling? (known : ofSpelling? spelling = some kind) :
    spelling ∈ kind.spellings := by
  rw [mem_spellings_iff]
  unfold ofSpelling? at known
  split at known
  · rename_i canonical found
    cases known
    exact Or.inl (by simpa using List.find?_some found)
  · exact Or.inr (by simpa using List.find?_some known)

theorem unlisted_of_ofSpelling? (unknown : ofSpelling? spelling = none) :
    Unlisted spelling := by
  intro kind
  rw [mem_spellings_iff, not_or]
  unfold ofSpelling? at unknown
  split at unknown
  · cases unknown
  · rename_i noCanonical
    rw [List.find?_eq_none] at noCanonical unknown
    exact ⟨by simpa using noCanonical kind kind.mem_all, by simpa using unknown kind kind.mem_all⟩

/-- The two phases of the search find what the entries list. -/
theorem ofSpelling?_eq_some_iff : ofSpelling? spelling = some kind ↔ spelling ∈ kind.spellings := by
  constructor
  · exact mem_spellings_of_ofSpelling?
  · intro spelt
    cases known : ofSpelling? spelling with
    | none => exact absurd spelt (unlisted_of_ofSpelling? known kind)
    | some found => rw [eq_of_mem_spellings (mem_spellings_of_ofSpelling? known) spelt]

theorem ofSpelling?_eq_none_iff : ofSpelling? spelling = none ↔ Unlisted spelling := by
  simp only [Option.eq_none_iff_forall_ne_some, ne_eq, ofSpelling?_eq_some_iff, Unlisted]

/-! ## Folding -/

theorem fold_of_mem (spelt : spelling ∈ kind.spellings) : fold spelling = kind.canonical := by
  rw [fold, ofSpelling?_eq_some_iff.mpr spelt]

theorem fold_of_unlisted (unlisted : Unlisted spelling) : fold spelling = spelling := by
  rw [fold, ofSpelling?_eq_none_iff.mpr unlisted]

/-- Folding does not leave the kind. -/
theorem fold_mem_spellings_iff : fold spelling ∈ kind.spellings ↔ spelling ∈ kind.spellings := by
  by_cases listed : ∃ found : MarkerKind, spelling ∈ found.spellings
  · obtain ⟨found, spelt⟩ := listed
    have folded : fold spelling ∈ found.spellings := by
      rw [fold_of_mem spelt]
      exact found.canonical_mem_spellings
    constructor
    · intro other
      rw [eq_of_mem_spellings other folded]
      exact spelt
    · intro other
      rw [eq_of_mem_spellings other spelt]
      exact folded
  · rw [fold_of_unlisted (not_exists.mp listed)]

theorem fold_eq_empty_iff : fold spelling = "" ↔ spelling = "" := by
  constructor
  · intro empty
    have unlisted : Unlisted spelling := by
      intro kind spelt
      rw [← fold_mem_spellings_iff, empty] at spelt
      exact unlisted_empty kind spelt
    rw [← fold_of_unlisted unlisted, empty]
  · rintro rfl
    exact fold_of_unlisted unlisted_empty

/-! ## Texts that mean one kind -/

theorem same_fold (spelling : String) : same spelling (fold spelling) = true := by
  rw [same_iff, fold_fold]

theorem same_equivalence : Equivalence fun left right => same left right = true where
  refl := same_self
  symm alike := same_iff.mpr (same_iff.mp alike).symm
  trans first second := same_iff.mpr ((same_iff.mp first).trans (same_iff.mp second))

/-- The texts that mean the kind of a listed one are those of its entry. -/
theorem same_iff_of_mem (spelt : left ∈ kind.spellings) :
    same left right = true ↔ right ∈ kind.spellings := by
  rw [same_iff]
  constructor
  · intro alike
    rw [← fold_mem_spellings_iff, ← alike, fold_mem_spellings_iff]
    exact spelt
  · intro other
    rw [fold_of_mem spelt, fold_of_mem other]

/-- A text that is listed nowhere is the only one that means its kind. -/
theorem same_iff_of_unlisted (unlisted : Unlisted left) :
    same left right = true ↔ right = left := by
  rw [same_iff]
  constructor
  · intro alike
    have rightUnlisted : Unlisted right := by
      intro kind
      rw [← fold_mem_spellings_iff, ← alike, fold_mem_spellings_iff]
      exact unlisted kind
    rw [← fold_of_unlisted unlisted, alike, fold_of_unlisted rightUnlisted]
  · rintro rfl
    rfl

/-- Texts sorted by the kinds that they mean. -/
def sorting : Setoid String := ⟨fun left right => same left right = true, same_equivalence⟩

theorem setOf_same_of_mem (spelt : spelling ∈ kind.spellings) :
    {other | sorting other spelling} = {other | other ∈ kind.spellings} := by
  ext other
  exact ⟨fun alike => (same_iff_of_mem spelt).mp (sorting.symm alike),
    fun listed => sorting.symm ((same_iff_of_mem spelt).mpr listed)⟩

theorem setOf_same_of_unlisted (unlisted : Unlisted spelling) :
    {other | sorting other spelling} = {spelling} := by
  ext other
  exact ⟨fun alike => (same_iff_of_unlisted unlisted).mp (sorting.symm alike),
    fun equal => sorting.symm ((same_iff_of_unlisted unlisted).mpr equal)⟩

/-- Each entry makes one class of texts, and every text that is listed nowhere another. -/
theorem classes_sorting :
    sorting.classes =
      Set.range (fun kind : MarkerKind => {spelling | spelling ∈ kind.spellings}) ∪
        {texts | ∃ spelling, Unlisted spelling ∧ texts = {spelling}} := by
  ext texts
  constructor
  · rintro ⟨spelling, rfl⟩
    by_cases listed : ∃ kind : MarkerKind, spelling ∈ kind.spellings
    · obtain ⟨kind, spelt⟩ := listed
      exact Or.inl ⟨kind, (setOf_same_of_mem spelt).symm⟩
    · have unlisted : Unlisted spelling := not_exists.mp listed
      exact Or.inr ⟨spelling, unlisted, setOf_same_of_unlisted unlisted⟩
  · rintro (⟨kind, rfl⟩ | ⟨spelling, unlisted, rfl⟩)
    · exact ⟨kind.canonical, (setOf_same_of_mem kind.canonical_mem_spellings).symm⟩
    · exact ⟨spelling, (setOf_same_of_unlisted unlisted).symm⟩

end MarkerKind

namespace Member

variable {member : Member} {kind left right : String} {marker : Marker}

/-- The marker of a kind is the first whose own kind is that one. -/
theorem marker?_eq_some_iff_first :
    member.marker? kind = some marker ↔
      First (fun marker => MarkerKind.same marker.kind kind = true) member.markers marker :=
  First.find?_eq_some_iff

/-- In which spelling a kind is asked for makes no difference to the marker. -/
theorem marker?_of_same (alike : MarkerKind.same left right = true) :
    member.marker? left = member.marker? right := by
  rw [← member.marker?_fold left, MarkerKind.same_iff.mp alike, member.marker?_fold right]

end Member

namespace MarkerKind

/-- How texts are sorted into kinds. -/
structure SortsSpellings : Prop where
  /-- A text is found to spell a kind when it is listed in the entry of that kind. -/
  ofSpelling?_iff : ∀ spelling kind, ofSpelling? spelling = some kind ↔
    spelling = kind.entry.canonical ∨ spelling ∈ kind.entry.aliases
  unique : ∀ spelling, ∀ first second : MarkerKind,
    spelling ∈ first.spellings → spelling ∈ second.spellings → first = second
  entry : ∀ kind, (all.map entry).find? (·.kind == kind) = some kind.entry
  fold_fold : ∀ spelling, fold (fold spelling) = fold spelling
  same_fold : ∀ spelling, same spelling (fold spelling) = true
  fold_eq_empty_iff : ∀ spelling, fold spelling = "" ↔ spelling = ""
  equivalence : Equivalence fun left right => same left right = true
  /-- The classes are the listed spellings of each kind, and every other text by itself. -/
  classes : sorting.classes =
    Set.range (fun kind : MarkerKind => {spelling | spelling ∈ kind.spellings}) ∪
      {texts | ∃ spelling, Unlisted spelling ∧ texts = {spelling}}
  exact : ∀ spelling, Unlisted spelling →
    ∀ other, same spelling other = true ↔ other = spelling
  /-- Whoever asks for the marker of a kind gets the first of that kind, in whatever spelling. -/
  first : ∀ (member : Member) kind marker, member.marker? kind = some marker ↔
    First (fun marker => same marker.kind kind = true) member.markers marker
  marker? : ∀ (member : Member) left right, same left right = true →
    member.marker? left = member.marker? right

/-- Every text means one kind, the built-in one that lists it or one of its own; folding goes to
one spelling of the kind and stays there, and a member shows the same marker to all spellings of
one kind. -/
theorem spellings_sort_into_kinds : SortsSpellings where
  ofSpelling?_iff spelling kind := by
    rw [ofSpelling?_eq_some_iff, mem_spellings_iff, eq_comm]
    rfl
  unique _ _ _ := eq_of_mem_spellings
  entry := find?_entry
  fold_fold := MarkerKind.fold_fold
  same_fold := MarkerKind.same_fold
  fold_eq_empty_iff _ := MarkerKind.fold_eq_empty_iff
  equivalence := same_equivalence
  classes := classes_sorting
  exact _ unlisted _ := same_iff_of_unlisted unlisted
  first _ _ _ := Member.marker?_eq_some_iff_first
  marker? _ _ _ := Member.marker?_of_same

end MarkerKind

end Wiring
