import Mathlib.Data.Finset.Card
import Mathlib.Data.List.Sort
import Wiring.Proofs.Registry.History

/-!
# What a registry holds

A registry answers every question from what stands under a name at the end of its history: the
value that was registered there last, unless it was removed since.  Its names are listed in one
order only, so that the list does not tell in which order they came.
-/

namespace Wiring

namespace Registration

variable {history : List Registration} {last : Registration} {name : String} {value : Value}

/-- The value was registered under the name, and nothing was done under that name since. -/
def Stands (history : List Registration) (name : String) (value : Value) : Prop :=
  ∃ before after, history = before ++ .insert name value :: after ∧
    ∀ change ∈ after, change.name ≠ name

theorem not_stands_nil : ¬ Stands [] name value := by
  rintro ⟨before, after, split, -⟩
  simp at split

/-- The last change lets a value stand under its own name and leaves the others as they are. -/
theorem stands_append_singleton_iff :
    Stands (history ++ [last]) name value ↔
      last = .insert name value ∨ (last.name ≠ name ∧ Stands history name value) := by
  constructor
  · rintro ⟨before, after, split, quiet⟩
    rcases List.eq_nil_or_concat after with rfl | ⟨earlier, final, rfl⟩
    · exact Or.inl (List.singleton_inj.mp (List.append_inj' split rfl).2)
    · rw [List.concat_eq_append] at split quiet
      rw [← List.cons_append, ← List.append_assoc] at split
      rcases List.append_inj' split rfl with ⟨rest, same⟩
      rw [List.singleton_inj] at same
      rw [List.forall_mem_append] at quiet
      have other := quiet.2 final List.mem_cons_self
      exact Or.inr ⟨same ▸ other, before, earlier, rest, quiet.1⟩
  · rintro (rfl | ⟨other, before, after, rfl, quiet⟩)
    · exact ⟨history, [], rfl, by simp⟩
    · refine ⟨before, after ++ [last], by simp, ?_⟩
      rw [List.forall_mem_append]
      exact ⟨quiet, by simpa using other⟩

theorem value?_eq_some_iff (same : last.name = name) :
    last.value? = some value ↔ last = .insert name value := by
  cases last with
  | insert other stored =>
      change other = name at same
      simp [value?, same]
  | remove other => simp [value?]

theorem latest?_eq_some_iff :
    latest? name history = some value ↔ Stands history name value := by
  induction history using List.reverseRecOn with
  | nil =>
      have nothing : latest? name [] = none := rfl
      simp [nothing, not_stands_nil]
  | append_singleton history last inductionHypothesis =>
      rw [latest?_append_singleton, stands_append_singleton_iff]
      by_cases same : last.name = name
      · rw [if_pos same, value?_eq_some_iff same]
        simp [same]
      · have other : last ≠ .insert name value := by
          rintro rfl
          exact same rfl
        rw [if_neg same, inductionHypothesis]
        simp [same, other]

end Registration

namespace Registry

variable {registry other : Registry} {name : String}

theorem contains_eq (registry : Registry) (name : String) :
    registry.contains name = (registry.find? name).isSome :=
  Std.TreeMap.contains_eq_isSome_getElem?

/-- The content of a value is only handed out as what it is. -/
theorem get?_eq_some_iff {expected : TypeId} {payload : Payload} :
    registry.get? name expected = some payload ↔
      registry.find? name = some ⟨expected, payload⟩ := by
  rw [get?, Option.bind_eq_some_iff]
  simp only [Value.as?_eq_some_iff]
  constructor
  · rintro ⟨value, found, rfl, rfl⟩
    exact found
  · intro found
    exact ⟨_, found, rfl, rfl⟩

/-! ## The names -/

theorem mem_names_iff : name ∈ registry.names ↔ registry.contains name = true := by
  rw [names, Std.TreeMap.mem_keys, contains, Std.TreeMap.contains_iff_mem]

theorem ascending_names (registry : Registry) :
    registry.names.Pairwise fun left right => Text.byteOrder left right = .lt :=
  Std.TreeMap.ordered_keys

/-- An ascending list is fixed by what is in it. -/
theorem names_eq_of_contains (same : ∀ name, other.contains name = registry.contains name) :
    other.names = registry.names := by
  apply List.Pairwise.eq_of_mem_iff other.ascending_names registry.ascending_names
  intro name
  rw [mem_names_iff, mem_names_iff, same]

theorem nodup_names (registry : Registry) : registry.names.Nodup :=
  registry.ascending_names.imp fun before same => Text.ne_of_byteOrder_lt before same

theorem exists_finset_names (registry : Registry) :
    ∃ present : Finset String, (∀ name, name ∈ present ↔ registry.contains name = true) ∧
      present.card = registry.size := by
  refine ⟨registry.names.toFinset, ?_, ?_⟩
  · intro name
    rw [List.mem_toFinset, mem_names_iff]
  · rw [List.toFinset_card_of_nodup registry.nodup_names]
    exact Std.TreeMap.length_keys

/-! ## The answers -/

/-- Two registries give the same answers about a name. -/
structure AgreesUnder (name : String) (registry other : Registry) : Prop where
  contains : registry.contains name = other.contains name
  get? : ∀ expected, registry.get? name expected = other.get? name expected
  lookup : ∀ asked : BindingName, asked.text = name → registry.lookup asked = other.lookup asked

/-- Whatever is asked about a name is answered from what is found under it. -/
theorem agreesUnder_of_find?_eq (found : registry.find? name = other.find? name) :
    AgreesUnder name registry other where
  contains := by rw [contains_eq, contains_eq, found]
  get? expected := by rw [Registry.get?, Registry.get?, found]
  lookup := by
    rintro asked rfl
    exact found

theorem agreesUnder_remove (registry : Registry) {name kept : String} (apart : kept ≠ name) :
    AgreesUnder kept (registry.remove name).2 registry :=
  agreesUnder_of_find?_eq ((registry.find?_remove name kept).trans (if_neg apart.symm))

/-- The registry answers as its history tells. -/
structure Reflects (registry : Registry) (history : List Registration) : Prop where
  lookup_iff : ∀ (name : BindingName) value,
    registry.lookup name = some value ↔ Registration.Stands history name.text value
  get?_iff : ∀ name expected payload,
    registry.get? name expected = some payload ↔
      Registration.Stands history name ⟨expected, payload⟩
  contains_iff : ∀ name,
    registry.contains name = true ↔ ∃ value, Registration.Stands history name value
  /-- A removal tells whether there was anything to remove, and concerns no other name. -/
  remove_fst : ∀ name, (registry.remove name).1 = registry.contains name
  contains_remove : ∀ name, (registry.remove name).2.contains name = false
  agreesUnder_remove : ∀ name kept, kept ≠ name →
    AgreesUnder kept (registry.remove name).2 registry
  /-- The size is the number of names under which something stands. -/
  size : ∃ present : Finset String, (∀ name, name ∈ present ↔ registry.contains name = true) ∧
    present.card = registry.size
  isEmpty_iff : registry.isEmpty = true ↔ ∀ name, registry.contains name = false
  /-- The names are those under which something stands, each listed once and in the order of
  their bytes, and nothing else about the registry can be seen from them. -/
  mem_names_iff : ∀ name, name ∈ registry.names ↔ registry.contains name = true
  nodup : registry.names.Nodup
  ascending : registry.names.Pairwise fun left right => Text.byteOrder left right = .lt
  names_eq : ∀ other : Registry, (∀ name, other.contains name = registry.contains name) →
    other.names = registry.names

theorem find?_eq_some_iff_stands {history : List Registration} {value : Value} :
    (ofHistory history).find? name = some value ↔ Registration.Stands history name value := by
  rw [find?_ofHistory, Registration.latest?_eq_some_iff]

theorem reflects_ofHistory (history : List Registration) :
    (ofHistory history).Reflects history where
  lookup_iff name value := find?_eq_some_iff_stands
  get?_iff name expected payload := by
    rw [← find?_eq_some_iff_stands, get?_eq_some_iff]
  contains_iff name := by
    rw [contains_eq, Option.isSome_iff_exists]
    simp only [find?_eq_some_iff_stands]
  remove_fst name := rfl
  contains_remove name := by
    rw [contains_eq, find?_remove, if_pos rfl]
    rfl
  agreesUnder_remove name kept apart := agreesUnder_remove _ apart
  size := exists_finset_names _
  isEmpty_iff := Std.TreeMap.isEmpty_iff_forall_contains
  mem_names_iff name := mem_names_iff
  nodup := nodup_names _
  ascending := ascending_names _
  names_eq other same := names_eq_of_contains same

/-- A registry that was made with some entries and then changed came about by registering these
first. -/
theorem foldl_change_ofList (entries : List (String × Value)) (history : List Registration) :
    history.foldl change (ofList entries) =
      ofHistory (entries.map (fun entry => .insert entry.1 entry.2) ++ history) := by
  rw [ofHistory, List.foldl_append, List.foldl_map]
  rfl

/-- Whichever way a registry came about, by entries that it was made with and by registrations
and removals since, it answers from what stands under a name at the end: the value that was
registered there last, unless it was removed. -/
theorem registries_reflect_histories (entries : List (String × Value))
    (history : List Registration) :
    (history.foldl change (ofList entries)).Reflects
      (entries.map (fun entry => .insert entry.1 entry.2) ++ history) := by
  rw [foldl_change_ofList]
  exact reflects_ofHistory _

/-- The empty name comes first, and a letter with an accent after all plain ones. -/
example (value other : Value) :
    (ofList [("\u00E9", value), ("z", value), ("", other), ("z", other)]).names =
      ["", "z", "\u00E9"] := by
  rfl

end Registry

end Wiring
