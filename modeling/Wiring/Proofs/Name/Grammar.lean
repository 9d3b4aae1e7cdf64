import Mathlib.Data.List.Pairwise
import Wiring.Name.Setter

/-!
# The grammar of setters

The identifier of a setter is the prefix and then the property.  Where words are joined by
underscores, one of them may stand in between.  This file gives that grammar as a relation
between identifiers and names and shows that the reading of identifiers decides it, with a
failure of its own for each way in which an identifier can fall short.
-/

namespace Wiring.SetterName

variable {identifier setterPrefix name : String} {snakeCase : Bool}

/-- An identifier and the name of the property that it spells after a prefix.  Only the first
character of the property is put into lower case, even if its form has several characters. -/
inductive Spells (setterPrefix : String) : Bool → String → String → Prop where
  /-- The property follows the prefix.  If a separator could follow, the property does not
  begin with one. -/
  | joined (snakeCase : Bool) (head : Char) (tail : List Char)
      (begins : snakeCase = true → head ≠ separator) :
      Spells setterPrefix snakeCase (setterPrefix ++ String.ofList (head :: tail))
        (String.ofList (Text.lowercase head ++ tail))
  /-- One separator sets the property off, which may begin with another. -/
  | separated (head : Char) (tail : List Char) :
      Spells setterPrefix true (setterPrefix.push separator ++ String.ofList (head :: tail))
        (String.ofList (Text.lowercase head ++ tail))

theorem Spells.name_ne_empty (spelled : Spells setterPrefix snakeCase identifier name) :
    name ≠ "" := by
  have nonempty : ∀ head tail, String.ofList (Text.lowercase head ++ tail) ≠ "" := by
    simp [Text.lowercase_ne_nil]
  cases spelled with
  | joined snakeCase head tail begins => exact nonempty head tail
  | separated head tail => exact nonempty head tail

/-! ## Reading what follows the prefix -/

/-- An identifier that begins with the prefix is read from behind it. -/
theorem property_append (setterPrefix : String) (rest : List Char) (snakeCase : Bool) :
    property (setterPrefix ++ String.ofList rest) setterPrefix snakeCase =
      (decapitalize (if snakeCase then dropSeparator rest else rest)).map String.ofList := by
  have begun : setterPrefix.toList.isPrefixOf? (setterPrefix ++ String.ofList rest).toList =
      some rest := by
    rw [String.toList_append, String.toList_ofList]
    exact List.isPrefixOf?_eq_some_iff_append_eq.mpr rfl
  rw [property, begun]

theorem property_of_foreign (foreign : ¬ ∃ rest, identifier = setterPrefix ++ rest)
    (snakeCase : Bool) :
    property identifier setterPrefix snakeCase = .error .missingPrefix := by
  cases begun : setterPrefix.toList.isPrefixOf? identifier.toList with
  | none => rw [property, begun]
  | some rest =>
      refine absurd ⟨String.ofList rest, ?_⟩ foreign
      apply String.toList_inj.mp
      rw [String.toList_append, String.toList_ofList]
      exact (List.isPrefixOf?_eq_some_iff_append_eq.mp begun).symm

theorem property_self (setterPrefix : String) (snakeCase : Bool) :
    property setterPrefix setterPrefix snakeCase = .error .missingProperty := by
  have read := property_append setterPrefix [] snakeCase
  rw [String.ofList_nil, String.append_empty] at read
  rw [read]
  cases snakeCase <;> rfl

theorem push_eq_append (setterPrefix : String) (rest : List Char) :
    setterPrefix.push separator ++ String.ofList rest =
      setterPrefix ++ String.ofList (separator :: rest) := by
  apply String.toList_inj.mp
  simp

/-- A separator with nothing behind it sets no property off. -/
theorem property_push_self (setterPrefix : String) :
    property (setterPrefix.push separator) setterPrefix true = .error .missingProperty := by
  have read := property_append setterPrefix [separator] true
  rw [← push_eq_append, String.ofList_nil, String.append_empty] at read
  rw [read]
  rfl

theorem property_joined (setterPrefix : String) {head : Char} (tail : List Char)
    (begins : snakeCase = true → head ≠ separator) :
    property (setterPrefix ++ String.ofList (head :: tail)) setterPrefix snakeCase =
      .ok (String.ofList (Text.lowercase head ++ tail)) := by
  rw [property_append]
  cases snakeCase with
  | false => rfl
  | true =>
      rw [if_pos rfl, dropSeparator, if_neg (begins rfl)]
      rfl

theorem property_separated (setterPrefix : String) (head : Char) (tail : List Char) :
    property (setterPrefix.push separator ++ String.ofList (head :: tail)) setterPrefix true =
      .ok (String.ofList (Text.lowercase head ++ tail)) := by
  rw [push_eq_append, property_append, if_pos rfl, dropSeparator, if_pos rfl]
  rfl

/-! ## The grammar is decided -/

/-- An identifier falls short of the grammar in one of three ways, or it is in it. -/
theorem spells_or_falls_short (identifier setterPrefix : String) (snakeCase : Bool) :
    (¬ ∃ rest, identifier = setterPrefix ++ rest) ∨ identifier = setterPrefix ∨
      (snakeCase = true ∧ identifier = setterPrefix.push separator) ∨
        ∃ name, Spells setterPrefix snakeCase identifier name := by
  by_cases foreign : ∃ rest, identifier = setterPrefix ++ rest
  · rcases foreign with ⟨rest, rfl⟩
    rw [← String.ofList_toList (s := rest)]
    cases rest.toList with
    | nil => exact Or.inr (Or.inl (by simp))
    | cons head tail =>
        by_cases begins : snakeCase = true → head ≠ separator
        · exact Or.inr (Or.inr (Or.inr ⟨_, .joined snakeCase head tail begins⟩))
        · obtain ⟨rfl, rfl⟩ : snakeCase = true ∧ head = separator := by simpa using begins
          rw [← push_eq_append]
          cases tail with
          | nil => exact Or.inr (Or.inr (Or.inl ⟨rfl, by simp⟩))
          | cons head tail => exact Or.inr (Or.inr (Or.inr ⟨_, .separated head tail⟩))
  · exact Or.inl foreign

theorem property_of_spells (spelled : Spells setterPrefix snakeCase identifier name) :
    property identifier setterPrefix snakeCase = .ok name := by
  cases spelled with
  | joined snakeCase head tail begins => exact property_joined setterPrefix tail begins
  | separated head tail => exact property_separated setterPrefix head tail

theorem property_eq_missingPrefix_iff :
    property identifier setterPrefix snakeCase = .error .missingPrefix ↔
      ¬ ∃ rest, identifier = setterPrefix ++ rest := by
  constructor
  · rintro failed ⟨rest, rfl⟩
    rw [← String.ofList_toList (s := rest), property_append] at failed
    cases read : if snakeCase then dropSeparator rest.toList else rest.toList with
    | nil => simp [read, Except.map] at failed
    | cons head tail => simp [read, Except.map] at failed
  · intro foreign
    exact property_of_foreign foreign snakeCase

theorem property_eq_missingProperty_iff :
    property identifier setterPrefix snakeCase = .error .missingProperty ↔
      identifier = setterPrefix ∨
        (snakeCase = true ∧ identifier = setterPrefix.push separator) := by
  constructor
  · intro failed
    rcases spells_or_falls_short identifier setterPrefix snakeCase with
      foreign | bare | separatorOnly | ⟨name, spelled⟩
    · rw [property_of_foreign foreign] at failed
      cases failed
    · exact Or.inl bare
    · exact Or.inr separatorOnly
    · rw [property_of_spells spelled] at failed
      contradiction
  · rintro (rfl | ⟨rfl, rfl⟩)
    · exact property_self identifier snakeCase
    · exact property_push_self setterPrefix

/-- The name that is read is the one that the identifier spells. -/
theorem property_eq_ok_iff :
    property identifier setterPrefix snakeCase = .ok name ↔
      Spells setterPrefix snakeCase identifier name := by
  constructor
  · intro success
    rcases spells_or_falls_short identifier setterPrefix snakeCase with
      foreign | bare | separatorOnly | ⟨other, spelled⟩
    · rw [property_of_foreign foreign] at success
      contradiction
    · rw [property_eq_missingProperty_iff.mpr (Or.inl bare)] at success
      contradiction
    · rw [property_eq_missingProperty_iff.mpr (Or.inr separatorOnly)] at success
      contradiction
    · rw [property_of_spells spelled] at success
      cases success
      exact spelled
  · exact property_of_spells

theorem accepts_iff :
    (∃ name, property identifier setterPrefix snakeCase = .ok name) ↔
      (∃ rest, identifier = setterPrefix ++ rest) ∧ identifier ≠ setterPrefix ∧
        ¬ (snakeCase = true ∧ identifier = setterPrefix.push separator) := by
  have prefixed : property identifier setterPrefix snakeCase ≠ .error .missingPrefix ↔
      ∃ rest, identifier = setterPrefix ++ rest :=
    property_eq_missingPrefix_iff.not.trans not_not
  have long : property identifier setterPrefix snakeCase ≠ .error .missingProperty ↔
      identifier ≠ setterPrefix ∧
        ¬ (snakeCase = true ∧ identifier = setterPrefix.push separator) :=
    property_eq_missingProperty_iff.not.trans not_or
  rw [← prefixed, ← long]
  cases property identifier setterPrefix snakeCase with
  | ok name => simp
  | error reason => cases reason <;> simp

/-! ## The two settings of the switch -/

theorem lowercase_separator : Text.lowercase separator = [separator] := by
  decide

/-- A name that is read without its separator is another one than the name with it. -/
theorem lowercase_append_ne (head : Char) (tail : List Char) :
    Text.lowercase head ++ tail ≠ separator :: head :: tail := by
  unfold Text.lowercase
  split
  · intro same
    exact absurd (List.cons.inj same).1 (by decide)
  · intro same
    have lengths := congrArg List.length same
    simp at lengths

/-- The names differ where there is a separator to drop. -/
theorem names_differ_iff :
    (∃ name other, property identifier setterPrefix true = .ok name ∧
        property identifier setterPrefix false = .ok other ∧ name ≠ other) ↔
      (∃ name, property identifier setterPrefix true = .ok name) ∧
        ∃ rest, identifier = setterPrefix.push separator ++ rest := by
  constructor
  · rintro ⟨name, other, success, without, different⟩
    cases property_eq_ok_iff.mp success with
    | joined _ head tail begins =>
        rw [property_joined setterPrefix tail (by simp)] at without
        cases without
        contradiction
    | separated head tail => exact ⟨⟨_, success⟩, _, rfl⟩
  · rintro ⟨⟨name, success⟩, rest, rfl⟩
    rw [← String.ofList_toList (s := rest)] at success ⊢
    cases chars : rest.toList with
    | nil =>
        rw [chars, String.ofList_nil, String.append_empty, property_push_self] at success
        cases success
    | cons head tail =>
        have without : property (setterPrefix.push separator ++ String.ofList (head :: tail))
            setterPrefix false = .ok (String.ofList (separator :: head :: tail)) := by
          rw [push_eq_append, property_joined setterPrefix (head :: tail) (by simp),
            lowercase_separator]
          rfl
        refine ⟨_, _, property_separated setterPrefix head tail, without, ?_⟩
        intro same
        exact lowercase_append_ne head tail (String.ofList_injective same)

/-- What is read from an identifier, whether or not a separator may follow the prefix. -/
structure FollowsGrammar (identifier setterPrefix : String) : Prop where
  missingPrefix_iff : ∀ snakeCase,
    property identifier setterPrefix snakeCase = .error .missingPrefix ↔
      ¬ ∃ rest, identifier = setterPrefix ++ rest
  missingProperty_iff : ∀ snakeCase,
    property identifier setterPrefix snakeCase = .error .missingProperty ↔
      identifier = setterPrefix ∨ (snakeCase = true ∧ identifier = setterPrefix.push separator)
  /-- Whatever else begins with the prefix is accepted. -/
  accepts_iff : ∀ snakeCase,
    (∃ name, property identifier setterPrefix snakeCase = .ok name ∧ name ≠ "") ↔
      (∃ rest, identifier = setterPrefix ++ rest) ∧ identifier ≠ setterPrefix ∧
        ¬ (snakeCase = true ∧ identifier = setterPrefix.push separator)
  ok_iff : ∀ snakeCase name,
    property identifier setterPrefix snakeCase = .ok name ↔
      Spells setterPrefix snakeCase identifier name
  /-- Allowing a separator costs one identifier. -/
  allowing_iff :
    (∃ name, property identifier setterPrefix true = .ok name) ↔
      (∃ name, property identifier setterPrefix false = .ok name) ∧
        identifier ≠ setterPrefix.push separator
  /-- The names differ where there is a separator to drop. -/
  differ_iff :
    (∃ name other, property identifier setterPrefix true = .ok name ∧
        property identifier setterPrefix false = .ok other ∧ name ≠ other) ↔
      (∃ name, property identifier setterPrefix true = .ok name) ∧
        ∃ rest, identifier = setterPrefix.push separator ++ rest

/-- Reading an identifier follows the grammar: what does not begin with the prefix has no
prefix, the prefix alone or with a separator that may follow it has no property, and everything
else is accepted under the name that it spells.  That a separator may follow costs the one
identifier that ends in it, and changes the names of those that go on behind it. -/
theorem property_follows_grammar (identifier setterPrefix : String) :
    FollowsGrammar identifier setterPrefix where
  missingPrefix_iff _ := property_eq_missingPrefix_iff
  missingProperty_iff _ := property_eq_missingProperty_iff
  accepts_iff snakeCase := by
    rw [← accepts_iff]
    constructor
    · rintro ⟨name, success, -⟩
      exact ⟨name, success⟩
    · rintro ⟨name, success⟩
      exact ⟨name, success, (property_eq_ok_iff.mp success).name_ne_empty⟩
  ok_iff _ _ := property_eq_ok_iff
  allowing_iff := by
    rw [accepts_iff, accepts_iff]
    simp [and_assoc]
  differ_iff := names_differ_iff

end Wiring.SetterName
