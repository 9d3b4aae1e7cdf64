import Mathlib
import Wiring.Text.Lowercase

/-!
# Small letters have no other lower-case form

No small letter of the table is itself a capital of the table, so that a character is put into
lower case once and for all.  This is checked for two runs at a time.  What one run leads to
lies on one side of the other, or goes by its strides from where that run never stands.
-/

namespace Wiring.Text

/-- Nothing that the first run leads to is held by the second. -/
def CaseRun.avoids (run other : CaseRun) : Bool :=
  (run.lower run.last).blt other.first || other.last.blt run.image ||
    (run.first == run.last || run.stride % other.stride == 0) &&
      run.image % other.stride != other.first % other.stride

/-- All that the run leads to are characters. -/
def CaseRun.isValid (run : CaseRun) : Bool :=
  run.lower run.last < 0xD800 || 0xDFFF < run.image && run.lower run.last < 0x110000

/-- The capital whose form has two characters, as if the first of them were its form. -/
def dottedRun : CaseRun := ⟨0x130, 0x130, 1, 0x69⟩

/-- The code point is not that of a capital. -/
def IsSmall (code : Nat) : Prop :=
  ∀ run ∈ dottedRun :: caseRuns, run.contains code = false

namespace CaseRun

variable {run other : CaseRun} {code : Nat}

theorem contains_iff :
    run.contains code = true ↔
      run.first ≤ code ∧ code ≤ run.last ∧ run.stride ∣ code - run.first := by
  simp [contains, and_assoc, Nat.dvd_iff_mod_eq_zero]

theorem image_le_lower (run : CaseRun) (code : Nat) : run.image ≤ run.lower code :=
  Nat.le_add_right run.image (code - run.first)

theorem lower_le_lower_last (inside : run.contains code = true) :
    run.lower code ≤ run.lower run.last := by
  have below := (contains_iff.mp inside).2.1
  exact Nat.add_le_add_left (Nat.sub_le_sub_right below run.first) run.image

theorem mod_of_contains (inside : run.contains code = true) :
    code % run.stride = run.first % run.stride := by
  rcases contains_iff.mp inside with ⟨above, -, steps, offset⟩
  have code_eq : code = run.first + run.stride * steps := by omega
  rw [code_eq, Nat.add_mul_mod_self_left]

/-- A run whose strides are whole strides of another one stays where it is against that one. -/
theorem mod_lower (inside : run.contains code = true)
    (inStep : run.first = run.last ∨ other.stride ∣ run.stride) :
    run.lower code % other.stride = run.image % other.stride := by
  rcases contains_iff.mp inside with ⟨above, below, strides⟩
  have offset : other.stride ∣ code - run.first := by
    rcases inStep with single | multiple
    · have still : code - run.first = 0 := by omega
      rw [still]
      exact Nat.dvd_zero other.stride
    · exact Nat.dvd_trans multiple strides
  rcases offset with ⟨steps, offset⟩
  rw [lower, offset, Nat.add_mul_mod_self_left]

theorem not_contains_lower (apart : run.avoids other = true)
    (inside : run.contains code = true) : other.contains (run.lower code) = false := by
  rw [Bool.eq_false_iff]
  intro held
  rcases contains_iff.mp held with ⟨above, below, -⟩
  have least := run.image_le_lower code
  have most := lower_le_lower_last inside
  simp only [avoids, Bool.or_eq_true, Bool.and_eq_true, Nat.blt_eq, beq_iff_eq, bne_iff_ne,
    ← Nat.dvd_iff_mod_eq_zero] at apart
  rcases apart with (before | beyond) | ⟨inStep, elsewhere⟩
  · omega
  · omega
  · exact elsewhere ((mod_lower inside inStep).symm.trans (mod_of_contains held))

theorem isValidChar_lower (valid : run.isValid = true) (inside : run.contains code = true) :
    (run.lower code).isValidChar := by
  have least := run.image_le_lower code
  have most := lower_le_lower_last inside
  simp only [isValid, Bool.or_eq_true, Bool.and_eq_true, decide_eq_true_eq] at valid
  unfold Nat.isValidChar
  omega

end CaseRun

/-! ## The whole table -/

theorem all_avoid :
    (dottedRun :: caseRuns).all (fun run => (dottedRun :: caseRuns).all run.avoids) = true := by
  decide +kernel

theorem isValid_of_mem : ∀ run ∈ caseRuns, run.isValid = true := by
  decide +kernel

theorem isSmall_lower {run : CaseRun} {code : Nat} (present : run ∈ dottedRun :: caseRuns)
    (inside : run.contains code = true) : IsSmall (run.lower code) := by
  intro other otherMem
  have apart := List.all_eq_true.mp (List.all_eq_true.mp all_avoid run present) other otherMem
  exact CaseRun.not_contains_lower apart inside

/-- A code point is in a run of the table, which then says its small letter, or in none. -/
theorem lowerCode_cases (code : Nat) :
    (∃ run ∈ caseRuns, run.contains code = true ∧ lowerCode code = run.lower code) ∨
      ∀ run ∈ caseRuns, run.contains code = false := by
  cases search : caseRuns.find? (·.contains code) with
  | some run =>
      have lowered : lowerCode code = run.lower code := by simp [lowerCode, search]
      have inside : run.contains code = true := by simpa using List.find?_some search
      exact Or.inl ⟨run, List.mem_of_find?_eq_some search, inside, lowered⟩
  | none => exact Or.inr (by simpa using search)

theorem toNat_ofNat_lowerCode (character : Char) :
    (Char.ofNat (lowerCode character.toNat)).toNat = lowerCode character.toNat := by
  rcases lowerCode_cases character.toNat with ⟨run, present, inside, lowered⟩ | outside
  · have valid := CaseRun.isValidChar_lower (isValid_of_mem run present) inside
    rw [lowered, Char.toNat_ofNat, if_pos valid]
  · rw [lowerCode_eq_self outside, Char.ofNat_toNat]

theorem isSmall_lowerCode {code : Nat} (undotted : code ≠ 0x130) : IsSmall (lowerCode code) := by
  rcases lowerCode_cases code with ⟨run, present, inside, lowered⟩ | outside
  · rw [lowered]
    exact isSmall_lower (List.mem_cons_of_mem dottedRun present) inside
  · rw [lowerCode_eq_self outside]
    intro run present
    rcases List.mem_cons.mp present with rfl | present
    · rw [Bool.eq_false_iff]
      intro inside
      rcases CaseRun.contains_iff.mp inside with ⟨above, below, -⟩
      exact undotted (Nat.le_antisymm below above)
    · exact outside run present

theorem lowercase_of_isSmall {character : Char} (small : IsSmall character.toNat) :
    lowercase character = [character] := by
  have undotted : character ≠ '\u0130' := by
    rintro rfl
    exact absurd (small dottedRun List.mem_cons_self) (by decide)
  have outside := fun run present => small run (List.mem_cons_of_mem dottedRun present)
  rw [lowercase, if_neg undotted, lowerCode_eq_self outside, Char.ofNat_toNat]

/-- A lower-case form begins with a character that is its own lower-case form. -/
theorem lowercase_head {character first : Char} {rest : List Char}
    (form : lowercase character = first :: rest) : lowercase first = [first] := by
  apply lowercase_of_isSmall
  by_cases dotted : character = '\u0130'
  · rw [lowercase, if_pos dotted] at form
    cases form
    have inside : dottedRun.contains 0x130 = true := by decide
    have small : IsSmall (dottedRun.lower 0x130) := isSmall_lower List.mem_cons_self inside
    exact small
  · rw [lowercase, if_neg dotted] at form
    cases form
    rw [toNat_ofNat_lowerCode]
    apply isSmall_lowerCode
    intro same
    exact dotted (Char.toNat_inj.mp same)

/-! ## The Latin alphabet -/

variable {letter : Char}

theorem bounds_of_isLower (small : letter.isLower = true) :
    0x61 ≤ letter.toNat ∧ letter.toNat ≤ 0x7A := by
  simp only [Char.isLower, Bool.and_eq_true, decide_eq_true_eq, ge_iff_le,
    UInt32.le_iff_toNat_le] at small
  exact small

theorem toNat_toUpper (small : letter.isLower = true) :
    letter.toUpper.toNat + 0x20 = letter.toNat := by
  rcases bounds_of_isLower small with ⟨least, most⟩
  have valid : (letter.toNat - 0x20).isValidChar := Or.inl (by omega)
  rw [Char.toUpper_eq_of_isLower small, Char.toNat_ofNat, if_pos valid]
  omega

/-- The capitals of the Latin alphabet are the first run of the table. -/
theorem lowerCode_of_latin {code : Nat} (least : 0x41 ≤ code) (most : code ≤ 0x5A) :
    lowerCode code = code + 0x20 := by
  have inside : CaseRun.contains ⟨0x41, 0x5A, 1, 0x61⟩ code = true :=
    CaseRun.contains_iff.mpr ⟨least, most, Nat.one_dvd _⟩
  have search : caseRuns.find? (·.contains code) = some ⟨0x41, 0x5A, 1, 0x61⟩ :=
    List.find?_cons_of_pos inside
  rw [lowerCode, search]
  change 0x61 + (code - 0x41) = code + 0x20
  omega

/-- The form of a Latin capital is the letter that it is the capital of. -/
theorem lowercase_toUpper (small : letter.isLower = true) :
    lowercase letter.toUpper = [letter] := by
  rcases bounds_of_isLower small with ⟨least, most⟩
  have moved := toNat_toUpper small
  have undotted : letter.toUpper ≠ '\u0130' := by
    intro dotted
    rw [dotted] at moved
    change 0x130 + 0x20 = letter.toNat at moved
    omega
  rw [lowercase, if_neg undotted, lowerCode_of_latin (by omega) (by omega), moved,
    Char.ofNat_toNat]

end Wiring.Text
