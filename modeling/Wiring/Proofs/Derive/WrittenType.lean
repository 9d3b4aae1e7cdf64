import Wiring.Derive.Expansion

/-!
# Optional, void and scalar types

The derivation reads a written type from its first token on and finds it optional from the
last part of a path.  This file describes the optional types by a grammar, says that
exactly these are found, and settles which types count as void and as scalar.  No type is
of two of these kinds.
-/

namespace Wiring.Derive

/-! ## Paths and their last parts -/

namespace PathPart

/-- What may stand between the name of a part and the parts after it. -/
inductive Arguments : List TokenTree → Prop
  | angle (content : List TokenTree) : Arguments [.group .angle content]
  | round (content : List TokenTree) : Arguments [.group (.bracket .round) content]
  | returning (content : List TokenTree) {result : List TokenTree}
      (single : holdsOneType result = true) :
      Arguments [.group (.bracket .round) content, .leaf (.symbol "->"),
        .group (.bracket .round) result]

/-- A part of a path that others follow. -/
inductive Leading : List TokenTree → Prop
  | name {name : String} (allowed : Word.mayStandInPath name = true) : Leading [.leaf (.word name)]
  | attached {name : String} {arguments : List TokenTree}
      (allowed : Word.mayStandInPath name = true) (following : Arguments arguments) :
      Leading (.leaf (.word name) :: arguments)
  | setOff {name : String} {arguments : List TokenTree}
      (allowed : Word.mayStandInPath name = true) (following : Arguments arguments) :
      Leading (.leaf (.word name) :: .leaf (.symbol "::") :: arguments)

/-- A path that ends in a part of the given name, with the given arguments between angle
brackets. -/
inductive EndsIn (name : String) (arguments : List TokenTree) : List TokenTree → Prop
  | attached : EndsIn name arguments [.leaf (.word name), .group .angle arguments]
  | setOff :
      EndsIn name arguments [.leaf (.word name), .leaf (.symbol "::"), .group .angle arguments]
  | after {leading rest : List TokenTree} (first : Leading leading)
      (others : EndsIn name arguments rest) :
      EndsIn name arguments (leading ++ .leaf (.symbol "::") :: rest)

variable {name last : String} {arguments? : Option (List TokenTree)} {part : PathPart}
  {arguments leading trees rest : List TokenTree} {parts : List PathPart}

/-- A path has a part. -/
theorem ne_nil_of_ofTrees? (read : ofTrees? trees = some parts) : parts ≠ [] := by
  fun_induction ofTrees? trees <;> grind [before?, Option.bind_eq_some_iff]

/-- The last part of a path is that of the path after its first part. -/
theorem getLast?_before?_iff :
    ((ofTrees? rest).bind (before? name arguments?)).bind List.getLast? = some part ↔
      Word.mayStandInPath name = true ∧ (ofTrees? rest).bind List.getLast? = some part := by
  cases others : ofTrees? rest with
  | none => simp
  | some parts =>
      obtain ⟨head, tail, rfl⟩ := List.exists_cons_of_ne_nil (ne_nil_of_ofTrees? others)
      by_cases allowed : Word.mayStandInPath name = true <;>
        simp [before?, allowed, List.getLast?_cons_cons]

/-- A part before others leaves the end of their path as it is. -/
theorem EndsIn.of_before?
    (leads : Word.mayStandInPath name = true → Leading leading)
    (others : (ofTrees? rest).bind List.getLast? = some ⟨last, some arguments⟩ →
      EndsIn last arguments rest)
    (read : ((ofTrees? rest).bind (before? name arguments?)).bind List.getLast? =
      some ⟨last, some arguments⟩) :
    EndsIn last arguments (leading ++ .leaf (.symbol "::") :: rest) :=
  have ⟨allowed, found⟩ := getLast?_before?_iff.mp read
  .after (leads allowed) (others found)

/-- Reading finds the last part of a path only if there is such a path. -/
theorem EndsIn.of_getLast?
    (read : (ofTrees? trees).bind List.getLast? = some ⟨last, some arguments⟩) :
    EndsIn last arguments trees := by
  fun_induction ofTrees? trees with
  | case1 name => grind [before?]
  | case2 name content =>
      obtain ⟨rfl, rfl⟩ : name = last ∧ content = arguments := by grind [before?]
      exact .attached
  | case3 name content =>
      obtain ⟨rfl, rfl⟩ : name = last ∧ content = arguments := by grind [before?]
      exact .setOff
  | case4 name content rest others =>
      exact .of_before? (.setOff · (.angle content)) others read
  | case5 name content rest others =>
      exact .of_before? (.attached · (.angle content)) others read
  | case6 name content result rest single others =>
      exact .of_before? (.setOff · (.returning content single)) others read
  | case7 => contradiction
  | case8 name content rest others =>
      exact .of_before? (.setOff · (.round content)) others read
  | case9 name content result rest single others =>
      exact .of_before? (.attached · (.returning content single)) others read
  | case10 => contradiction
  | case11 name content rest others =>
      exact .of_before? (.attached · (.round content)) others read
  | case12 name rest _ _ _ _ others => exact .of_before? .name others read
  | case13 => contradiction

/-- Every path begins with a name.  What follows a leading part is therefore not taken for its
arguments. -/
theorem EndsIn.eq_cons (path : EndsIn name arguments trees) :
    ∃ first rest, trees = .leaf (.word first) :: rest := by
  cases path with
  | attached => exact ⟨_, _, rfl⟩
  | setOff => exact ⟨_, _, rfl⟩
  | after first others => cases first <;> exact ⟨_, _, rfl⟩

/-- A leading part is read as one part before the others. -/
theorem Leading.ofTrees?_append {first : String} (leads : Leading leading) :
    ∃ name arguments?, Word.mayStandInPath name = true ∧
      ofTrees? (leading ++ .leaf (.symbol "::") :: .leaf (.word first) :: rest) =
        (ofTrees? (.leaf (.word first) :: rest)).bind (before? name arguments?) := by
  cases leads with
  | @name name allowed => exact ⟨name, none, allowed, by simp [ofTrees?]⟩
  | @attached name _ allowed following =>
      cases following with
      | angle content => exact ⟨name, some content, allowed, by simp [ofTrees?]⟩
      | round content => exact ⟨name, none, allowed, by simp [ofTrees?]⟩
      | returning content single => exact ⟨name, none, allowed, by simp [ofTrees?, single]⟩
  | @setOff name _ allowed following =>
      cases following with
      | angle content => exact ⟨name, some content, allowed, by simp [ofTrees?]⟩
      | round content => exact ⟨name, none, allowed, by simp [ofTrees?]⟩
      | returning content single => exact ⟨name, none, allowed, by simp [ofTrees?, single]⟩

/-- Reading a path finds its last part. -/
theorem EndsIn.getLast?_ofTrees? (allowed : Word.mayStandInPath name = true)
    (path : EndsIn name arguments trees) :
    (ofTrees? trees).bind List.getLast? = some ⟨name, some arguments⟩ := by
  induction path with
  | attached => simp [ofTrees?, before?, allowed]
  | setOff => simp [ofTrees?, before?, allowed]
  | after first others read =>
      obtain ⟨start, more, rfl⟩ := others.eq_cons
      obtain ⟨name, arguments?, leads, reads⟩ := first.ofTrees?_append
      rw [reads, getLast?_before?_iff]
      exact ⟨leads, read⟩

/-- Reading finds the last part of exactly the paths that end in it. -/
theorem getLast?_ofTrees?_iff (allowed : Word.mayStandInPath name = true) :
    (ofTrees? trees).bind List.getLast? = some ⟨name, some arguments⟩ ↔
      EndsIn name arguments trees :=
  ⟨EndsIn.of_getLast?, EndsIn.getLast?_ofTrees? allowed⟩

end PathPart

/-! ## The only argument -/

namespace TokenTree

variable {trees piece : List TokenTree} {others : List (List TokenTree)}

theorem cutAtCommas_ne_nil : cutAtCommas trees ≠ [] := by
  fun_cases cutAtCommas trees <;> simp

/-- The first piece of a list ends before its first comma, or with the list. -/
theorem cutAtCommas_eq_cons_iff :
    cutAtCommas trees = piece :: others ↔ .leaf (.symbol ",") ∉ piece ∧
      (trees = piece ∧ others = [] ∨
        ∃ rest, trees = piece ++ .leaf (.symbol ",") :: rest ∧ cutAtCommas rest = others) := by
  fun_induction cutAtCommas trees generalizing piece others with
  | case1 => cases piece <;> simp
  | case2 rest => cases piece <;> grind
  | case3 tree rest plain first more cut found =>
      cases piece with
      | nil => grind
      | cons head tail =>
          have tails := @found tail others
          rw [cut] at tails
          grind
  | case4 tree rest plain cut => exact absurd cut cutAtCommas_ne_nil

theorem cutAtCommas_eq_nil_singleton_iff : cutAtCommas trees = [[]] ↔ trees = [] := by
  rw [cutAtCommas_eq_cons_iff]
  simp [cutAtCommas_ne_nil]

/-- One piece is left if nothing is cut off behind it, or only an empty piece is. -/
theorem pieces_eq_singleton_iff_cutAtCommas :
    pieces trees = [piece] ↔
      cutAtCommas trees = [piece] ∧ piece ≠ [] ∨ cutAtCommas trees = [piece, []] := by
  unfold pieces
  split
  case h_1 others closed =>
    have ends : cutAtCommas trees = others.reverse ++ [[]] := by
      rw [← List.reverse_inj, closed, List.reverse_append]
      simp
    rw [ends, show [piece, []] = [piece] ++ [[]] from rfl, List.append_left_inj]
    grind
  case h_2 => grind

/-- There is one piece only where there is no comma, except perhaps one at the end. -/
theorem pieces_eq_singleton_iff :
    pieces trees = [piece] ↔ .leaf (.symbol ",") ∉ piece ∧
      (trees = piece ∧ piece ≠ [] ∨ trees = piece ++ [.leaf (.symbol ",")]) := by
  rw [pieces_eq_singleton_iff_cutAtCommas, cutAtCommas_eq_cons_iff, cutAtCommas_eq_cons_iff]
  simp only [cutAtCommas_ne_nil, cutAtCommas_eq_nil_singleton_iff]
  grind

/-- The arguments of a path are one argument, which is a type. -/
structure SoleType (arguments argument : List TokenTree) : Prop where
  type : WrittenType.isTypeArgument argument = true
  single : .leaf (.symbol ",") ∉ argument
  /-- A comma may close the list. -/
  listed : arguments = argument ∧ argument ≠ [] ∨ arguments = argument ++ [.leaf (.symbol ",")]

end TokenTree

namespace WrittenType

/-- A type that is a path and ends in a part of the given name, with the given arguments
between angle brackets. -/
inductive EndsIn (name : String) (arguments : List TokenTree) : WrittenType → Prop
  | relative {trees : List TokenTree} (path : PathPart.EndsIn name arguments trees) :
      EndsIn name arguments ⟨trees⟩
  | rooted {trees : List TokenTree} (path : PathPart.EndsIn name arguments trees) :
      EndsIn name arguments ⟨.leaf (.symbol "::") :: trees⟩
  | qualified (self : List TokenTree) {trees : List TokenTree}
      (path : PathPart.EndsIn name arguments trees) :
      EndsIn name arguments ⟨.group .angle self :: .leaf (.symbol "::") :: trees⟩

/-- A path whose last part is `Option` with exactly one argument, the given type. -/
def IsOptional (written inner : WrittenType) : Prop :=
  ∃ arguments, written.EndsIn "Option" arguments ∧
    TokenTree.SoleType arguments inner.trees

variable {written inner : WrittenType} {name : String} {arguments : List TokenTree}

/-- What stands before the first part of a path has no influence on the last one. -/
theorem getLast?_path?_iff (allowed : Word.mayStandInPath name = true) :
    written.path?.bind List.getLast? = some ⟨name, some arguments⟩ ↔
      written.EndsIn name arguments := by
  have ends := fun trees => @PathPart.getLast?_ofTrees?_iff name arguments trees allowed
  constructor
  · intro read
    obtain ⟨trees⟩ := written
    unfold path? at read
    split at read
    case h_1 rest begins =>
      cases begins
      exact .rooted ((ends rest).mp read)
    case h_2 self rest begins =>
      cases begins
      exact .qualified self ((ends rest).mp read)
    case h_3 => exact .relative ((ends trees).mp read)
  · rintro (path | path | ⟨self, path⟩)
    · -- The first token is a name, which tells this form of a path from the other two.
      obtain ⟨first, rest, rfl⟩ := path.eq_cons
      exact (ends _).mpr path
    · exact (ends _).mpr path
    · exact (ends _).mpr path

/-- The derivation finds exactly the optional types, with the type that each is about. -/
theorem optional?_eq_some_iff : written.optional? = some inner ↔ written.IsOptional inner := by
  have ends := fun arguments => @getLast?_path?_iff written "Option" arguments (by decide)
  unfold optional? IsOptional
  constructor
  · intro found
    split at found
    case h_1 name arguments last =>
      split at found
      case h_1 argument sole =>
        split at found
        case isTrue kept =>
          obtain ⟨rfl, type⟩ := kept
          obtain ⟨single, listed⟩ := TokenTree.pieces_eq_singleton_iff.mp sole
          cases found
          exact ⟨arguments, (ends arguments).mp last, type, single, listed⟩
        case isFalse => contradiction
      case h_2 => contradiction
    case h_2 => contradiction
  · rintro ⟨arguments, path, type, single, listed⟩
    simp [(ends arguments).mpr path, TokenTree.pieces_eq_singleton_iff.mpr ⟨single, listed⟩, type,
      optionWord]

/-! ## What written types count as -/

/-- The type without values. -/
def unit : WrittenType := ⟨[.group (.bracket .round) []]⟩

/-- What a written type counts as: the type without values as void, the bare name of a scalar
as primitive, and everything else as a reference. -/
structure CountsAs (written : WrittenType) (kind : ValueKind) : Prop where
  void : kind = .void ↔ written = unit
  primitive : kind = .primitive ↔ ∃ name ∈ scalarWords, written = word name

theorem isUnit_iff : written.isUnit = true ↔ written = unit := by
  obtain ⟨trees⟩ := written
  simp only [isUnit, unit, mk.injEq]
  split <;> simp_all

theorem isScalar_iff : written.isScalar = true ↔ ∃ name ∈ scalarWords, written = word name := by
  obtain ⟨trees⟩ := written
  unfold isScalar word
  split <;> simp_all

theorem unit_ne_word : unit ≠ word name := by simp [unit, word]

theorem countsAs_valueKind : written.CountsAs written.valueKind := by
  unfold valueKind
  split
  case isTrue takesNothing =>
    rw [isUnit_iff] at takesNothing
    subst takesNothing
    exact ⟨by simp, by simp [unit_ne_word]⟩
  case isFalse takes =>
    rw [isUnit_iff] at takes
    split
    case isTrue scalar => exact ⟨by simp [takes], by simpa using isScalar_iff.mp scalar⟩
    case isFalse other =>
      rw [isScalar_iff] at other
      exact ⟨by simp [takes], by simpa using other⟩

theorem optional?_unit : unit.optional? = none := rfl

theorem optional?_word : (word name).optional? = none := by
  by_cases allowed : Word.mayStandInPath name = true <;>
    simp [optional?, path?, word, PathPart.ofTrees?, PathPart.before?, allowed]

/-- An optional type is neither void nor a scalar. -/
theorem IsOptional.valueKind_eq (optional : written.IsOptional inner) :
    written.valueKind = .reference := by
  rw [← optional?_eq_some_iff] at optional
  have takes : ¬ written.isUnit = true := by
    rw [isUnit_iff]
    rintro rfl
    rw [optional?_unit] at optional
    contradiction
  have composed : ¬ written.isScalar = true := by
    rw [isScalar_iff]
    rintro ⟨name, -, rfl⟩
    rw [optional?_word] at optional
    contradiction
  rw [valueKind, if_neg takes, if_neg composed]

end WrittenType

end Wiring.Derive
