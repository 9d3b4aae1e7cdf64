import Wiring.Derive.Token

/-!
# Where tokens stand in a text

A step of the reader takes something from the start of a text and leaves the rest of it.
Nothing is made up on the way: a word stands in the text exactly as it is read, with nothing
taken away from it and nothing added.  Only comments may stand for tokens that are not
written there, and those do not begin with a word.
-/

namespace Wiring.Derive

/-! ## Comments -/

namespace Comment

variable {text rest : List Char}

theorem suffix_of_opening? {extent : Extent} {role : CommentRole}
    (opened : opening? text = some (extent, role, rest)) : rest <:+ text := by
  unfold opening? at opened
  split at opened
  all_goals
    first
    | contradiction
    | cases opened
      simp only [List.suffix_cons_iff, List.suffix_refl, or_true]

theorem suffix_cutLine (text : List Char) : (cutLine text).2 <:+ text := by
  fun_induction cutLine text with
  | case1 => exact List.suffix_refl _
  | case2 rest => exact List.suffix_refl _
  | case3 rest => exact List.suffix_cons _ _
  | case4 head rest _ _ inductionHypothesis =>
      exact inductionHypothesis.trans (List.suffix_cons _ _)

theorem suffix_of_cutBlock? {depth : Nat} {parts : List Char × List Char}
    (closed : cutBlock? depth text = some parts) : parts.2 <:+ text := by
  fun_induction cutBlock? depth text generalizing parts with
  | case1 => contradiction
  | case2 rest =>
      cases closed
      exact ⟨['*', '/'], rfl⟩
  | case3 depth rest inductionHypothesis =>
      obtain ⟨inner, found, rfl⟩ := Option.map_eq_some_iff.mp closed
      exact (inductionHypothesis found).trans ⟨['*', '/'], rfl⟩
  | case4 depth rest inductionHypothesis =>
      obtain ⟨inner, found, rfl⟩ := Option.map_eq_some_iff.mp closed
      exact (inductionHypothesis found).trans ⟨['/', '*'], rfl⟩
  | case5 depth head rest _ _ _ inductionHypothesis =>
      obtain ⟨inner, found, rfl⟩ := Option.map_eq_some_iff.mp closed
      exact (inductionHypothesis found).trans (List.suffix_cons _ _)

theorem suffix_of_accept {role : CommentRole} {parts : List Char × List Char} {comment : Comment}
    (accepted : read?.accept role parts = some (comment, rest)) (inside : parts.2 <:+ text) :
    rest <:+ text := by
  unfold read?.accept at accepted
  split at accepted
  · cases accepted
    exact inside
  · contradiction

/-- A comment leaves the rest of the text. -/
theorem suffix_of_read? {comment : Comment} (read : read? text = some (comment, rest)) :
    rest <:+ text := by
  unfold read? at read
  split at read
  case h_1 role inner opened =>
    exact suffix_of_accept read ((suffix_cutLine inner).trans (suffix_of_opening? opened))
  case h_2 role inner opened =>
    obtain ⟨parts, closed, accepted⟩ := Option.bind_eq_some_iff.mp read
    exact suffix_of_accept accepted
      ((suffix_of_cutBlock? closed).trans (suffix_of_opening? opened))
  case h_3 => contradiction

end Comment

/-! ## Words -/

namespace Token

variable {text rest : List Char} {token : Token} {taken others : List Token} {word : String}

theorem prefix_before (text rest : List Char) : (before text rest).toList <+: text := by
  rw [before, String.toList_ofList]
  exact List.take_prefix _ _

theorem ofComment_ne_word_cons (comment : Comment) : ofComment comment ≠ .word word :: others := by
  unfold ofComment
  cases comment.role <;> simp

theorem ne_word_of_literal? (found : literal? text = some (token, rest)) :
    token ≠ .word word := by
  obtain ⟨remaining, -, same⟩ := Option.map_eq_some_iff.mp found
  cases same
  simp

theorem ne_word_of_symbol? (found : symbol? text = some (token, rest)) :
    token ≠ .word word := by
  unfold symbol? at found
  repeat' split at found
  all_goals
    first
    | contradiction
    | cases found
      simp

/-- A word is taken as it stands. -/
theorem exists_word_of_word? (found : word? text = some (token, rest)) :
    ∃ word, token = .word word ∧ word.toList <+: text := by
  unfold word? at found
  split at found
  · contradiction
  · obtain ⟨remaining, -, same⟩ := Option.map_eq_some_iff.mp found
    cases same
    exact ⟨_, rfl, prefix_before text _⟩

/-- A step takes blanks, or something that does not begin with a word, or a word as it
stands. -/
theorem next?_cases (step : next? text = some (taken, rest)) :
    (taken = [] ∧ rest <:+ text) ∨
      (∃ first others, taken = first :: others ∧ ∀ word, first ≠ .word word) ∨
        ∃ word, taken = [.word word] ∧ word.toList <+: text := by
  unfold next? at step
  split at step
  case h_1 => contradiction
  case h_2 head tail =>
    split at step
    case isTrue blank =>
      cases step
      exact Or.inl ⟨rfl, List.suffix_cons _ _⟩
    case isFalse =>
      split at step
      case isTrue opening =>
        obtain ⟨⟨comment, remaining⟩, read, same⟩ := Option.map_eq_some_iff.mp step
        cases same
        cases held : ofComment comment with
        | nil => exact Or.inl ⟨rfl, Comment.suffix_of_read? read⟩
        | cons first others =>
            refine Or.inr (Or.inl ⟨first, others, rfl, ?_⟩)
            rintro word rfl
            exact ofComment_ne_word_cons comment held
      case isFalse =>
        obtain ⟨⟨token, remaining⟩, found, same⟩ := Option.map_eq_some_iff.mp step
        cases same
        rcases Option.or_eq_some_iff.mp found with literal | ⟨-, found⟩
        · exact Or.inr (Or.inl ⟨token, [], rfl, fun _ => ne_word_of_literal? literal⟩)
        · rcases Option.or_eq_some_iff.mp found with symbol | ⟨-, found⟩
          · exact Or.inr (Or.inl ⟨token, [], rfl, fun _ => ne_word_of_symbol? symbol⟩)
          · obtain ⟨word, rfl, stands⟩ := exists_word_of_word? found
            exact Or.inr (Or.inr ⟨word, rfl, stands⟩)

theorem suffix_dropByteOrderMark (text : List Char) : dropByteOrderMark text <:+ text := by
  unfold dropByteOrderMark
  split
  · exact List.suffix_cons _ _
  · exact List.suffix_refl _

/-- A word that a text begins with stands in it. -/
theorem infix_of_cut? {steps : Nat} (cut : cut? steps text = some (.word word :: others)) :
    word.toList <:+: text := by
  induction steps generalizing text with
  | zero => cases text <;> simp [cut?] at cut
  | succ steps inductionHypothesis =>
      cases text with
      | nil => simp [cut?] at cut
      | cons head tail =>
          obtain ⟨⟨taken, rest⟩, step, remaining⟩ := Option.bind_eq_some_iff.mp cut
          obtain ⟨later, cutRest, all⟩ := Option.map_eq_some_iff.mp remaining
          rcases next?_cases step with
            ⟨rfl, suffix⟩ | ⟨first, held, rfl, other⟩ | ⟨first, rfl, stands⟩
          · cases all
            exact (inductionHypothesis cutRest).trans suffix.isInfix
          · cases all
            exact absurd rfl (other word)
          · cases all
            exact stands.isInfix

end Token

end Wiring.Derive
