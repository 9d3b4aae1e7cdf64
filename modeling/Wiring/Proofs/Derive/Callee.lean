import Wiring.Proofs.Derive.Expansion
import Wiring.Proofs.Derive.Options
import Wiring.Proofs.Derive.Token

/-!
# What members are called and what is done to bind them

A field goes by its name without the raw mark, whatever mark stands in the assignment.  A
setter goes by the text that announces it, exactly as that is given, while the call is to the
one word that is read from the text.  The two are the same name only where the text is that
word and the word carries no raw mark: a mark, a blank or a comment in the text is in the
identifier as well.
-/

namespace Wiring.Derive

open AttributeOption

/-- The identifier that is read from a text stands in it. -/
theorem infix_of_methodIdentifier {text callee : String}
    (read : methodIdentifier text = .ok callee) : callee.toList <:+: text.toList := by
  rcases methodIdentifier_eq_ok_iff.mp read with ⟨cut, -⟩
  exact (Token.infix_of_cut? cut).trans (Token.suffix_dropByteOrderMark _).isInfix

/-- A text in which a word stands is the word without its mark only if it is the word and the
word has no mark. -/
theorem eq_unraw_iff_of_infix {text word : String} (stands : word.toList <:+: text.toList) :
    text = Word.unraw word ↔ text = word ∧ ¬ ['r', '#'] <+: word.toList := by
  constructor
  · intro same
    by_cases raw : ['r', '#'] <+: word.toList
    · obtain ⟨rest, spelled⟩ := raw
      have shorter : text.toList = rest := by
        simp [same, Word.unraw, ← spelled]
      have longer := stands.length_le
      rw [shorter, ← spelled, List.length_append] at longer
      exact absurd longer (by simp)
    · rw [Word.unraw_of_not_raw raw] at same
      exact ⟨same, raw⟩
  · rintro ⟨same, plain⟩
    rw [Word.unraw_of_not_raw plain, same]

/-- The member goes by the text of a method name and calls the method that is read from it. -/
structure ExpandedMember.CallsBy (member : ExpandedMember) (text callee : String) : Prop where
  ident : member.ident = text
  read : methodIdentifier text = .ok callee
  /-- The text may hold more than the name, but not less. -/
  stands : callee.toList <:+: text.toList
  calls : ∀ binder, member.binder? = some binder →
    ∃ fallible, binder.action = .call callee fallible
  ident_iff : member.ident = Word.unraw callee ↔ text = callee ∧ ¬ ['r', '#'] <+: callee.toList

/-- The member goes by the name of the field that is assigned to. -/
def ExpandedMember.AssignsBy (member : ExpandedMember) (field : String) : Prop :=
  member.ident = Word.unraw field ∧ ∀ binder, member.binder? = some binder →
    ∃ wrapped, binder.action = .assign field wrapped

theorem SetterSource.ReadFrom.callsBy {setter : SetterSource} {given : List AttributeOption}
    (read : setter.ReadFrom given) (owner : String) :
    (setter.expand owner).CallsBy setter.method setter.callee := by
  have stands := infix_of_methodIdentifier read.callee
  constructor
  case ident => rfl
  case read => exact read.callee
  case stands => exact stands
  case calls =>
    intro binder bound
    change (if setter.type.isUnit then none else some _) = some binder at bound
    split at bound
    · contradiction
    · cases bound
      exact ⟨_, rfl⟩
  case ident_iff => exact eq_unraw_iff_of_infix stands

theorem FieldSource.assignsBy_of_expand? {owner : String} {field : FieldSource}
    {mode : FieldMode} {member : ExpandedMember}
    (expanded : field.expand? owner mode = some member) : member.AssignsBy field.name := by
  cases mode with
  | plain =>
      cases expanded
      refine ⟨rfl, ?_⟩
      intro binder bound
      contradiction
  | marked options =>
      cases expanded
      refine ⟨rfl, ?_⟩
      rintro binder ⟨⟩
      exact ⟨_, rfl⟩
  | parent => contradiction

/-- What the members of an expansion are called, compared with what is done to bind them. -/
structure Expansion.Names (expansion : Expansion) (source : Source) : Prop where
  fields : ∀ member ∈ expansion.fields, ∃ field ∈ source.fields, member.AssignsBy field.name
  setters : List.Forall₂
    (fun option member => ∃ given text callee, option = .nested "setter" given ∧
      lastText? "method" given = some text ∧ member.CallsBy text callee)
    ((Attribute.relevant source.attributes).flatMap AttributeBody.given) expansion.setters

/-- A field always goes by the name of what is assigned to, and a setter goes by the name of
what is called exactly if it is announced by that name and nothing else. -/
theorem Source.expand_names {source : Source} {expansion : Expansion}
    (accepted : source.expand = .ok expansion) : expansion.Names source := by
  obtain ⟨entries, setters, read, announced, rfl⟩ := Source.expand_eq_ok accepted
  obtain ⟨order, -, -⟩ := FieldMode.ofFields_eq_ok read
  constructor
  case fields =>
    intro member present
    obtain ⟨entry, listed, expanded⟩ := List.mem_filterMap.mp present
    refine ⟨entry.1, ?_, FieldSource.assignsBy_of_expand? expanded⟩
    rw [← order]
    exact List.mem_map_of_mem listed
  case setters =>
    change List.Forall₂ _ _ (setters.map _)
    rw [List.forall₂_map_right_iff]
    exact (SetterSource.announcedBy_of_ofBodies announced).imp
      fun option setter ⟨given, listed, read⟩ =>
        ⟨given, setter.method, setter.callee, listed, read.method, read.callsBy source.name⟩

/-! ## A valve

One setter of a valve is announced by its name, one under the raw mark and one with blanks
around it. -/

namespace Valve

def valve : Source where
  name := "Valve"
  generics := ""
  shape := .named
  fields := [⟨"r#in", .ofText "Flow", [⟨"inject", .bare⟩]⟩]
  attributes :=
    [⟨"inject", .options
        [.nested "setter" [.text "method" "set_flow", .type "ty" (.ofText "Flow")],
          .nested "setter" [.text "method" "r#set_gate", .type "ty" (.ofText "Gate")],
          .nested "setter" [.text "method" " set_seal ", .type "ty" (.ofText "()")]]⟩]

/-- The setter that goes by a name with the raw mark. -/
def gate : ExpandedMember :=
  ⟨.setter, "r#set_gate", .reference, .word "Gate", [.plain "resource"],
    some ⟨"Valve", .word "Gate", .call "r#set_gate" false⟩⟩

def valveExpansion : Expansion where
  type := "Valve"
  name := "Valve"
  fields :=
    [⟨.field, "in", .reference, .word "Flow", [.plain "resource"],
        some ⟨"Valve", .word "Flow", .assign "r#in" false⟩⟩]
  setters :=
    [⟨.setter, "set_flow", .reference, .word "Flow", [.plain "resource"],
        some ⟨"Valve", .word "Flow", .call "set_flow" false⟩⟩,
      gate,
      ⟨.setter, " set_seal ", .void, .ofText "()", [.plain "resource"], none⟩]
  parent? := none

set_option maxRecDepth 2000 in
theorem expand_valve : valve.expand = .ok valveExpansion :=
  rfl

/-- The field of a valve goes by the name without its mark, and its setters go by the texts
that announce them. -/
theorem names_valve : valve.expand = .ok valveExpansion ∧ valveExpansion.Names valve :=
  ⟨expand_valve, Source.expand_names expand_valve⟩

/-- The gate does not go by the name of the method that is called, without its mark. -/
theorem ident_ne_unraw_callee_of_gate :
    ¬ ∀ (source : Source) (expansion : Expansion), source.expand = .ok expansion →
      ∀ member ∈ expansion.setters, ∀ binder callee fallible,
        member.binder? = some binder → binder.action = .call callee fallible →
          member.ident = Word.unraw callee := by
  intro always
  have present : gate ∈ valveExpansion.setters := List.mem_cons_of_mem _ List.mem_cons_self
  have same := always valve valveExpansion expand_valve gate present _ _ _ rfl rfl
  exact absurd same (by decide)

end Valve

end Wiring.Derive
