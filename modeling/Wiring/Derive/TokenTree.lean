import Wiring.Derive.Token

/-!
# Tokens in their brackets

Tokens between a pair of brackets belong together.  Angle brackets enclose the
arguments of a path in a type, but the same signs compare numbers in an
expression, so they are matched separately, and only among the tokens that stand
side by side: what is inside another pair of brackets stays as it is.
-/

namespace Wiring.Derive

/-- What a group of tokens stands between. -/
inductive Enclosure where
  | bracket (kind : Bracket)
  | angle
  deriving DecidableEq, Repr

/-- The sign that opens a group. -/
def Enclosure.openingText : Enclosure → String
  | .bracket kind => kind.openingText
  | .angle => "<"

/-- The sign that closes a group. -/
def Enclosure.closingText : Enclosure → String
  | .bracket kind => kind.closingText
  | .angle => ">"

/-- A token, or a group of them with its enclosure. -/
inductive TokenTree where
  | leaf (token : Token)
  | group (enclosure : Enclosure) (content : List TokenTree)

namespace TokenTree

mutual

/-- A tree as text. -/
def text : TokenTree → String
  | leaf token => token.text
  | group enclosure content =>
      enclosure.openingText ++ texts content ++ enclosure.closingText

/-- Trees as one text, without any blanks between the tokens. -/
def texts : List TokenTree → String
  | [] => ""
  | tree :: rest => tree.text ++ texts rest

end

/-- A group that is still open. -/
structure Frame where
  enclosure : Enclosure
  /-- What the group holds so far, last first. -/
  content : List TokenTree

/-- The groups that are open at some point of a text, innermost first. -/
structure Builder where
  /-- What stands outside all open groups, last first. -/
  outside : List TokenTree
  frames : List Frame

namespace Builder

/-- Nothing is read, and no group is open. -/
def start : Builder := ⟨[], []⟩

/-- Put a tree into the innermost group. -/
def push (builder : Builder) (tree : TokenTree) : Builder :=
  match builder.frames with
  | [] => { builder with outside := tree :: builder.outside }
  | frame :: outer =>
      { builder with frames := { frame with content := tree :: frame.content } :: outer }

/-- Open a group. -/
def enter (builder : Builder) (enclosure : Enclosure) : Builder :=
  { builder with frames := ⟨enclosure, []⟩ :: builder.frames }

/-- Close the innermost group, which has to be of the given enclosure. -/
def leave (builder : Builder) (enclosure : Enclosure) : Option Builder :=
  match builder.frames with
  | [] => none
  | frame :: outer =>
      if frame.enclosure = enclosure then
        some ({ builder with frames := outer }.push (.group enclosure frame.content.reverse))
      else none

/-- Take one more token. -/
def takeToken (builder : Builder) : Token → Option Builder
  | .opening bracket => some (builder.enter (.bracket bracket))
  | .closing bracket => builder.leave (.bracket bracket)
  | token => some (builder.push (.leaf token))

/-- Take one more tree, where angle brackets enclose groups. -/
def takeTree (builder : Builder) : TokenTree → Option Builder
  | .leaf (.symbol "<") => some (builder.enter .angle)
  | .leaf (.symbol ">") => builder.leave .angle
  | tree => some (builder.push tree)

/-- The trees, once every group is closed. -/
def finish (builder : Builder) : Option (List TokenTree) :=
  match builder.frames with
  | [] => some builder.outside.reverse
  | _ :: _ => none

end Builder

/-- The trees of a text.  There are none if the brackets do not match. -/
def ofTokens? (tokens : List Token) : Option (List TokenTree) :=
  (tokens.foldlM Builder.takeToken Builder.start).bind Builder.finish

/-- Trees with the groups between angle brackets put together.  There are none if
the angle brackets do not match. -/
def groupAngles? (trees : List TokenTree) : Option (List TokenTree) :=
  (trees.foldlM Builder.takeTree Builder.start).bind Builder.finish

end TokenTree

end Wiring.Derive
