import Wiring.Derive.TokenTree

/-!
# Types as they are written

A declaration gives the types of its members as text, and the derivation goes by
the text alone.  It does not know what a name refers to: a type is taken for a
scalar when it is written as one bare word that names a scalar, and for optional
when it is a path whose last part is `Option` with exactly one type as its
argument, whatever stands before that part.
-/

namespace Wiring.Derive

/-- A type as it is written. -/
structure WrittenType where
  /-- Its tokens in their brackets. -/
  trees : List TokenTree

/-- The words that name a scalar type. -/
def scalarWords : List String :=
  ["bool", "char", "i8", "i16", "i32", "i64", "i128", "isize", "u8", "u16", "u32", "u64", "u128",
   "usize", "f32", "f64"]

/-- The word that names an optional type. -/
def optionWord : String := "Option"

/-- Cut a list at its commas. -/
def TokenTree.cutAtCommas : List TokenTree → List (List TokenTree)
  | [] => [[]]
  | .leaf (.symbol ",") :: rest => [] :: cutAtCommas rest
  | tree :: rest =>
      match cutAtCommas rest with
      | first :: others => (tree :: first) :: others
      | [] => [[tree]]

/-- The pieces between the commas of a list.  A comma at the end separates
nothing, and an empty list has no pieces. -/
def TokenTree.pieces (trees : List TokenTree) : List (List TokenTree) :=
  match (cutAtCommas trees).reverse with
  | [] :: others => others.reverse
  | _ => cutAtCommas trees

/-- One part of a path, with its arguments between angle brackets if it has
any. -/
structure PathPart where
  name : String
  arguments? : Option (List TokenTree)

namespace PathPart

/-- Put a part before others, unless its name may not stand in a path. -/
def before? (name : String) (arguments? : Option (List TokenTree)) (parts : List PathPart) :
    Option (List PathPart) :=
  if Word.mayStandInPath name then some (⟨name, arguments?⟩ :: parts) else none

/-- Whether parentheses hold one type, so that they make no tuple of it. -/
def holdsOneType (content : List TokenTree) : Bool :=
  match content, TokenTree.groupAngles? content with
  | .leaf (.symbol "?") :: _, _ => false
  | _ :: _, some trees => (TokenTree.cutAtCommas trees).length = 1
  | _, _ => false

/-- The parts of a path.  Arguments may be set off from the name by a path
separator of their own.  They may also stand in parentheses, with the result of a
function after them; the path goes on after a result only if that is a type in
parentheses itself. -/
def ofTrees? : List TokenTree → Option (List PathPart)
  | [.leaf (.word name)] => before? name none []
  | [.leaf (.word name), .group .angle arguments] => before? name (some arguments) []
  | [.leaf (.word name), .leaf (.symbol "::"), .group .angle arguments] =>
      before? name (some arguments) []
  | .leaf (.word name) :: .leaf (.symbol "::") :: .group .angle arguments ::
      .leaf (.symbol "::") :: rest => (ofTrees? rest).bind (before? name (some arguments))
  | .leaf (.word name) :: .group .angle arguments :: .leaf (.symbol "::") :: rest =>
      (ofTrees? rest).bind (before? name (some arguments))
  | .leaf (.word name) :: .leaf (.symbol "::") :: .group (.bracket .round) _ ::
      .leaf (.symbol "->") :: .group (.bracket .round) result :: .leaf (.symbol "::") :: rest =>
      if holdsOneType result then (ofTrees? rest).bind (before? name none) else none
  | .leaf (.word name) :: .leaf (.symbol "::") :: .group (.bracket .round) _ ::
      .leaf (.symbol "::") :: rest => (ofTrees? rest).bind (before? name none)
  | .leaf (.word name) :: .group (.bracket .round) _ ::
      .leaf (.symbol "->") :: .group (.bracket .round) result :: .leaf (.symbol "::") :: rest =>
      if holdsOneType result then (ofTrees? rest).bind (before? name none) else none
  | .leaf (.word name) :: .group (.bracket .round) _ :: .leaf (.symbol "::") :: rest =>
      (ofTrees? rest).bind (before? name none)
  | .leaf (.word name) :: .leaf (.symbol "::") :: rest =>
      (ofTrees? rest).bind (before? name none)
  | _ => none

end PathPart

namespace WrittenType

/-- A type that is written as one bare word. -/
def word (name : String) : WrittenType := ⟨[.leaf (.word name)]⟩

/-- A text that cannot be read as a type at all counts as a single word. -/
def ofText (text : String) : WrittenType :=
  match ((Token.ofText? text).bind TokenTree.ofTokens?).bind TokenTree.groupAngles? with
  | some trees => ⟨trees⟩
  | none => word text

/-- The type as text, without any white space, not even that in its literals. -/
def text (written : WrittenType) : String :=
  String.ofList ((TokenTree.texts written.trees).toList.filter (!Comment.whiteSpace.holds ·))

/-- The parts of a type that is a path.  A path may start at the root, or from a
type between angle brackets. -/
def path? (written : WrittenType) : Option (List PathPart) :=
  match written.trees with
  | .leaf (.symbol "::") :: rest => PathPart.ofTrees? rest
  | .group .angle _ :: .leaf (.symbol "::") :: rest => PathPart.ofTrees? rest
  | trees => PathPart.ofTrees? trees

/-- Whether an argument of a path is a type.  It may also be a lifetime, a
constant, or a statement about an associated type. -/
def isTypeArgument : List TokenTree → Bool
  | .leaf (.symbol "'") :: _ :: .leaf (.symbol "+") :: _ => true
  | .leaf (.symbol "'") :: _ => false
  | .leaf (.literal _) :: _ => false
  | .leaf (.symbol "-") :: .leaf (.literal _) :: _ => false
  | .leaf (.word "true") :: _ => false
  | .leaf (.word "false") :: _ => false
  | .group (.bracket .curly) _ :: _ => false
  | .leaf (.word _) :: rest => !statesAssociated rest
  | _ => true
where
  /-- Whether a statement about an associated type follows its name.  The name
  may have arguments. -/
  statesAssociated : List TokenTree → Bool
    | .leaf (.symbol "=") :: _ => true
    | .leaf (.symbol ":") :: _ => true
    | .group .angle _ :: .leaf (.symbol "=") :: _ => true
    | .group .angle _ :: .leaf (.symbol ":") :: _ => true
    | .leaf (.symbol "::") :: .group .angle _ :: .leaf (.symbol "=") :: _ => true
    | .leaf (.symbol "::") :: .group .angle _ :: .leaf (.symbol ":") :: _ => true
    | _ => false

/-- The one type that an optional type is about. -/
def optional? (written : WrittenType) : Option WrittenType :=
  match written.path?.bind List.getLast? with
  | some ⟨name, some arguments⟩ =>
      match TokenTree.pieces arguments with
      | [argument] => if name = optionWord ∧ isTypeArgument argument then some ⟨argument⟩ else none
      | _ => none
  | _ => none

/-- The type without values is written as an empty pair of parentheses. -/
def isUnit (written : WrittenType) : Bool :=
  match written.trees with
  | [.group (.bracket .round) []] => true
  | _ => false

/-- Whether the type is written as one bare word that names a scalar. -/
def isScalar (written : WrittenType) : Bool :=
  match written.trees with
  | [.leaf (.word name)] => scalarWords.contains name
  | _ => false

end WrittenType

end Wiring.Derive
