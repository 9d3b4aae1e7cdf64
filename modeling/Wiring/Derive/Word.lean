import Wiring.Text.IdentifierTable

/-!
# Words of a declaration

Identifiers and keywords are words: runs of the characters that the Unicode
standard admits in an identifier.  A word may carry the raw mark, which makes an
identifier of the keyword of the same letters.

A reader returns what follows the word.
-/

namespace Wiring.Derive.Word

/-- Whether a character may begin a word. -/
def mayBegin (character : Char) : Bool :=
  character == '_' || Text.identifierStart.holds character

/-- Whether a character may stand in a word after its first. -/
def mayContinue (character : Char) : Bool :=
  Text.identifierContinue.holds character

/-- What follows the word at the start of a text, which has no raw mark. -/
def afterPlain? : List Char → Option (List Char)
  | head :: rest => if mayBegin head then some (rest.dropWhile mayContinue) else none
  | [] => none

/-- The words that the raw mark cannot be put on. -/
def neverRaw : List String := ["_", "super", "self", "Self", "crate"]

/-- What follows the word at the start of a text, raw or not. -/
def after? : List Char → Option (List Char)
  | 'r' :: '#' :: rest =>
      if neverRaw.contains (String.ofList (rest.takeWhile mayContinue)) then none
      else afterPlain? rest
  | text => afterPlain? text

/-- The beginnings of literals.  No word begins like that, even where the literal
is broken. -/
def literalBeginnings : List String :=
  ["r\"", "r#\"", "r##", "b\"", "b'", "br\"", "br#", "c\"", "cr\"", "cr#"]

/-- Whether a text begins like a literal. -/
def beginsLiteral (text : List Char) : Bool :=
  literalBeginnings.any fun beginning => beginning.toList.isPrefixOf text

/-- The words that stand for something else than a name.  Some of them may
still be parts of a path. -/
def keywords : List String :=
  ["_", "abstract", "as", "async", "await", "become", "box", "break", "const", "continue",
   "crate", "do", "dyn", "else", "enum", "extern", "false", "final", "fn", "for", "if", "impl",
   "in", "let", "loop", "macro", "match", "mod", "move", "mut", "override", "priv", "pub", "ref",
   "return", "Self", "self", "static", "struct", "super", "trait", "true", "try", "type",
   "typeof", "unsafe", "unsized", "use", "virtual", "where", "while", "yield"]

/-- The keywords that may stand in a path. -/
def pathKeywords : List String := ["crate", "self", "Self", "super", "try"]

/-- Whether a word may stand in a path. -/
def mayStandInPath (word : String) : Bool :=
  pathKeywords.contains word || !keywords.contains word

/-- A word without its raw mark. -/
def unraw (word : String) : String :=
  match word.toList with
  | 'r' :: '#' :: rest => String.ofList rest
  | _ => word

/-- A word that does not begin with the raw mark stays as it is. -/
theorem unraw_of_not_raw {word : String} (plain : ¬['r', '#'] <+: word.toList) :
    unraw word = word := by
  unfold unraw
  split
  · rename_i rest spelled
    exact absurd ⟨rest, by simp [spelled]⟩ plain
  · rfl

end Wiring.Derive.Word
