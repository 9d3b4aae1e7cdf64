import Wiring.Derive.Comment
import Wiring.Derive.Literal
import Wiring.Text.Quoted

/-!
# Tokens of a declaration

Types and method names reach the derivation as written text.  Reading them
begins by cutting the text into tokens: words, literals, symbols and brackets,
with blanks and comments between them left out.  A comment that documents
something is not left out: it stands for the attribute that holds its content. A
text that cannot be cut into tokens is no declaration at all.

A word that is written with the raw mark keeps the mark, which tells it from the
keyword of the same letters.  The mark of a lifetime is a symbol, and the name of
the lifetime is the word after it.
-/

namespace Wiring.Derive

/-- The brackets that come in pairs wherever they occur. -/
inductive Bracket where
  | round
  | square
  | curly
  deriving DecidableEq, Repr

/-- One token. -/
inductive Token where
  /-- An identifier or a keyword. -/
  | word (text : String)
  /-- A number, a character or a string. -/
  | literal (text : String)
  | symbol (text : String)
  | opening (bracket : Bracket)
  | closing (bracket : Bracket)
  deriving DecidableEq, Repr

/-- The sign of the bracket that opens. -/
def Bracket.openingText : Bracket → String
  | round => "("
  | square => "["
  | curly => "\x7b"

/-- The sign of the bracket that closes. -/
def Bracket.closingText : Bracket → String
  | round => ")"
  | square => "]"
  | curly => "\x7d"

namespace Token

/-- The characters that are symbols by themselves. -/
def symbolCharacters : List Char := "~!@#$%^&*-=+|;:,<.>/?".toList

/-- Whether a text begins with a lifetime, from its name on.  The name ends
before anything but a quotation mark, and before a hash sign only if it is
raw. -/
def beginsLifetime (text : List Char) : Bool :=
  match Word.after? text with
  | some ('\'' :: _) => false
  | some ('#' :: _) => ['r', '#'].isPrefixOf text
  | some _ => true
  | none => false

/-- The bracket or symbol at the start of a text, and what follows it.  The path
separator and the arrow are symbols of two characters. -/
def symbol? : List Char → Option (Token × List Char)
  | '(' :: rest => some (opening .round, rest)
  | ')' :: rest => some (closing .round, rest)
  | '[' :: rest => some (opening .square, rest)
  | ']' :: rest => some (closing .square, rest)
  | '\x7b' :: rest => some (opening .curly, rest)
  | '\x7d' :: rest => some (closing .curly, rest)
  | ':' :: ':' :: rest => some (symbol "::", rest)
  | '-' :: '>' :: rest => some (symbol "->", rest)
  | '\'' :: rest => if beginsLifetime rest then some (symbol "'", rest) else none
  | head :: rest =>
      if symbolCharacters.contains head then some (symbol (String.singleton head), rest) else none
  | [] => none

/-- The part of a text that stands before the given rest of it. -/
def before (text rest : List Char) : String :=
  String.ofList (text.take (text.length - rest.length))

/-- The literal at the start of a text, and what follows it. -/
def literal? (text : List Char) : Option (Token × List Char) :=
  (Literal.after? text).map fun rest => (literal (before text rest), rest)

/-- The word at the start of a text, and what follows it. -/
def word? (text : List Char) : Option (Token × List Char) :=
  if Word.beginsLiteral text then none
  else (Word.after? text).map fun rest => (word (before text rest), rest)

/-- The content of a comment as a string.  A zero is spelled out before an octal
digit, which would otherwise seem to belong to it. -/
def quotedContent : List Char → List Char
  | '\x00' :: head :: rest =>
      if '0' ≤ head ∧ head ≤ '7' then ['\\', 'x', '0', '0'] ++ quotedContent (head :: rest)
      else Text.quotedChar '\x00' ++ quotedContent (head :: rest)
  | head :: rest => Text.quotedChar head ++ quotedContent rest
  | [] => []

/-- The tokens that a comment stands for: none, or an attribute. -/
def ofComment (comment : Comment) : List Token :=
  let content := literal (String.ofList ('"' :: quotedContent comment.content ++ ['"']))
  let held := [opening .square, word "doc", symbol "=", content, closing .square]
  match comment.role with
  | .plain => []
  | .outer => symbol "#" :: held
  | .inner => symbol "#" :: symbol "!" :: held

/-- Take a blank, a comment or a token from the start of a text.  A literal is
tried before a symbol and a word, since some literals begin like these. -/
def next? (text : List Char) : Option (List Token × List Char) :=
  match text with
  | [] => none
  | head :: rest =>
      if Comment.isBlank head then some ([], rest)
      else if (Comment.opening? text).isSome then
        (Comment.read? text).map fun taken => (ofComment taken.1, taken.2)
      else
        ((literal? text).or ((symbol? text).or (word? text))).map fun taken =>
          ([taken.1], taken.2)

/-- Cut a text into tokens in at most the given number of steps. -/
def cut? : Nat → List Char → Option (List Token)
  | _, [] => some []
  | 0, _ => none
  | steps + 1, text =>
      (next? text).bind fun taken => (cut? steps taken.2).map (taken.1 ++ ·)

/-- A mark of the byte order, which may stand before a text, is no part of it. -/
def dropByteOrderMark : List Char → List Char
  | '\uFEFF' :: rest => rest
  | text => text

/-- The tokens of a text.  This stands for the general reader of the language,
which is not part of the derivation: it is assumed to cut texts by the rules that
this library spells out for blanks, comments, literals, symbols and words.  Every
step takes a character at least, so there are no more steps than characters. -/
def ofText? (text : String) : Option (List Token) :=
  cut? text.length (dropByteOrderMark text.toList)

/-- A token as it was written. -/
def text : Token → String
  | word text => text
  | literal text => text
  | symbol text => text
  | opening bracket => bracket.openingText
  | closing bracket => bracket.closingText

/-- A text without the blanks and comments around its one token.  Any other text
stays as it is. -/
def spelling (written : String) : String :=
  match ofText? written with
  | some [token] => token.text
  | _ => written

end Token

end Wiring.Derive
