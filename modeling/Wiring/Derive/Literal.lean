import Wiring.Derive.Word

/-!
# Literals of a declaration

A literal is a number, a character or a string.  Nothing here depends on what a
literal stands for, only on where it ends, and on whether it is well-formed: an
escape has to name something, and a number needs digits of its base.

A reader returns what follows the literal, or nothing if there is none.
-/

namespace Wiring.Derive.Literal

/-- What the characters of a literal stand for. -/
inductive Alphabet where
  | characters
  /-- Single bytes, each written as the character of the same number. -/
  | bytes
  /-- Characters of a string that a zero ends, which therefore holds none. -/
  | zeroEnded
  deriving DecidableEq, Repr

/-- Whether a character may stand for itself. -/
def Alphabet.admits : Alphabet → Char → Bool
  | characters, _ => true
  | bytes, character => character.toNat < 128
  | zeroEnded, character => character != '\x00'

/-- The value of a digit in any base up to sixteen. -/
def digitValue? (character : Char) : Option Nat :=
  if character.isDigit then some (character.toNat - '0'.toNat)
  else if 'a' ≤ character ∧ character ≤ 'f' then some (10 + (character.toNat - 'a'.toNat))
  else if 'A' ≤ character ∧ character ≤ 'F' then some (10 + (character.toNat - 'A'.toNat))
  else none

/-! ## Escapes -/

/-- Whether two hexadecimal digits may name a member of the alphabet.  A
character is named that way only below the first 128. -/
def Alphabet.admitsDigits (alphabet : Alphabet) (high low : Nat) : Bool :=
  match alphabet with
  | characters => high < 8
  | bytes => true
  | zeroEnded => high != 0 || low != 0

/-- Whether an escape may name the code point. -/
def Alphabet.admitsCode (alphabet : Alphabet) (code : Nat) : Bool :=
  match alphabet with
  | characters => decide code.isValidChar
  | bytes => false
  | zeroEnded => decide code.isValidChar && code != 0

/-- What follows the digits of a code point and the brace that ends them.  Up to
six digits are allowed, and underscores after the first. -/
def afterCode? (alphabet : Alphabet) (digits code : Nat) : List Char → Option (List Char)
  | [] => none
  | '_' :: rest => if digits = 0 then none else afterCode? alphabet digits code rest
  | '\x7d' :: rest => if 0 < digits ∧ alphabet.admitsCode code then some rest else none
  | head :: rest =>
      match digitValue? head with
      | some value =>
          if digits < 6 then afterCode? alphabet (digits + 1) (16 * code + value) rest else none
      | none => none

/-- What follows an escape, of which the escape mark is already taken. -/
def afterEscape? (alphabet : Alphabet) : List Char → Option (List Char)
  | 'x' :: first :: second :: rest =>
      match digitValue? first, digitValue? second with
      | some high, some low => if alphabet.admitsDigits high low then some rest else none
      | _, _ => none
  | 'u' :: '\x7b' :: rest => afterCode? alphabet 0 0 rest
  | '0' :: rest => if alphabet = .zeroEnded then none else some rest
  | 'n' :: rest => some rest
  | 'r' :: rest => some rest
  | 't' :: rest => some rest
  | '\\' :: rest => some rest
  | '\'' :: rest => some rest
  | '"' :: rest => some rest
  | _ => none

/-! ## Strings and characters -/

/-- What follows the blanks at the start of a line.  A carriage return has to
stand before a line feed, and the text has to go on. -/
def afterIndent? : List Char → Option (List Char)
  | [] => none
  | '\r' :: '\n' :: rest => afterIndent? rest
  | '\r' :: _ => none
  | head :: rest =>
      if head = ' ' ∨ head = '\t' ∨ head = '\n' then afterIndent? rest else some (head :: rest)

/-- What follows an escaped end of a line, with the blanks of the next one.  The
escape mark is already taken. -/
def afterLineEnd? : List Char → Option (List Char)
  | '\n' :: rest => afterIndent? rest
  | '\r' :: '\n' :: rest => afterIndent? rest
  | _ => none

/-- What follows a string, of which the opening quotation mark is already taken,
in at most the given number of steps. -/
def afterString? (alphabet : Alphabet) : Nat → List Char → Option (List Char)
  | _, '"' :: rest => some rest
  | steps + 1, '\\' :: rest =>
      ((afterEscape? alphabet rest).or (afterLineEnd? rest)).bind (afterString? alphabet steps)
  | steps + 1, '\r' :: '\n' :: rest => afterString? alphabet steps rest
  | steps + 1, head :: rest =>
      if head ≠ '\r' ∧ alphabet.admits head then afterString? alphabet steps rest else none
  | _, _ => none

/-- What follows a raw string that ends at a quotation mark with the given number
of hash signs after it.  The opening quotation mark is already taken. -/
def afterRawContent? (alphabet : Alphabet) (hashes : Nat) : List Char → Option (List Char)
  | [] => none
  | '\r' :: '\n' :: rest => afterRawContent? alphabet hashes rest
  | head :: rest =>
      if head = '"' ∧ rest.take hashes = List.replicate hashes '#' then some (rest.drop hashes)
      else if head ≠ '\r' ∧ alphabet.admits head then afterRawContent? alphabet hashes rest
      else none

/-- The most hash signs that a raw string may begin with. -/
def mostHashes : Nat := 255

/-- What follows a raw string, from its hash signs on. -/
def afterRawString? (alphabet : Alphabet) (text : List Char) : Option (List Char) :=
  let hashes := (text.takeWhile (· == '#')).length
  match text.drop hashes with
  | '"' :: rest => if hashes ≤ mostHashes then afterRawContent? alphabet hashes rest else none
  | _ => none

/-- What follows a character, of which the opening quotation mark is already
taken.  The character may be a quotation mark itself. -/
def afterCharacter? (alphabet : Alphabet) (text : List Char) : Option (List Char) :=
  match text with
  | '\\' :: rest => (afterEscape? alphabet rest).bind afterQuote?
  | head :: rest => if alphabet.admits head then afterQuote? rest else none
  | [] => none
where
  /-- What follows the closing quotation mark. -/
  afterQuote? : List Char → Option (List Char)
    | '\'' :: rest => some rest
    | _ => none

/-- What follows a string or a character at the start of a text. -/
def afterQuoted? : List Char → Option (List Char)
  | '"' :: rest => afterString? .characters rest.length rest
  | 'b' :: '"' :: rest => afterString? .bytes rest.length rest
  | 'c' :: '"' :: rest => afterString? .zeroEnded rest.length rest
  | 'r' :: rest => afterRawString? .characters rest
  | 'b' :: 'r' :: rest => afterRawString? .bytes rest
  | 'c' :: 'r' :: rest => afterRawString? .zeroEnded rest
  | '\'' :: rest => afterCharacter? .characters rest
  | 'b' :: '\'' :: rest => afterCharacter? .bytes rest
  | _ => none

/-! ## Numbers -/

/-- What follows the digits of a whole number in the given base.  Underscores may
stand between them, and a letter that is no digit of the base ends them, but a
decimal digit that is none makes the number wrong. -/
def afterDigits? (base : Nat) (seen : Bool) : List Char → Option (List Char)
  | [] => if seen then some [] else none
  | head :: rest =>
      if head = '_' then afterDigits? base seen rest
      else
        match digitValue? head with
        | some value =>
            if value < base then afterDigits? base true rest
            else if seen && !head.isDigit then some (head :: rest)
            else none
        | none => if seen then some (head :: rest) else none

/-- What follows the digits of the whole number at the start of a text. -/
def afterWhole? : List Char → Option (List Char)
  | '0' :: 'x' :: rest => afterDigits? 16 false rest
  | '0' :: 'o' :: rest => afterDigits? 8 false rest
  | '0' :: 'b' :: rest => afterDigits? 2 false rest
  | text => afterDigits? 10 false text

/-- What follows decimal digits and the underscores between them, if any. -/
def dropDecimals (text : List Char) : List Char :=
  text.dropWhile fun character => character.isDigit || character == '_'

/-- What follows the digits of an exponent, which may begin with a sign. -/
def afterPower? (signed : Bool) : List Char → Option (List Char)
  | [] => none
  | head :: rest =>
      if head.isDigit then some (dropDecimals rest)
      else if head = '_' then afterPower? signed rest
      else if (head = '+' ∨ head = '-') ∧ !signed then afterPower? true rest
      else none

/-- What follows the exponent at the start of a text. -/
def afterExponent? : List Char → Option (List Char)
  | 'e' :: rest => afterPower? false rest
  | 'E' :: rest => afterPower? false rest
  | _ => none

/-- Whether a point before the text belongs to something else than a number: to
a range, or to the name of a member. -/
def deniesPoint : List Char → Bool
  | head :: _ => head == '.' || Word.mayBegin head
  | [] => false

/-- What follows the digits of a number with a fraction or an exponent.  After a
fraction, what is no exponent is left to the suffix. -/
def afterFraction? (text : List Char) : Option (List Char) :=
  match dropDecimals text with
  | '.' :: rest =>
      if deniesPoint rest then none
      else some ((afterExponent? (dropDecimals rest)).getD (dropDecimals rest))
  | rest => afterExponent? rest

/-- What follows the word that a literal may go on with. -/
def dropSuffix (text : List Char) : List Char := (Word.afterPlain? text).getD text

/-- A number, with its suffix, does not end inside a word. -/
def endNumber? (text : List Char) : Option (List Char) :=
  match dropSuffix text with
  | head :: rest => if Word.mayContinue head then none else some (head :: rest)
  | [] => some []

/-- What follows the number at the start of a text. -/
def afterNumber? (text : List Char) : Option (List Char) :=
  match text with
  | head :: _ =>
      if head.isDigit then
        ((afterFraction? text).bind endNumber?).or ((afterWhole? text).bind endNumber?)
      else none
  | [] => none

/-! ## All literals -/

/-- The sign that stands where a literal could not be written down. -/
def placeholder : List Char := "(/*ERROR*/)".toList

/-- What follows the literal at the start of a text. -/
def after? (text : List Char) : Option (List Char) :=
  if placeholder.isPrefixOf text then some (text.drop placeholder.length)
  else ((afterQuoted? text).map dropSuffix).or (afterNumber? text)

end Wiring.Derive.Literal
