import Wiring.Text.CodeTable
import Wiring.Text.Invisible

/-!
# Quoted text

A description of a type shows the texts it holds between double quotes.  The
quotation is meant to be read on one line by a person, so a character is shown
as itself only when it is visible and stands on its own; every other character
is named by an escape.  The quotation mark and the escape mark are escaped too,
which keeps the end of a quotation recognisable.
-/

namespace Wiring.Text

/-- A code point named in hexadecimal, as long as it has to be. -/
def codeEscape (code : Nat) : List Char :=
  ['\\', 'u', '\x7b'] ++ Nat.toDigits 16 code ++ ['\x7d']

/-- Whether a quotation may show the character as itself. -/
def showsItself (character : Char) : Bool :=
  (0x20 ≤ character.toNat && character.toNat < 0x7F) ||
    !(invisible.holds character || combining.holds character)

/-- One character inside a quotation. -/
def quotedChar (character : Char) : List Char :=
  if character = '\x00' then ['\\', '0']
  else if character = '\t' then ['\\', 't']
  else if character = '\r' then ['\\', 'r']
  else if character = '\n' then ['\\', 'n']
  else if character = '"' then ['\\', '"']
  else if character = '\\' then ['\\', '\\']
  else if showsItself character then [character]
  else codeEscape character.toNat

/-- A text between double quotes. -/
def quoted (text : String) : String :=
  String.ofList ('"' :: (text.toList.flatMap quotedChar ++ ['"']))

end Wiring.Text
