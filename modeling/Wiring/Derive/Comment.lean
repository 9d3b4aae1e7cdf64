import Wiring.Text.CodeTable

/-!
# Blanks and comments in a declaration

A comment reaches to the end of its line, or to the sign that closes it; the
comments of the second kind nest.  Most comments separate tokens as blanks do.
One with an exclamation mark after its opening, or with the last sign of its
opening once more but not twice, documents the declaration and is a part of it.
-/

namespace Wiring.Derive

/-- What a comment is for. -/
inductive CommentRole where
  /-- It separates tokens and says nothing else. -/
  | plain
  /-- It documents what follows it. -/
  | outer
  /-- It documents what it stands in. -/
  | inner
  deriving DecidableEq, Repr

/-- A comment without the signs that open and close it. -/
structure Comment where
  role : CommentRole
  content : List Char
  deriving DecidableEq, Repr

namespace Comment

/-- The white space of Unicode. -/
def whiteSpace : Text.CodeTable :=
  [(0x9, 0xD), (0x20, 0x20), (0x85, 0x85), (0xA0, 0xA0), (0x1680, 0x1680), (0x2000, 0x200A),
   (0x2028, 0x2029), (0x202F, 0x202F), (0x205F, 0x205F), (0x3000, 0x3000)]

/-- Whether a character separates tokens: it is white space or one of the two
marks of writing direction. -/
def isBlank (character : Char) : Bool :=
  whiteSpace.holds character || character == '\u200E' || character == '\u200F'

/-- How far a comment reaches. -/
inductive Extent where
  | line
  | block
  deriving DecidableEq, Repr

/-- The opening of the comment at the start of a text, and what follows it. -/
def opening? : List Char → Option (Extent × CommentRole × List Char)
  | '/' :: '/' :: '!' :: rest => some (.line, .inner, rest)
  | '/' :: '/' :: '/' :: '/' :: rest => some (.line, .plain, '/' :: '/' :: rest)
  | '/' :: '/' :: '/' :: rest => some (.line, .outer, rest)
  | '/' :: '/' :: rest => some (.line, .plain, rest)
  | '/' :: '*' :: '!' :: rest => some (.block, .inner, rest)
  | '/' :: '*' :: '*' :: '*' :: rest => some (.block, .plain, '*' :: '*' :: rest)
  | '/' :: '*' :: '*' :: '/' :: rest => some (.block, .plain, '*' :: '/' :: rest)
  | '/' :: '*' :: '*' :: rest => some (.block, .outer, rest)
  | '/' :: '*' :: rest => some (.block, .plain, rest)
  | _ => none

/-- A text up to the end of its first line, and what follows.  A carriage return
before the line feed belongs to neither. -/
def cutLine : List Char → List Char × List Char
  | [] => ([], [])
  | '\n' :: rest => ([], '\n' :: rest)
  | '\r' :: '\n' :: rest => ([], '\n' :: rest)
  | head :: rest => (head :: (cutLine rest).1, (cutLine rest).2)

/-- A text up to the sign that closes the comment it stands in, and what follows
that sign.  Inside the comment, as many further comments are open as given. -/
def cutBlock? : Nat → List Char → Option (List Char × List Char)
  | _, [] => none
  | 0, '*' :: '/' :: rest => some ([], rest)
  | depth + 1, '*' :: '/' :: rest =>
      (cutBlock? depth rest).map fun parts => ('*' :: '/' :: parts.1, parts.2)
  | depth, '/' :: '*' :: rest =>
      (cutBlock? (depth + 1) rest).map fun parts => ('/' :: '*' :: parts.1, parts.2)
  | depth, head :: rest => (cutBlock? depth rest).map fun parts => (head :: parts.1, parts.2)

/-- Whether every carriage return in a text stands before a line feed. -/
def returnsPaired : List Char → Bool
  | [] => true
  | '\r' :: '\n' :: rest => returnsPaired rest
  | head :: rest => head != '\r' && returnsPaired rest

/-- The comment at the start of a text, and what follows it.  One that documents
something may not hold a carriage return by itself. -/
def read? (text : List Char) : Option (Comment × List Char) :=
  match opening? text with
  | some (.line, role, rest) => accept role (cutLine rest)
  | some (.block, role, rest) => (cutBlock? 0 rest).bind (accept role)
  | none => none
where
  /-- Make a comment of its content, and leave what follows. -/
  accept (role : CommentRole) (parts : List Char × List Char) : Option (Comment × List Char) :=
    if role = .plain ∨ returnsPaired parts.1 then some (⟨role, parts.1⟩, parts.2) else none

end Comment

end Wiring.Derive
