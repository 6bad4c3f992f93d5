/-!
# Cursors

A place in the text of a document: what follows it, and the line and column it is at. Four characters break lines;
carriage returns have become line feeds before a document is read.
-/

namespace CrudScaffold.Yaml

def isBreak (c : Char) : Bool :=
  c == '\n' || c == '\x85' || c == '\u2028' || c == '\u2029'

/-- Whether nothing or a line break comes next. -/
def isLineEnd (next : Option Char) : Bool :=
  next.all isBreak

/-- Whether nothing, a space or a line break comes next. -/
def isSpaceOrEnd (next : Option Char) : Bool :=
  next.all fun c => c == ' ' || isBreak c

/-- Whether nothing, a space, a tab or a line break comes next. -/
def isBlankOrEnd (next : Option Char) : Bool :=
  next.all fun c => c == ' ' || c == '\t' || isBreak c

structure Cursor where
  rest : List Char
  /-- The number of characters that follow. -/
  left : Nat
  line : Nat
  column : Nat

namespace Cursor

def ofText (s : String) : Cursor :=
  ⟨s.toList, s.toList.length, 0, 0⟩

def next? (c : Cursor) : Option Char :=
  c.rest.head?

/-- The character so many places ahead. -/
def ahead? (c : Cursor) (n : Nat) : Option Char :=
  c.rest[n]?

/-- The place after the next character. A byte order mark takes no column. -/
def step (c : Cursor) : Cursor :=
  match c.rest with
  | [] => c
  | char :: rest =>
    if isBreak char then ⟨rest, c.left - 1, c.line + 1, 0⟩
    else ⟨rest, c.left - 1, c.line, if char = '\uFEFF' then c.column else c.column + 1⟩

def advance : Nat → Cursor → Cursor
  | 0, c => c
  | n + 1, c => advance n c.step

/-- The characters from here on that satisfy `p`, and the place after them. -/
def takeWhile (p : Char → Bool) (c : Cursor) : List Char × Cursor :=
  let taken := c.rest.takeWhile p
  (taken, c.advance taken.length)

def skipWhile (p : Char → Bool) (c : Cursor) : Cursor :=
  (c.takeWhile p).2

def skipSpaces (c : Cursor) : Cursor :=
  c.skipWhile (· == ' ')

/-- The place after a comment, which reaches to the end of the line. -/
def skipComment (c : Cursor) : Cursor :=
  if c.next? = some '#' then c.skipWhile (!isBreak ·) else c

/-- The place after spaces that stand before the given column. -/
def skipIndent (indent : Int) (c : Cursor) : Cursor :=
  let spaces := (c.rest.takeWhile (· == ' ')).length
  c.advance (min spaces (indent - c.column).toNat)

/-- What a line break counts as, and the place after it. -/
def lineBreak? (c : Cursor) : Option (Char × Cursor) :=
  match c.next? with
  | some char => if isBreak char then some (if char = '\x85' then '\n' else char, c.step) else none
  | none => none

/-- Whether one of the two marks between documents comes next. -/
def atSeparator (c : Cursor) : Bool :=
  (c.rest.take 3 == ['-', '-', '-'] || c.rest.take 3 == ['.', '.', '.']) && isBlankOrEnd (c.ahead? 3)

end Cursor

end CrudScaffold.Yaml
