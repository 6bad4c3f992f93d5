import CrudScaffold.Text.Symbol
import CrudScaffold.Yaml.Cursor
import CrudScaffold.Yaml.Error

/-!
# The text of scalars

How the text of a scalar is read: from a block with `|` or `>`, between quotes, or plainly. Lines are folded: a
single line break becomes a space, and further ones are kept.
-/

namespace CrudScaffold.Yaml

open Text (Symbol)

/-! ### Blocks -/

/-- What happens to line breaks at the end of a block. -/
inductive Chomping
  | clip
  | strip
  | keep
  deriving DecidableEq, Repr

/-- The first line of a block: how its end is treated, and how far it is indented, if that is said. -/
structure BlockHeader where
  chomping : Chomping
  increment : Option Nat

private def chompingOf? : Option Char → Option Chomping
  | some '+' => some .keep
  | some '-' => some .strip
  | _ => none

private def incrementOf? : Option Char → Option Nat
  | some c => if c.isDigit then some (c.toNat - 0x30) else none
  | none => none

/-- Reads what follows the indicator of a block up to the end of the line. -/
def readBlockHeader (c : Cursor) : Except Error (BlockHeader × Cursor) := do
  let (header, c) : BlockHeader × Cursor :=
    match chompingOf? c.next?, incrementOf? c.next? with
    | some chomping, _ =>
      match incrementOf? c.step.next? with
      | some n => (⟨chomping, some n⟩, c.advance 2)
      | none => (⟨chomping, none⟩, c.step)
    | none, some n =>
      match chompingOf? c.step.next? with
      | some chomping => (⟨chomping, some n⟩, c.advance 2)
      | none => (⟨.clip, some n⟩, c.step)
    | none, none => (⟨.clip, none⟩, c)
  if header.increment = some 0 ∨ !isSpaceOrEnd c.next? then throw .malformed
  let c := c.skipSpaces.skipComment
  if !isLineEnd c.next? then throw .malformed
  return (header, c.step)

/-- The line breaks and indented empty lines from here on. -/
def readBlockBreaks (indent : Int) : Nat → Cursor → List Char × Cursor
  | 0, c => ([], c)
  | fuel + 1, c =>
    let c := c.skipIndent indent
    match c.lineBreak? with
    | some (char, c) => ((readBlockBreaks indent fuel c).map (char :: ·) id)
    | none => ([], c)

/-- The empty lines before the first line with text, and the greatest column that a space reaches. -/
def readBlockStart : Nat → Nat → Cursor → List Char × Nat × Cursor
  | 0, column, c => ([], column, c)
  | fuel + 1, column, c =>
    if c.next? = some ' ' then readBlockStart fuel (max column c.step.column) c.step
    else
      match c.lineBreak? with
      | some (char, c) => (readBlockStart fuel column c).map (char :: ·) id
      | none => ([], column, c)

/-- A text, the line break after it, and the empty lines after that. -/
structure BlockText where
  text : List Char
  lineBreak : Option Char
  breaks : List Char

private def isBlankNext (c : Cursor) : Bool :=
  c.next?.any fun char => char == ' ' || char == '\t'

/-- The lines of a block from here on; `lineBreak` and `breaks` are those that have been read before them. -/
def readBlockLines (folded : Bool) (indent : Int) : Nat → Option Char → List Char → Cursor → BlockText × Cursor
  | 0, lineBreak, breaks, c => (⟨[], lineBreak, breaks⟩, c)
  | fuel + 1, lineBreak, breaks, c =>
    let inside (c : Cursor) : Bool := c.column == indent && !c.rest.isEmpty
    if !inside c then (⟨[], lineBreak, breaks⟩, c)
    else
      let startsBlank := isBlankNext c
      let (line, c) := c.takeWhile (!isBreak ·)
      let (lineBreak, c) := match c.lineBreak? with
        | some (char, c) => (some char, c)
        | none => (none, c)
      let (later, c) := readBlockBreaks indent c.left c
      let joint :=
        if !inside c then []
        else if folded && lineBreak == some '\n' && !startsBlank && !isBlankNext c then
          if later.isEmpty then [' '] else []
        else lineBreak.toList
      let (block, c) := readBlockLines folded indent fuel lineBreak later c
      (⟨breaks ++ line ++ joint ++ block.text, block.lineBreak, block.breaks⟩, c)

/-- Reads a block whose parent is indented to the given column; its indicator comes next. -/
def readBlock (folded : Bool) (parent : Int) (c : Cursor) : Except Error (List Char × Cursor) := do
  let (header, c) ← readBlockHeader c.step
  let least := max (parent + 1) 1
  let (breaks, indent, c) : List Char × Int × Cursor :=
    match header.increment with
    | some n =>
      let indent := least + n - 1
      let (breaks, c) := readBlockBreaks indent c.left c
      (breaks, indent, c)
    | none =>
      let (breaks, column, c) := readBlockStart c.left 0 c
      (breaks, max least column, c)
  let (block, c) := readBlockLines folded indent c.left none breaks c
  let tail := match header.chomping with
    | .strip => []
    | .clip => block.lineBreak.toList
    | .keep => block.lineBreak.toList ++ block.breaks
  return (block.text ++ tail, c)

/-! ### Quoted scalars -/

/-- What a letter after a backslash stands for. -/
def escapes : List (Char × Char) :=
  [('0', '\x00'), ('a', '\x07'), ('b', '\x08'), ('t', '\t'), ('\t', '\t'), ('n', '\n'), ('v', '\x0b'),
    ('f', '\x0c'), ('r', '\r'), ('e', '\x1b'), (' ', ' '), ('"', '"'), ('\\', '\\'), ('/', '/'), ('N', '\x85'),
    ('_', '\xa0'), ('L', '\u2028'), ('P', '\u2029')]

/-- How many hexadecimal digits follow a letter after a backslash. -/
def escapeWidths : List (Char × Nat) :=
  [('x', 2), ('u', 4), ('U', 8)]

/-- The line breaks from here on, with the blanks around them. -/
def readQuotedBreaks : Nat → Cursor → Except Error (List Char × Cursor)
  | 0, c => .ok ([], c)
  | fuel + 1, c =>
    if c.atSeparator then .error .malformed
    else
      let c := c.skipWhile fun char => char == ' ' || char == '\t'
      match c.lineBreak? with
      | some (char, c) => (readQuotedBreaks fuel c).map fun p => (char :: p.1, p.2)
      | none => .ok ([], c)

/-- What an escape sequence stands for; the backslash has been read. -/
def readEscape (c : Cursor) : Except Error (List Symbol × Cursor) :=
  match c.next? with
  | none => .error .malformed
  | some letter =>
    match escapes.lookup letter, escapeWidths.lookup letter with
    | some char, _ => .ok ([.char char], c.step)
    | none, some width =>
      match Text.Quoted.readHex width 0 c.step.rest with
      | none => .error .malformed
      | some (code, _) =>
        match Symbol.ofCode? code with
        | some symbol => .ok ([symbol], c.advance (width + 1))
        | none => .error (.character code)
    | none, none =>
      if isBreak letter then (readQuotedBreaks c.left c.step).map fun p => (Symbol.ofChars p.1, p.2)
      else .error .malformed

private def isQuotedSpecial (char : Char) : Bool :=
  char == '\'' || char == '"' || char == '\\' || char == ' ' || char == '\t' || isBreak char

/-- The characters up to the next blank or the closing quote. -/
def readQuotedWord (quote : Char) : Nat → Cursor → Except Error (List Symbol × Cursor)
  | 0, c => .ok ([], c)
  | fuel + 1, c => do
    let (word, c) := c.takeWhile (!isQuotedSpecial ·)
    let word := Symbol.ofChars word
    let single := quote = '\''
    let more (text : List Symbol) (c : Cursor) :=
      (readQuotedWord quote fuel c).map fun p => (word ++ text ++ p.1, p.2)
    match c.next? with
    | some '\'' =>
      if !single then more [.char '\''] c.step
      else if c.ahead? 1 = some '\'' then more [.char '\''] (c.advance 2)
      else return (word, c)
    | some '"' => if single then more [.char '"'] c.step else return (word, c)
    | some '\\' =>
      if single then more [.char '\\'] c.step
      else
        let (text, c) ← readEscape c.step
        more text c
    | _ => return (word, c)

/-- The blanks and line breaks between two words. -/
def readQuotedBlanks (c : Cursor) : Except Error (List Char × Cursor) := do
  let (blanks, c) := c.takeWhile fun char => char == ' ' || char == '\t'
  match c.next?, c.lineBreak? with
  | none, _ => throw .malformed
  | some _, none => return (blanks, c)
  | some _, some (char, c) =>
    let (breaks, c) ← readQuotedBreaks (c.left + 1) c
    if char ≠ '\n' then return (char :: breaks, c)
    else if breaks.isEmpty then return ([' '], c)
    else return (breaks, c)

/-- The words up to the closing quote, which is read too. -/
def readQuotedWords (quote : Char) : Nat → Cursor → Except Error (List Symbol × Cursor)
  | 0, _ => .error .malformed
  | fuel + 1, c => do
    let (word, c) ← readQuotedWord quote (c.left + 1) c
    if c.next? = some quote then return (word, c.step)
    let (blanks, c) ← readQuotedBlanks c
    let (words, c) ← readQuotedWords quote fuel c
    return (word ++ Symbol.ofChars blanks ++ words, c)

/-- Reads a quoted scalar; its opening quote comes next. -/
def readQuoted (quote : Char) (c : Cursor) : Except Error (List Symbol × Cursor) :=
  readQuotedWords quote (c.left + 1) c.step

/-! ### Plain scalars -/

/-- Whether a plain scalar ends here. Inside brackets and braces it also ends where an entry does. -/
def endsPlain (inFlow : Bool) : List Char → Bool
  | [] => true
  | c :: rest =>
    let ends (after : Char) : Bool :=
      inFlow && (after == ',' || after == '[' || after == ']' || after == '\x7b' || after == '\x7d')
    isBlankOrEnd (some c) || (c == ':' && (isBlankOrEnd rest.head? || rest.head?.any ends)) ||
      (inFlow && (c == '?' || ends c))

/-- The characters of a plain scalar up to the next blank. -/
def plainWord (inFlow : Bool) : List Char → List Char
  | [] => []
  | c :: rest => if endsPlain inFlow (c :: rest) then [] else c :: plainWord inFlow rest

/-- The line breaks after the first one, and whether a mark between documents ends them. -/
def readPlainBreaks : Nat → Cursor → List Char × Bool × Cursor
  | 0, c => ([], false, c)
  | fuel + 1, c =>
    let c := c.skipSpaces
    match c.lineBreak? with
    | none => ([], false, c)
    | some (char, c) =>
      if c.atSeparator then ([char], true, c) else (readPlainBreaks fuel c).map (char :: ·) id

/-- Blanks after a word of a plain scalar: what they stand for, whether a line ended, and the place after them. A
mark between documents ends the scalar, so that the blanks stand for nothing. -/
def readPlainBlanks (c : Cursor) : List Char × Bool × Cursor :=
  let (blanks, c) := c.takeWhile (· == ' ')
  match c.lineBreak? with
  | none => (blanks, false, c)
  | some (char, c) =>
    if c.atSeparator then ([], true, c)
    else
      let (breaks, ended, c) := readPlainBreaks (c.left + 1) c
      if ended then ([], true, c)
      else if char ≠ '\n' then (char :: breaks, true, c)
      else if breaks.isEmpty then ([' '], true, c)
      else (breaks, true, c)

/-- A plain scalar, whether a line ended after its last word, and the place after it. `before` are the blanks that
have been read; they count when another word follows. -/
def readPlainWords (inFlow : Bool) (indent : Int) : Nat → List Char → Bool → Cursor → List Char × Bool × Cursor
  | 0, _, ended, c => ([], ended, c)
  | fuel + 1, before, ended, c =>
    let word := plainWord inFlow c.rest
    if c.next? = some '#' ∨ word.isEmpty then ([], ended, c)
    else
      let (blanks, ended, c) := readPlainBlanks (c.advance word.length)
      if blanks.isEmpty ∨ c.next? = some '#' ∨ (!inFlow ∧ (c.column : Int) < indent) then
        (before ++ word, ended, c)
      else
        (readPlainWords inFlow indent fuel blanks ended c).map (before ++ word ++ ·) id

/-- Reads a plain scalar in a collection that is indented to the given column. -/
def readPlain (inFlow : Bool) (parent : Int) (c : Cursor) : List Char × Bool × Cursor :=
  readPlainWords inFlow (parent + 1) (c.left + 1) [] false c

end CrudScaffold.Yaml
