import CrudScaffold.Entries
import CrudScaffold.Yaml.Property
import CrudScaffold.Yaml.ScalarText

/-!
# The tokens of a document

Reads a text into tokens. A colon can make a key of what was read before it, so that every place where a key may
have started is remembered until the line ends; the tokens that announce the key are then put in at that place.
-/

namespace CrudScaffold.Yaml

/-- A place where a key may have started. -/
structure PossibleKey where
  /-- The number of tokens before the key. -/
  position : Nat
  /-- Whether only a key can stand there. -/
  required : Bool
  /-- The number of characters from there on. -/
  left : Nat
  line : Nat
  column : Nat

/-- Whether a key that started there has not ended by the given place: keys end with their line, and are short. -/
def PossibleKey.reaches (key : PossibleKey) (c : Cursor) : Bool :=
  key.line == c.line && key.left - c.left ≤ 1024

structure Scanner where
  cursor : Cursor
  tokens : Array Token
  /-- How many brackets and braces are open. -/
  depth : Nat
  /-- The columns of the open collections in block style, the innermost one first; -1 outside of all. -/
  indent : Int
  outer : List Int
  keyAllowed : Bool
  /-- The places where keys may have started, by depth. -/
  keys : Entries Nat PossibleKey
  /-- How many tokens had their place for good before the last one was looked for. -/
  settled : Nat

abbrev Scan := ExceptT Error (StateM Scanner)

namespace Scan

private def emit (t : Token) : Scan Unit :=
  modifyThe Scanner fun s => { s with tokens := s.tokens.push t }

/-- Puts a token in before those that were read later. -/
private def insert (position : Nat) (t : Token) : Scan Unit :=
  modifyThe Scanner fun s => { s with tokens := s.tokens.insertIdxIfInBounds position t }

private def allowKey (allowed : Bool) : Scan Unit :=
  modifyThe Scanner fun s => { s with keyAllowed := allowed }

private def moveTo (c : Cursor) : Scan Unit :=
  modifyThe Scanner fun s => { s with cursor := c }

/-- Emits a token that is so many characters long. -/
private def emitWide (width : Nat) (t : Token) : Scan Unit := do
  emit t
  moveTo ((← getThe Scanner).cursor.advance width)

/-- Emits what a reader makes of the text from here on. -/
private def emitRead {α : Type} (read : Cursor → Except Error (α × Cursor)) (token : α → Token) : Scan Unit := do
  match read (← getThe Scanner).cursor with
  | .ok (a, c) =>
    emit (token a)
    moveTo c
  | .error e => throw e

/-! ### Keys -/

/-- Forgets the place at this depth where a key may have started; one that was required is missed. -/
private def forgetKey : Scan Unit := do
  let s ← getThe Scanner
  match s.keys.get? s.depth with
  | some key => if key.required then throw .malformed else set { s with keys := s.keys.erase s.depth }
  | none => pure ()

/-- Remembers that a key may start here. -/
private def rememberKey : Scan Unit := do
  let s ← getThe Scanner
  if s.keyAllowed then
    forgetKey
    let required := s.depth = 0 && s.indent == s.cursor.column
    let key : PossibleKey := ⟨s.tokens.size, required, s.cursor.left, s.cursor.line, s.cursor.column⟩
    modifyThe Scanner fun s => { s with keys := s.keys.put s.depth key }

/-- Forgets keys that have ended. -/
private def forgetStaleKeys : Scan Unit := do
  let s ← getThe Scanner
  let live := s.keys.filter fun e => e.2.reaches s.cursor
  if (s.keys.filter fun e => !e.2.reaches s.cursor).any (·.2.required) then throw .malformed
  set { s with keys := live }

/-! ### Indentation -/

/-- Ends the collections in block style that are indented further than the column. -/
private def unindentTo (column : Int) : Scan Unit :=
  modifyThe Scanner fun s =>
    if s.depth ≠ 0 then s
    else
      let columns := s.indent :: s.outer
      let ended := columns.takeWhile (column < ·)
      match columns.drop ended.length with
      | indent :: outer =>
        { s with
          tokens := s.tokens ++ (ended.map fun _ => Token.blockEnd).toArray
          indent := indent
          outer := outer }
      | [] => s

/-- Whether a collection that starts in the column is a new one; if so, it is now the innermost one. -/
private def indentTo (column : Int) : Scan Bool := do
  let s ← getThe Scanner
  if s.indent < column then
    set { s with indent := column, outer := s.indent :: s.outer }
    return true
  else return false

/-- Starts a collection in block style here, unless it has been started. -/
private def startBlock (start : Token) : Scan Unit := do
  let s ← getThe Scanner
  if s.depth = 0 then
    if !s.keyAllowed then throw .malformed
    if ← indentTo s.cursor.column then emit start

/-! ### Tokens -/

/-- Skips spaces, comments and line breaks. A key may start after a line break. -/
private def skipBlanks : Nat → Scan Unit
  | 0 => pure ()
  | fuel + 1 => do
    let s ← getThe Scanner
    let c := s.cursor.skipSpaces.skipComment
    match c.lineBreak? with
    | some (_, c) =>
      set { s with cursor := c, keyAllowed := s.keyAllowed || s.depth = 0 }
      skipBlanks fuel
    | none => set { s with cursor := c }

private def separator (t : Token) : Scan Unit := do
  unindentTo (-1)
  forgetKey
  allowKey false
  emitWide 3 t

private def directive : Scan Unit := do
  unindentTo (-1)
  forgetKey
  allowKey false
  emitRead readDirective id

private def openFlow (t : Token) : Scan Unit := do
  rememberKey
  modifyThe Scanner fun s => { s with depth := s.depth + 1 }
  allowKey true
  emitWide 1 t

private def closeFlow (t : Token) : Scan Unit := do
  forgetKey
  allowKey false
  emitWide 1 t
  let s ← getThe Scanner
  -- What closes nothing cannot be part of a document.
  if s.depth = 0 then throw .malformed
  set { s with depth := s.depth - 1 }

private def flowEntry : Scan Unit := do
  allowKey true
  forgetKey
  emitWide 1 .flowEntry

private def blockEntry : Scan Unit := do
  startBlock .blockSequenceStart
  allowKey true
  forgetKey
  emitWide 1 .blockEntry

private def explicitKey : Scan Unit := do
  startBlock .blockMappingStart
  allowKey ((← getThe Scanner).depth = 0)
  forgetKey
  emitWide 1 .key

/-- A colon: it makes a key of what may be one, or follows a key that was announced. -/
private def value : Scan Unit := do
  let s ← getThe Scanner
  match s.keys.get? s.depth with
  | some key =>
    set { s with keys := s.keys.erase s.depth }
    insert key.position .key
    if s.depth = 0 then
      if ← indentTo key.column then insert key.position .blockMappingStart
    allowKey false
  | none =>
    startBlock .blockMappingStart
    allowKey (s.depth = 0)
    forgetKey
  emitWide 1 .value

/-- A token that a key may start with. -/
private def keyStart {α : Type} (read : Cursor → Except Error (α × Cursor)) (token : α → Token) : Scan Unit := do
  rememberKey
  allowKey false
  emitRead read token

private def block (folded : Bool) : Scan Unit := do
  allowKey true
  forgetKey
  let s ← getThe Scanner
  emitRead (readBlock folded s.indent) fun text => .scalar (Text.Symbol.ofChars text) false

private def plain : Scan Unit := do
  rememberKey
  let s ← getThe Scanner
  let (text, ended, c) := readPlain (s.depth ≠ 0) s.indent s.cursor
  emit (.scalar (Text.Symbol.ofChars text) true)
  moveTo c
  allowKey ended

/-- The characters that no plain scalar starts with, unless a rule below says so. -/
private def indicators : List Char :=
  "-?:,[]\x7b\x7d#&*!|>'\"%@\x60".toList

/-- Reads the next token. -/
private def next : Scan Unit := do
  let s ← getThe Scanner
  let c := s.cursor
  let after := c.ahead? 1
  let inFlow := s.depth ≠ 0
  let atBlank := isBlankOrEnd after
  match c.next? with
  | none => throw .malformed
  | some char =>
    if char = '%' ∧ c.column = 0 then directive
    else if char = '-' ∧ c.column = 0 ∧ c.atSeparator then separator .documentStart
    else if char = '.' ∧ c.column = 0 ∧ c.atSeparator then separator .documentEnd
    else if char = '[' then openFlow .flowSequenceStart
    else if char = '\x7b' then openFlow .flowMappingStart
    else if char = ']' then closeFlow .flowSequenceEnd
    else if char = '\x7d' then closeFlow .flowMappingEnd
    else if char = ',' then flowEntry
    else if char = '-' ∧ atBlank then blockEntry
    else if char = '?' ∧ (inFlow ∨ atBlank) then explicitKey
    else if char = ':' ∧ (inFlow ∨ atBlank) then value
    else if char = '*' then keyStart (readAnchorName ·.step) .alias
    else if char = '&' then keyStart (readAnchorName ·.step) .anchor
    else if char = '!' then keyStart readTag id
    else if char = '|' ∧ !inFlow then block false
    else if char = '>' ∧ !inFlow then block true
    else if char = '\'' ∨ char = '"' then keyStart (readQuoted char) (.scalar · false)
    else if !isBlankOrEnd (some char) ∧ !indicators.contains char then plain
    else if !atBlank ∧ (char = '-' ∨ (!inFlow ∧ (char = '?' ∨ char = ':'))) then plain
    else throw .malformed

/-- Settles the tokens in front of which nothing can be put in any more. -/
private def settle : Scan Unit :=
  modifyThe Scanner fun s =>
    let pending := s.keys.filter fun e => e.2.reaches s.cursor
    { s with settled := pending.foldl (fun n e => min n e.2.position) s.tokens.size }

/-- Reads tokens to the end of the text. -/
private def all : Nat → Scan Unit
  | 0 => throw .malformed
  | fuel + 1 => do
    settle
    skipBlanks ((← getThe Scanner).cursor.left + 1)
    forgetStaleKeys
    unindentTo (← getThe Scanner).cursor.column
    if (← getThe Scanner).cursor.rest.isEmpty then
      unindentTo (-1)
      forgetKey
    else
      next
      all fuel

end Scan

/-- The place after a byte order mark at the very beginning. -/
private def afterMark (c : Cursor) : Cursor :=
  if c.next? = some '\uFEFF' then c.step else c

/-- The tokens of a text, and what is wrong with the text after the last of them, if something is. A token that may
start a key is not known before the key has ended, so that what is wrong inside of the key comes before it. -/
def scan (text : String) : List Token × Option Error :=
  let cursor := afterMark (.ofText text)
  let (result, s) := (Scan.all (cursor.left + 1)).run ⟨cursor, #[], 0, -1, [], true, [], 0⟩
  match result with
  | .ok () => (s.tokens.toList, none)
  | .error e => (s.tokens.toList.take s.settled, some e)

end CrudScaffold.Yaml
