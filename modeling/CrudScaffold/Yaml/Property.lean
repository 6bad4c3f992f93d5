import CrudScaffold.Text.Quoted
import CrudScaffold.Yaml.Cursor
import CrudScaffold.Yaml.Error
import CrudScaffold.Yaml.Token

/-!
# Anchors, tags and directives

How the tokens are read that say something about a node or a document and are no content themselves.
-/

namespace CrudScaffold.Yaml

private def isNameChar (c : Char) : Bool :=
  c.isAlphanum || c == '-' || c == '_'

private def check (holds : Bool) : Except Error Unit :=
  if holds then .ok () else .error .malformed

/-- Reads the name of an anchor or alias; the indicator has been read. -/
def readAnchorName (c : Cursor) : Except Error (String × Cursor) := do
  let (name, c) := c.takeWhile isNameChar
  let ends := c.next?.all fun next =>
    isBlankOrEnd (some next) || ['?', ':', ',', ']', '\x7d', '%', '@', '\x60'].contains next
  check (!name.isEmpty && ends)
  return (.ofList name, c)

/-! ### Tags -/

private def isUriChar (c : Char) : Bool :=
  c.isAlphanum || ("-;/?:@&=+$,_.!~*'()[]%".toList.contains c)

/-- The bytes that a run of percent signs with two digits each stand for. -/
private def readEscapedBytes : Nat → Cursor → Except Error (List UInt8 × Cursor)
  | 0, c => .ok ([], c)
  | fuel + 1, c =>
    if c.next? = some '%' then
      match Text.Quoted.readHex 2 0 c.step.rest with
      | some (code, _) => (readEscapedBytes fuel (c.advance 3)).map fun p => (code.toUInt8 :: p.1, p.2)
      | none => .error .malformed
    else .ok ([], c)

/-- Reads the characters of a tag. -/
private def readUriChars : Nat → Cursor → Except Error (List Char × Cursor)
  | 0, c => .ok ([], c)
  | fuel + 1, c => do
    let (plain, c) := c.takeWhile fun char => isUriChar char && char != '%'
    if c.next? ≠ some '%' then return (plain, c)
    let (bytes, c) ← readEscapedBytes c.left c
    match String.fromUTF8? ⟨bytes.toArray⟩ with
    | none => throw .malformed
    | some text =>
      let (later, c) ← readUriChars fuel c
      return (plain ++ text.toList ++ later, c)

private def readUri (c : Cursor) : Except Error (String × Cursor) := do
  check (c.next?.any isUriChar)
  let (uri, c) ← readUriChars (c.left + 1) c
  return (.ofList uri, c)

/-- Reads a handle: an exclamation mark, or a name between two of them. -/
private def readHandle (c : Cursor) : Except Error (String × Cursor) := do
  check (c.next? == some '!')
  if c.ahead? 1 = some ' ' then return ("!", c.step)
  let (name, c) := c.step.takeWhile isNameChar
  check (c.next? == some '!')
  return (.ofList ('!' :: name ++ ['!']), c.step)

/-- Whether another exclamation mark comes before the next blank; the first one has been read. -/
private def hasHandle (c : Cursor) : Bool :=
  (c.rest.takeWhile fun char => !isSpaceOrEnd (some char)).contains '!'

/-- Reads a tag; its exclamation mark comes next. -/
def readTag (c : Cursor) : Except Error (Token × Cursor) := do
  let (token, c) : Token × Cursor ←
    if c.ahead? 1 = some '<' then do
      let (suffix, c) ← readUri (c.advance 2)
      check (c.next? == some '>')
      pure (.tag none suffix, c.step)
    else if isBlankOrEnd (c.ahead? 1) then pure (.tag none "!", c.step)
    else do
      let (handle, c) ← if hasHandle c.step then readHandle c else pure ("!", c.step)
      let (suffix, c) ← readUri c
      pure (.tag (some handle) suffix, c)
  check (isSpaceOrEnd c.next?)
  return (token, c)

/-! ### Directives -/

private def readNumber (c : Cursor) : Except Error (Nat × Cursor) := do
  let (digits, c) := c.takeWhile Char.isDigit
  check (!digits.isEmpty)
  if maxDigits < digits.length then throw (.digits digits.length)
  return (digits.foldl (fun n d => 10 * n + (d.toNat - 0x30)) 0, c)

private def readVersion (c : Cursor) : Except Error (Directive × Cursor) := do
  let (major, c) ← readNumber c.skipSpaces
  check (c.next? == some '.')
  let (_, c) ← readNumber c.step
  check (isSpaceOrEnd c.next?)
  return (.version major, c)

private def readTagDirective (c : Cursor) : Except Error (Directive × Cursor) := do
  let (handle, c) ← readHandle c.skipSpaces
  check (c.next? == some ' ')
  let (expansion, c) ← readUri c.skipSpaces
  check (isSpaceOrEnd c.next?)
  return (.tag handle expansion, c)

/-- Reads a directive up to the end of its line; its percent sign comes next. -/
def readDirective (c : Cursor) : Except Error (Token × Cursor) := do
  let (name, c) := c.step.takeWhile isNameChar
  check (!name.isEmpty && isSpaceOrEnd c.next?)
  let (directive, c) : Directive × Cursor ←
    if name = "YAML".toList then readVersion c
    else if name = "TAG".toList then readTagDirective c
    else pure (.other, c.skipWhile (!isBreak ·))
  let c := c.skipSpaces.skipComment
  check (isLineEnd c.next?)
  return (.directive directive, c.step)

end CrudScaffold.Yaml
