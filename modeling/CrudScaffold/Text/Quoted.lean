import CrudScaffold.Text.Printable

/-!
# Quoted text

A text as a string literal of one line. Single quotes are preferred; double quotes are used when the text holds
a single quote and no double quote. The chosen quote, the backslash and everything that is not printable are
escaped.
-/

namespace CrudScaffold.Text.Quoted

def hexDigit (n : Nat) : Char :=
  if n < 10 then Char.ofNat (0x30 + n) else Char.ofNat (0x57 + n)

/-- The last `width` hexadecimal digits of a number, in lower case. -/
def hex : Nat → Nat → List Char
  | 0, _ => []
  | width + 1, n => hex width (n / 16) ++ [hexDigit (n % 16)]

/-- The quote that a text is written in. -/
def quoteFor (cs : List Char) : Char :=
  if cs.contains '\'' && !cs.contains '"' then '"' else '\''

def escapeChar (quote c : Char) : List Char :=
  if c = quote ∨ c = '\\' then ['\\', c]
  else if c = '\n' then ['\\', 'n']
  else if c = '\r' then ['\\', 'r']
  else if c = '\t' then ['\\', 't']
  else if isPrintable c then [c]
  else if c.toNat ≤ 0xFF then '\\' :: 'x' :: hex 2 c.toNat
  else if c.toNat ≤ 0xFFFF then '\\' :: 'u' :: hex 4 c.toNat
  else '\\' :: 'U' :: hex 8 c.toNat

def escape (quote : Char) (cs : List Char) : List Char :=
  cs.flatMap (escapeChar quote)

/-- The text as a literal. -/
def encode (cs : List Char) : List Char :=
  let quote := quoteFor cs
  quote :: escape quote cs ++ [quote]

def hexValue? (c : Char) : Option Nat :=
  if '0' ≤ c ∧ c ≤ '9' then some (c.toNat - 0x30)
  else if 'a' ≤ c ∧ c ≤ 'f' then some (c.toNat - 0x57)
  else if 'A' ≤ c ∧ c ≤ 'F' then some (c.toNat - 0x37)
  else none

/-- Reads `width` hexadecimal digits, and returns what follows them. -/
def readHex : Nat → Nat → List Char → Option (Nat × List Char)
  | 0, n, rest => some (n, rest)
  | _ + 1, _, [] => none
  | width + 1, n, c :: rest => (hexValue? c).bind fun d => readHex width (16 * n + d) rest

end CrudScaffold.Text.Quoted

namespace CrudScaffold.Text

/-- The text as a string literal. -/
def quoted (s : String) : String :=
  .ofList (Quoted.encode s.toList)

/-- Texts as a literal list of string literals. -/
def quotedList (items : List String) : String :=
  "[" ++ ", ".intercalate (items.map quoted) ++ "]"

end CrudScaffold.Text
