import CrudScaffold.Text.Case
import CrudScaffold.Text.Quoted

/-!
# Symbols

A document can name code points that belong to no character: the surrogates, which are halves of pairs. A text in
which they may occur is a list of symbols.
-/

namespace CrudScaffold.Text

inductive Symbol
  | char (c : Char)
  | surrogate (code : Nat)
  deriving DecidableEq, Repr

/-- A text in which surrogates may occur. -/
abbrev Symbols := List Symbol

namespace Symbol

def code : Symbol → Nat
  | char c => c.toNat
  | surrogate n => n

/-- The symbol of a code point; there is none after the last character. -/
def ofCode? (n : Nat) : Option Symbol :=
  if n.isValidChar then some (.char (Char.ofNat n))
  else if n < 0x110000 then some (.surrogate n)
  else none

def char? : Symbol → Option Char
  | char c => some c
  | surrogate _ => none

def ofChars (cs : List Char) : Symbols :=
  cs.map .char

def ofString (s : String) : Symbols :=
  ofChars s.toList

/-- The characters of a text in which no surrogate occurs. -/
def chars? (text : Symbols) : Option (List Char) :=
  text.mapM char?

def string? (text : Symbols) : Option String :=
  (chars? text).map .ofList

/-- A text in characters: replacement characters stand for the three bytes of a surrogate. -/
def replaced (text : Symbols) : List Char :=
  text.flatMap fun s =>
    match s with
    | .char c => [c]
    | .surrogate _ => List.replicate 3 '\uFFFD'

/-- Symbols, and with them texts, are ordered by their code points. -/
instance : LT Symbol := ⟨fun s t => s.code < t.code⟩

instance : DecidableLT Symbol := fun s t => inferInstanceAs (Decidable (s.code < t.code))

/-- The lower-case form of a text; surrogates have no case, and words end at them. -/
def lower (text : Symbols) : Symbols :=
  (text.splitBy fun s t => s.char?.isSome && t.char?.isSome).flatMap fun part =>
    match chars? part with
    | some cs => ofChars (Text.lower cs)
    | none => part

/-- A symbol inside a literal. -/
def escape (quote : Char) : Symbol → List Char
  | char c => Quoted.escapeChar quote c
  | surrogate n => '\\' :: 'u' :: Quoted.hex 4 n

/-- The text as a string literal. -/
def quoted (text : Symbols) : String :=
  let quote := Quoted.quoteFor (text.filterMap char?)
  .ofList (quote :: text.flatMap (escape quote) ++ [quote])

/-- Texts as a literal list of string literals. -/
def quotedList (items : List Symbols) : String :=
  "[" ++ ", ".intercalate (items.map quoted) ++ "]"

/-- The text on the error output, where codes stand for surrogates. -/
def shown (text : Symbols) : String :=
  .ofList <| text.flatMap fun s =>
    match s with
    | .char c => [c]
    | .surrogate n => '\\' :: 'u' :: Quoted.hex 4 n

instance : Coe String Symbols := ⟨ofString⟩

/-- Messages show texts. -/
instance : Coe Symbols String := ⟨shown⟩

end Symbol

end CrudScaffold.Text
