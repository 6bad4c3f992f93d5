import CrudScaffold.Calendar
import CrudScaffold.Number.Double
import CrudScaffold.Text.Symbol

/-!
# Values of a configuration document

The values that a document can hold before it is known to be a configuration: scalars, which are also the keys of
mappings, and collections of values.
-/

namespace CrudScaffold

inductive Scalar
  | null
  | bool (b : Bool)
  | int (n : Int)
  | float (x : Float)
  /-- The absence of a number; `origin` tells those apart that were calculated separately. -/
  | notANumber (origin : Nat)
  | text (s : String)
  /-- A text with surrogates. -/
  | brokenText (s : Text.Symbols)
  | bytes (b : ByteArray)
  | date (d : Date)
  /-- A moment, with the minutes that its clock is ahead of universal time if they are known. -/
  | moment (m : Moment) (offset : Option Int)

inductive Value
  | scalar (s : Scalar)
  | list (items : List Value)
  | pair (first second : Value)
  | set (members : List Scalar)
  | mapping (entries : List (Scalar × Value))

namespace Scalar

def ofSymbols (symbols : Text.Symbols) : Scalar :=
  match Text.Symbol.string? symbols with
  | some s => text s
  | none => brokenText symbols

/-- The text that a scalar is. -/
def symbols? : Scalar → Option Text.Symbols
  | text s => some s
  | brokenText symbols => some symbols
  | _ => none

/-- The whole number that a double is, if it is one. -/
def wholeNumber? (x : Float) : Option Int :=
  (Number.Double.ofFloat? x).bind fun d =>
    let sign (n : Nat) : Int := if d.negative then -n else n
    if d.exponent ≥ 0 then some (sign (d.mantissa * Number.twoTo d.exponent.toNat))
    else
      let den := Number.twoTo (-d.exponent).toNat
      if d.mantissa % den = 0 then some (sign (d.mantissa / den)) else none

/-- The whole number that a truth value, an integer or a double stands for. -/
def integer? : Scalar → Option Int
  | bool b => some b.toInt
  | int n => some n
  | float x => wholeNumber? x
  | _ => none

/-- Whether two scalars are one key of a mapping. Truth values count as the numbers 0 and 1, moments with a known
offset are compared in universal time, and the absence of a number equals only itself. -/
def sameKey (a b : Scalar) : Bool :=
  match a, b with
  | null, null => true
  | text s, text t => s == t
  | brokenText s, brokenText t => s == t
  | notANumber m, notANumber n => m == n
  | bytes s, bytes t => s.data == t.data
  | date d, date e => decide (d = e)
  | moment m none, moment n none => decide (m = n)
  | moment m (some p), moment n (some q) =>
    (m.microseconds : Int) - p * 60000000 == (n.microseconds : Int) - q * 60000000
  | float x, float y => x == y
  | _, _ =>
    match a.integer?, b.integer? with
    | some m, some n => m == n
    | _, _ => false

/-- The hours and minutes of an offset, with its sign. -/
def offsetText (minutes : Int) : String :=
  (if minutes < 0 then "-" else "+") ++ Text.padded 2 (minutes.natAbs / 60) ++ ":" ++
    Text.padded 2 (minutes.natAbs % 60)

private def byteText (quote : Char) (b : UInt8) : List Char :=
  if b < 0x80 then Text.Quoted.escapeChar quote (Char.ofNat b.toNat) else '\\' :: 'x' :: Text.Quoted.hex 2 b.toNat

/-- Bytes as a literal: the bytes of printable ASCII stand for themselves. -/
def bytesText (bytes : ByteArray) : String :=
  let ascii := bytes.toList.map fun b => Char.ofNat b.toNat
  let quote := Text.Quoted.quoteFor ascii
  .ofList (['b', quote] ++ bytes.toList.flatMap (byteText quote) ++ [quote])

/-- A scalar in a message. -/
def label : Scalar → String
  | null => "None"
  | bool b => if b then "True" else "False"
  | int n => toString n
  | float x => Number.shortest x
  | notANumber _ => "nan"
  | text s => s
  | brokenText s => .ofList (Text.Symbol.replaced s)
  | bytes b => bytesText b
  | date d => d.text
  | moment m offset =>
    m.date.text ++ " " ++ m.timeText ++ (match offset with
      | some minutes => offsetText minutes
      | none => "")

/-- The text that a scalar has when it is used as a name. -/
def name : Scalar → Text.Symbols
  | brokenText symbols => symbols
  | s => s.label

/-- Zero, the empty text and the like do not count as given. -/
def isTruthy : Scalar → Bool
  | null => false
  | bool b => b
  | int n => n ≠ 0
  | float x => x != 0
  | text s => s ≠ ""
  | bytes b => b.size ≠ 0
  | notANumber _ | brokenText _ | date _ | moment _ _ => true

def typeName : Scalar → String
  | null => "NoneType"
  | bool _ => "bool"
  | int _ => "int"
  | float _ | notANumber _ => "float"
  | text _ | brokenText _ => "str"
  | bytes _ => "bytes"
  | date _ => "date"
  | moment _ _ => "datetime"

end Scalar

namespace Value

abbrev null : Value := .scalar .null

abbrev text (s : String) : Value := .scalar (.text s)

abbrev symbols (symbols : Text.Symbols) : Value := .scalar (.ofSymbols symbols)

def isNull : Value → Bool
  | .scalar .null => true
  | _ => false

/-- Empty collections do not count as given. -/
def isTruthy : Value → Bool
  | scalar s => s.isTruthy
  | list items => !items.isEmpty
  | pair _ _ => true
  | set members => !members.isEmpty
  | mapping entries => !entries.isEmpty

/-- The name of a value's type in messages. -/
def typeName : Value → String
  | scalar s => s.typeName
  | list _ => "list"
  | pair _ _ => "tuple"
  | set _ => "set"
  | mapping _ => "dict"

/-- Writes a value under a key: a key that is there keeps its place. -/
def putKey {α : Type} (key : Scalar) (value : α) : List (Scalar × α) → List (Scalar × α)
  | [] => [(key, value)]
  | (other, old) :: rest =>
    if key.sameKey other then (other, value) :: rest else (other, old) :: putKey key value rest

/-- The value under a key that is a text. -/
def find? (key : String) (entries : List (Scalar × Value)) : Option Value :=
  (entries.find? fun e => e.1.sameKey (.text key)).map Prod.snd

end Value

end CrudScaffold
