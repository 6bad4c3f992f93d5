import CrudScaffold.Text.Affix
import CrudScaffold.Text.Blank
import CrudScaffold.Text.Digit
import CrudScaffold.Yaml.Error
import CrudScaffold.Yaml.Tag

/-!
# The values of scalars

The value that the text of a scalar stands for under a tag. A tag that is written out can meet a text of any form.
-/

namespace CrudScaffold.Yaml

open Text (Symbol)

private def withoutUnderscores (text : List Symbol) : List Symbol :=
  text.filter (· ≠ .char '_')

/-- The text without one sign in front, and whether the sign is a minus. -/
private def splitSign : List Symbol → Bool × List Symbol
  | .char '-' :: rest => (true, rest)
  | .char '+' :: rest => (false, rest)
  | text => (false, text)

private def colonParts (text : List Symbol) : List (List Symbol) :=
  Text.splitOn (.char ':') text

/-! ### Numerals -/

/-- A symbol as numbers are read: decimal digits and blanks of all scripts count as those of ASCII, and nothing else
outside of ASCII counts. -/
private def numeralChar : Symbol → Char
  | .surrogate _ => '?'
  | .char c =>
    if c.toNat < 0x80 then c
    else if Text.isBlank c then ' '
    else
      match Text.digitValue? c with
      | some d => Char.ofNat (0x30 + d)
      | none => '?'

/-- The blanks that may stand around a number. -/
private def isNumeralBlank (c : Char) : Bool :=
  c == ' ' || ('\t' ≤ c && c ≤ '\x0d')

/-- A number without the blanks in front of it and its sign, and whether the sign is a minus. -/
private def startNumeral (text : List Symbol) : Bool × List Char :=
  match (text.map numeralChar).dropWhile isNumeralBlank with
  | '-' :: rest => (true, rest)
  | '+' :: rest => (false, rest)
  | cs => (false, cs)

/-! ### Integers -/

private def digitIn? (base : Nat) (c : Char) : Option Nat :=
  (Text.Quoted.hexValue? c).filter (· < base)

/-- The mark in front of numbers of a base, which may be left out. -/
private def withoutBaseMark (base : Nat) (cs : List Char) : List Char :=
  let mark (small large : Char) : List Char :=
    match cs with
    | '0' :: c :: rest => if c = small ∨ c = large then rest else cs
    | _ => cs
  if base = 2 then mark 'b' 'B' else if base = 8 then mark 'o' 'O' else if base = 16 then mark 'x' 'X' else cs

/-- The integer with the given digits. Only decimal numbers are bounded in length. -/
private def integerIn (base : Nat) (text : List Symbol) : Except Error Int :=
  let (negative, cs) := startNumeral text
  let cs := withoutBaseMark base cs
  let isDigit (c : Char) : Bool := (digitIn? base c).isSome
  let digits := cs.takeWhile isDigit
  if base = 10 ∧ maxDigits < digits.length then .error (.digits digits.length)
  else if digits.isEmpty ∨ !(cs.dropWhile isDigit).all isNumeralBlank then
    .error (.integer base (Symbol.quoted text))
  else
    let n : Nat := digits.foldl (fun n c => base * n + (digitIn? base c).getD 0) 0
    .ok (if negative then -n else n)

/-- The number that is written as groups of sixties. -/
private def sexagesimal (parts : List Int) : Int :=
  parts.foldl (fun n part => 60 * n + part) 0

private def integer (text : List Symbol) : Except Error Int := do
  let (negative, text) := splitSign (withoutUnderscores text)
  let n : Int ←
    match text with
    | [] => throw .emptyNumber
    | [.char '0'] => pure 0
    | .char '0' :: .char 'b' :: rest => integerIn 2 rest
    | .char '0' :: .char 'x' :: rest => integerIn 16 rest
    | .char '0' :: _ => integerIn 8 text
    | _ =>
      if text.contains (.char ':') then sexagesimal <$> (colonParts text).mapM (integerIn 10)
      else integerIn 10 text
  return if negative then -n else n

/-! ### Floating-point numbers -/

private def decimalValue (digits : List Char) : Nat :=
  digits.foldl (fun n c => 10 * n + (c.toNat - 0x30)) 0

/-- The double nearest to a decimal number, if the text is one. -/
private def decimal? (cs : List Char) : Option Float := do
  let whole := cs.takeWhile Char.isDigit
  let rest := cs.dropWhile Char.isDigit
  let (fraction, rest) := match rest with
    | '.' :: rest => (rest.takeWhile Char.isDigit, rest.dropWhile Char.isDigit)
    | _ => ([], rest)
  if whole.isEmpty ∧ fraction.isEmpty then none
  let exponent : Int ←
    match rest with
    | [] => some 0
    | 'e' :: rest =>
      let digits := match rest with
        | '-' :: ds | '+' :: ds => ds
        | ds => ds
      if digits.isEmpty ∨ !digits.all Char.isDigit then none
      else
        -- Beyond this every number is zero or infinite.
        let n := min (decimalValue digits) (100000 + cs.length)
        some (if rest.head? = some '-' then -(n : Int) else n)
    | _ => none
  let shift : Int := exponent - fraction.length
  some (Float.ofScientific (decimalValue (whole ++ fraction)) (decide (shift < 0)) shift.natAbs)

private def infinity : Float :=
  1.0 / 0.0

private def wordNumber? (cs : List Char) : Option Float :=
  if cs = "inf".toList ∨ cs = "infinity".toList then some infinity
  else if cs = "nan".toList then some (0.0 / 0.0)
  else none

/-- The double that a text in lower case stands for. -/
private def doubleOf (text : List Symbol) : Except Error Float :=
  let (negative, cs) := startNumeral text
  let cs := (cs.reverse.dropWhile isNumeralBlank).reverse
  match (wordNumber? cs).orElse fun _ => decimal? cs with
  | some x => .ok (if negative then -x else x)
  | none => .error (.float (Symbol.quoted text))

/-- The sum of parts that count sixty times as much from one to the next. A factor has to be a finite double. -/
private def sexagesimalDouble (parts : List Float) : Except Error Float :=
  parts.reverse.zipIdx.foldlM (fun sum (x, i) =>
    let factor := Float.ofNat (Nat.pow 60 i)
    if factor.isInf then .error .factor else .ok (sum + x * factor)) 0.0

/-- The double that a text stands for. Every calculation without a result has one of its own, which `origin` tells
from the others; the word for it always means the same one. -/
private def double (text : List Symbol) (origin : Nat) : Except Error Scalar := do
  let text := Symbol.lower (withoutUnderscores text)
  if text.isEmpty then throw .emptyNumber
  let (negative, text) := splitSign text
  if text = Symbol.ofChars ".nan".toList then return .notANumber 0
  let x ←
    if text = Symbol.ofChars ".inf".toList then pure infinity
    else if text.contains (.char ':') then (colonParts text).mapM doubleOf >>= sexagesimalDouble
    else doubleOf text
  return if x.isNaN then .notANumber origin else .float (if negative then -x else x)

/-! ### Dates and moments -/

/-- The digits from here on, and what follows them and one more character. -/
private def splitDigits (cs : List Char) : List Char × List Char :=
  (cs.takeWhile Char.isDigit, (cs.dropWhile Char.isDigit).drop 1)

/-- Microseconds from the digits after the point of the seconds. -/
private def microseconds (fraction : List Char) : Nat :=
  let six := fraction.take 6
  decimalValue (six ++ List.replicate (6 - six.length) '0')

/-- Minutes ahead of universal time, after a sign. -/
private def offsetMinutes (cs : List Char) : Except Error Int :=
  let (hours, minutes) := splitDigits (cs.drop 1)
  let total : Int := decimalValue hours * 60 + decimalValue (minutes.takeWhile Char.isDigit)
  let signed := if cs.head? = some '-' then -total else total
  if total < 24 * 60 then .ok signed else .error (.calendar (.offset signed))

private def dateOrMoment (text : List Symbol) : Except Error Scalar := do
  let some cs := (Symbol.chars? text).filter isDateOrMoment | throw .notTimestamp
  let (year, cs) := splitDigits cs
  let (month, cs) := splitDigits cs
  let day := cs.takeWhile Char.isDigit
  let time := (cs.dropWhile Char.isDigit).dropWhile fun c => c == 'T' || c == 't' || c == ' ' || c == '\t'
  let date := (Date.check (decimalValue year) (decimalValue month) (decimalValue day)).mapError Error.calendar
  if time.all (· == '\n') then return .date (← date)
  let (hour, cs) := splitDigits time
  let (minute, cs) := splitDigits cs
  let second := cs.takeWhile Char.isDigit
  let cs := cs.dropWhile Char.isDigit
  let (fraction, cs) := match cs with
    | '.' :: rest => (rest.takeWhile Char.isDigit, rest.dropWhile Char.isDigit)
    | _ => ([], cs)
  let zone := cs.dropWhile fun c => c == ' ' || c == '\t'
  let offset : Option Int ←
    match zone with
    | 'Z' :: _ => pure (some 0)
    | '+' :: _ | '-' :: _ => some <$> offsetMinutes zone
    | _ => pure none
  let moment ← (Moment.check (← date) (decimalValue hour) (decimalValue minute) (decimalValue second)
    (microseconds fraction)).mapError Error.calendar
  return .moment moment offset

/-! ### Bytes -/

/-- The value of a letter that stands for six bits. -/
private def sextet? (c : Char) : Option Nat :=
  if 'A' ≤ c ∧ c ≤ 'Z' then some (c.toNat - 0x41)
  else if 'a' ≤ c ∧ c ≤ 'z' then some (c.toNat - 0x47)
  else if '0' ≤ c ∧ c ≤ '9' then some (c.toNat + 4)
  else if c = '+' then some 62
  else if c = '/' then some 63
  else none

/-- Reads groups of four letters as three bytes. Other characters are passed over; the end may be padded. `held`
are the bits of the group that are not yet part of a byte, of which `place` letters have been read. -/
private def readSextets (place held pads : Nat) : List Char → Option (List UInt8)
  | [] => if place = 0 then some [] else none
  | '=' :: rest =>
    if place ≥ 2 then if place + pads + 1 ≥ 4 then some [] else readSextets place held (pads + 1) rest
    else readSextets place held pads rest
  | c :: rest =>
    match sextet? c with
    | none => readSextets place held pads rest
    | some bits =>
      let whole := held * 64 + bits
      match place with
      | 0 => readSextets 1 bits 0 rest
      | 1 => (readSextets 2 (whole % 16) 0 rest).map ((whole / 16).toUInt8 :: ·)
      | 2 => (readSextets 3 (whole % 4) 0 rest).map ((whole / 4).toUInt8 :: ·)
      | _ => (readSextets 0 0 0 rest).map (whole.toUInt8 :: ·)

private def bytes (text : List Symbol) : Except Error ByteArray :=
  match ((Symbol.chars? text).filter fun cs => cs.all (·.toNat < 0x80)).bind (readSextets 0 0 0) with
  | some bs => .ok ⟨bs.toArray⟩
  | none => .error .malformed

/-! ### All tags -/

private def truthValues : List (String × Bool) :=
  [("yes", true), ("no", false), ("true", true), ("false", false), ("on", true), ("off", false)]

private def truthValue (text : List Symbol) : Except Error Bool :=
  let word : String := .ofList (Symbol.replaced (Symbol.lower text))
  match truthValues.lookup word with
  | some b => .ok b
  | none => .error (.truthValue word)

/-- The value of a text under a tag for scalars; `origin` is the number of the node that the text is from. -/
def Tag.valueOf (tag : Tag) (text : List Symbol) (origin : Nat) : Except Error Scalar :=
  match tag with
  | .null => .ok .null
  | .bool => .bool <$> truthValue text
  | .int => .int <$> integer text
  | .float => double text (origin + 1)
  | .binary => .bytes <$> bytes text
  | .timestamp => dateOrMoment text
  | .text => .ok (.ofSymbols text)
  | _ => .error .malformed

end CrudScaffold.Yaml
