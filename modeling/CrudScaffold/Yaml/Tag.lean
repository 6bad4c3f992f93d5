import CrudScaffold.Text.Symbol
import CrudScaffold.Yaml.Cursor

/-!
# Tags

What kind of value a node stands for. A node without a tag is tagged by its form: collections by their brackets or
indentation, and plain scalars by what their text looks like.
-/

namespace CrudScaffold.Yaml

inductive Tag
  | null
  | bool
  | int
  | float
  | binary
  | timestamp
  | text
  | sequence
  | mapping
  | set
  /-- Pairs in order, of which no two have one key. -/
  | orderedMapping
  | pairs
  /-- A key that takes over the entries of other mappings. -/
  | merge
  /-- A key for the value that stands for a whole mapping. -/
  | defaultValue
  | unknown
  deriving DecidableEq, Repr

namespace Tag

/-- What the handle `!!` stands for. -/
def standardPrefix : String :=
  "tag:yaml.org,2002:"

private def standardNames : List (String × Tag) :=
  [("null", null), ("bool", bool), ("int", int), ("float", float), ("binary", binary), ("timestamp", timestamp),
    ("str", text), ("seq", sequence), ("map", mapping), ("set", set), ("omap", orderedMapping), ("pairs", pairs),
    ("merge", merge), ("value", defaultValue)]

/-- The tag of a full name. -/
def ofName (name : String) : Tag :=
  ((standardNames.map fun e => (standardPrefix ++ e.1, e.2)).lookup name).getD unknown

/-- Whether the values of a tag are collections, which cannot be keys. -/
def isCollection : Tag → Bool
  | sequence | mapping | set | orderedMapping | pairs => true
  | _ => false

end Tag

/-! ### Plain scalars -/

/-- A part of a text that satisfies a rule, and what may follow it. -/
private abbrev Rest := List (List Char)

private def oneOf (p : Char → Bool) : List Char → Rest
  | c :: rest => if p c then [rest] else []
  | [] => []

private def maybe (f : List Char → Rest) (cs : List Char) : Rest :=
  cs :: f cs

/-- Any number of characters of a class, greedily: no rule goes on with a character of the class. -/
private def run (p : Char → Bool) (cs : List Char) : Rest :=
  [cs.dropWhile p]

private def run1 (p : Char → Bool) (cs : List Char) : Rest :=
  (oneOf p cs).flatMap (run p)

private def matchesAll (rules : List (List Char → Rest)) (cs : List Char) : Bool :=
  (rules.foldl (fun rests rule => rests.flatMap rule) [cs]).any List.isEmpty

private def isNumeric (c : Char) : Bool :=
  c.isDigit || c == '_'

private def exactly (c : Char) : List Char → Rest :=
  oneOf (· == c)

private def signs : List Char → Rest :=
  maybe (oneOf fun c => c == '+' || c == '-')

private def words (texts : List String) (cs : List Char) : Bool :=
  texts.contains (.ofList cs)

private def isBool (cs : List Char) : Bool :=
  words ["yes", "Yes", "YES", "no", "No", "NO", "true", "True", "TRUE", "false", "False", "FALSE", "on", "On", "ON",
    "off", "Off", "OFF"] cs

/-- Groups of a colon and one or two digits below sixty, at least one of them. -/
private def isSexagesimalTail (cs : List Char) : Bool :=
  let rec go : List Char → Bool
    | [':', d] => d.isDigit
    | [':', d, e] => d.isDigit && d ≤ '5' && e.isDigit
    | ':' :: d :: ':' :: rest => d.isDigit && go (':' :: rest)
    | ':' :: d :: e :: ':' :: rest => d.isDigit && d ≤ '5' && e.isDigit && go (':' :: rest)
    | _ => false
  go cs

private def unsigned (cs : List Char) : List Char :=
  match cs with
  | '+' :: rest | '-' :: rest => rest
  | _ => cs

private def exponent : List Char → Rest :=
  maybe fun cs =>
    ((oneOf (fun c => c == 'e' || c == 'E') cs).flatMap (oneOf fun c => c == '+' || c == '-')).flatMap
      (run1 Char.isDigit)

private def isSexagesimalFloat (cs : List Char) : Bool :=
  let cs := unsigned cs
  let whole := cs.takeWhile (· != '.')
  let head := whole.takeWhile isNumeric
  match cs.dropWhile (· != '.') with
  | '.' :: fraction =>
    head.head?.any Char.isDigit && isSexagesimalTail (whole.drop head.length) && fraction.all isNumeric
  | _ => false

private def isFloat (cs : List Char) : Bool :=
  matchesAll [signs, oneOf Char.isDigit, run isNumeric, exactly '.', run isNumeric, exponent] cs ||
    matchesAll [exactly '.', oneOf Char.isDigit, run isNumeric, exponent] cs ||
    isSexagesimalFloat cs || words [".inf", ".Inf", ".INF"] (unsigned cs) || words [".nan", ".NaN", ".NAN"] cs

private def isPositiveDigit (c : Char) : Bool :=
  c.isDigit && c != '0'

private def isHexNumeric (c : Char) : Bool :=
  isNumeric c || ('a' ≤ c && c ≤ 'f') || ('A' ≤ c && c ≤ 'F')

private def isInt (cs : List Char) : Bool :=
  match unsigned cs with
  | ['0'] => true
  | '0' :: 'b' :: rest => !rest.isEmpty && rest.all fun c => c == '0' || c == '1' || c == '_'
  | '0' :: 'x' :: rest => !rest.isEmpty && rest.all isHexNumeric
  | '0' :: rest => rest.all fun c => ('0' ≤ c && c ≤ '7') || c == '_'
  | c :: rest =>
    isPositiveDigit c && (rest.all isNumeric || isSexagesimalTail (rest.dropWhile isNumeric))
  | [] => false

private def digits (n : Nat) (cs : List Char) : Rest :=
  if (cs.take n).length = n && (cs.take n).all Char.isDigit then [cs.drop n] else []

private def oneOrTwo (cs : List Char) : Rest :=
  digits 2 cs ++ digits 1 cs

private def blanks : List Char → Rest :=
  run fun c => c == ' ' || c == '\t'

private def zone (cs : List Char) : Rest :=
  exactly 'Z' cs ++
    ((oneOf (fun c => c == '+' || c == '-') cs).flatMap oneOrTwo).flatMap
      (maybe fun cs => (exactly ':' cs).flatMap (digits 2))

/-- A date, or a moment with a time of day; `shortDate` are the digits of month and day in a date alone. -/
private def isTimestamp (shortDate : List Char → Rest) (cs : List Char) : Bool :=
  let dash := exactly '-'
  let colon := exactly ':'
  let dayAndTime (cs : List Char) : Rest :=
    oneOf (fun c => c == 'T' || c == 't') cs ++ run1 (fun c => c == ' ' || c == '\t') cs
  let fraction : List Char → Rest := maybe fun cs => (exactly '.' cs).flatMap (run Char.isDigit)
  let zoned : List Char → Rest := maybe fun cs => (blanks cs).flatMap zone
  matchesAll [digits 4, dash, shortDate, dash, shortDate] cs ||
    matchesAll [digits 4, dash, oneOrTwo, dash, oneOrTwo, dayAndTime, oneOrTwo, colon, digits 2, colon, digits 2,
      fraction, zoned] cs

/-- The text without one line break at its end, unless it is all there is. -/
private def withoutLastBreak (text : List Char) : List Char :=
  if text.length > 1 ∧ text.getLast? = some '\n' then text.dropLast else text

/-- Whether a text has the form of a date or a moment. Here month and day may have one digit. -/
def isDateOrMoment (text : List Char) : Bool :=
  isTimestamp oneOrTwo (withoutLastBreak text)

/-- The tag of a plain scalar. One line break at its end is passed over. -/
def Tag.ofPlain (text : List Char) : Tag :=
  let cs := withoutLastBreak text
  if isBool cs then .bool
  else if isFloat cs then .float
  else if isInt cs then .int
  else if cs = ['<', '<'] then .merge
  else if words ["", "~", "null", "Null", "NULL"] cs then .null
  else if isTimestamp (digits 2) cs then .timestamp
  else if cs = ['='] then .defaultValue
  else if cs = ['!'] ∨ cs = ['&'] ∨ cs = ['*'] then .unknown
  else .text

/-- The tag of a text that has none, by its form. A text with surrogates has no other form than that of a text. -/
def Tag.ofText (text : List Text.Symbol) : Tag :=
  match Text.Symbol.chars? text with
  | some cs => .ofPlain cs
  | none => .text

end CrudScaffold.Yaml
