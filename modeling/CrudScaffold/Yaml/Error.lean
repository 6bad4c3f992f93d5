import CrudScaffold.Calendar
import CrudScaffold.Text.Quoted
import CrudScaffold.Value

/-!
# Errors of documents

Why a text has no value as a document: it breaks the rules of the format, or one of its scalars is written in the
form of a type but stands for no value of it.
-/

namespace CrudScaffold.Yaml

inductive Error
  /-- The text breaks the rules of the format. -/
  | malformed
  /-- Numbers in the form of a date that form none. -/
  | calendar (f : CalendarFault)
  /-- A literal of something that is no number in the given base. -/
  | integer (base : Nat) (literal : String)
  /-- A literal of something that is no number. -/
  | float (literal : String)
  /-- A factor of sixties that is no finite double. -/
  | factor
  /-- More decimal digits than an integer may have. -/
  | digits (count : Nat)
  /-- An integer that is too long to be written. -/
  | tooLong
  /-- A number that is tagged as such and has no digits at all. -/
  | emptyNumber
  /-- A text that is tagged as a moment and does not have the form of one. -/
  | notTimestamp
  /-- A mapping that is tagged as a moment, though a text stands for it. -/
  | timestampOfMapping
  /-- A word that is tagged as a truth value and is none. -/
  | truthValue (word : String)
  /-- An escape sequence beyond the last character. -/
  | character (code : Nat)
  deriving Repr

/-- The most decimal digits that an integer may have. -/
def maxDigits : Nat := 4300

def calendarMessage : CalendarFault → String
  | .year y => "year " ++ toString y ++ " is out of range"
  | .month => "month must be in 1..12"
  | .day => "day is out of range for month"
  | .hour => "hour must be in 0..23"
  | .minute => "minute must be in 0..59"
  | .second => "second must be in 0..59"
  | .offset minutes =>
    let seconds := minutes * 60
    let days := seconds / 86400
    let rest := seconds % 86400
    let parts := (if days = 0 then [] else ["days=" ++ toString days]) ++
      (if rest = 0 then [] else ["seconds=" ++ toString rest])
    "offset must be a timedelta strictly between -timedelta(hours=24) and timedelta(hours=24), not " ++
      "datetime.timedelta(" ++ ", ".intercalate parts ++ ")."

def Error.message : Error → String
  | malformed => "malformed document"
  | calendar f => calendarMessage f
  | integer base literal =>
    "invalid literal for int() with base " ++ toString base ++ ": " ++ .ofList (literal.toList.take 200)
  | float literal => "could not convert string to float: " ++ literal
  | factor => "int too large to convert to float"
  | digits count =>
    "Exceeds the limit (" ++ toString maxDigits ++ " digits) for integer string conversion: value has " ++
      toString count ++ " digits; use sys.set_int_max_str_digits() to increase the limit"
  | tooLong =>
    "Exceeds the limit (" ++ toString maxDigits ++
      " digits) for integer string conversion; use sys.set_int_max_str_digits() to increase the limit"
  | emptyNumber => "string index out of range"
  | notTimestamp => "'NoneType' object has no attribute 'groupdict'"
  | timestampOfMapping => "expected string or bytes-like object, got 'list'"
  | truthValue word => word
  | character code =>
    if code < 0x80000000 then "chr() arg not in range(0x110000)" else "Python int too large to convert to C int"

end CrudScaffold.Yaml
