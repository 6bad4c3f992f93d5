import CrudScaffold.Schema.Field
import CrudScaffold.Source.SourceFile

/-!
# Sample data

Values that stand in for real data: expressions that make up a value for a field, and fixed values that a test
sends.
-/

namespace CrudScaffold

open Source (Expr)

private def fake (method : String) (keywords : List (String × Expr)) : Expr :=
  .call ("fake." ++ method) (.ofKeywords keywords)

private def number (n : Nat) : Expr :=
  .literal (toString n)

namespace FieldType

private def between (low : Nat) (high : Expr) : Expr :=
  fake "random_int" [("min", number low), ("max", high)]

private def positive (kind : String) (left : Nat) : Expr :=
  fake kind [("left_digits", number left), ("right_digits", number 2), ("positive", .true)]

/-- What makes up a value of a type. -/
def fakeValue : FieldType → Expr
  | string => fake "sentence" [("nb_words", number 3)]
  | text => fake "paragraph" []
  | integer => between 0 (number 1000)
  | bigInteger => between 0 (.literal "1_000_000")
  | smallInteger => between 0 (number 100)
  | float => positive "pyfloat" 4
  | decimal => positive "pydecimal" 8
  | boolean => fake "boolean" []
  | date => fake "date_object" []
  | datetime => fake "date_time" []
  | time => fake "time_object" []
  | timestamp => fake "date_time" [("tzinfo", .path "timezone.utc")]
  | json => fake "pydict" [("nb_elements", number 3), ("value_types", .list (.ofValues [.path "str", .path "int"]))]
  | uuid => fake "uuid4" [("cast_to", .none)]
  | foreignId => between 1 (number 10)

/-- A value that a test sends when it creates a row. -/
def sampleValue : FieldType → Expr
  | string => .quoted "Sample"
  | text => .quoted "Lorem ipsum dolor sit amet."
  | integer | bigInteger | smallInteger | foreignId => number 1
  | float => .literal "1.5"
  | decimal => .quoted "9.99"
  | boolean => .true
  | date => .quoted "2024-01-01"
  | datetime => .quoted "2024-01-01T00:00:00"
  | time => .quoted "12:00:00"
  | timestamp => .quoted "2024-01-01T00:00:00+00:00"
  | json => .literal "\x7b\"key\": \"value\"\x7d"
  | uuid => .quoted "123e4567-e89b-12d3-a456-426614174000"

/-- A value that a test changes a field to. Fields of other types are not changed. -/
def changedValue? : FieldType → Option Expr
  | string => some (.quoted "Updated")
  | text => some (.quoted "Updated text.")
  | integer | bigInteger | smallInteger => some (number 2)
  | boolean => some (.ofBool false)
  | _ => none

/-- Whether the type holds text. -/
def isText (t : FieldType) : Bool :=
  t = .string || t = .text

/-- Whether a test expects to read exactly the value that it sent. -/
def isEchoed (t : FieldType) : Bool :=
  t.isText || t = .boolean

end FieldType

/-- Names of text fields that say more than their type does. -/
def fakeValuesByName : List (String × Expr) :=
  [("email", fake "unique.email" []), ("name", fake "name" []), ("first_name", fake "first_name" []),
    ("last_name", fake "last_name" []), ("username", fake "unique.user_name" []),
    ("title", fake "sentence" [("nb_words", number 4)]), ("slug", fake "unique.slug" []),
    ("phone", fake "phone_number" []), ("address", fake "address" []), ("city", fake "city" []),
    ("country", fake "country" []), ("url", fake "url" []), ("website", fake "url" [])]

/-- What makes up a value for the field. -/
def Field.fakeValue (f : Field) : Expr :=
  if f.type.isText then (fakeValuesByName.lookup (Text.lowercase f.name)).getD f.type.fakeValue
  else f.type.fakeValue

/-- A mapping from the names of fields to values, one on a line; `start` is what stands before it. -/
def Source.Statement.mapping (start : String) (items : List (String × Expr)) : List Source.Statement :=
  if items.isEmpty then [.code 0 (start ++ "\x7b\x7d")]
  else [.code 0 (start ++ "\x7b")] ++ items.map (fun e => .entry 1 e.1 e.2) ++ [.code 0 "\x7d"]

end CrudScaffold
