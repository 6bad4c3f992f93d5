import CrudScaffold.Source.Expr

/-!
# Field types

The types a field can have, the words for them in a schema, and what each becomes in the generated code.
-/

namespace CrudScaffold

inductive FieldType
  | string
  | text
  | integer
  | bigInteger
  | smallInteger
  | float
  | decimal
  | boolean
  | date
  | datetime
  | time
  | timestamp
  | json
  | uuid
  | foreignId
  deriving DecidableEq, Repr

namespace FieldType

def all : List FieldType :=
  [.string, .text, .integer, .bigInteger, .smallInteger, .float, .decimal, .boolean, .date, .datetime, .time,
    .timestamp, .json, .uuid, .foreignId]

/-- The word for a type in a schema. -/
def word : FieldType → String
  | string => "string"
  | text => "text"
  | integer => "integer"
  | bigInteger => "big_integer"
  | smallInteger => "small_integer"
  | float => "float"
  | decimal => "decimal"
  | boolean => "boolean"
  | date => "date"
  | datetime => "datetime"
  | time => "time"
  | timestamp => "timestamp"
  | json => "json"
  | uuid => "uuid"
  | foreignId => "foreign_id"

def ofWord? (w : String) : Option FieldType :=
  all.find? fun t => t.word == w

/-- Other words for some of the types. -/
def aliases : List (String × FieldType) :=
  [("int", integer), ("biginteger", bigInteger), ("bigint", bigInteger), ("smallinteger", smallInteger),
    ("smallint", smallInteger), ("bool", boolean), ("str", string), ("foreignid", foreignId),
    ("foreign", foreignId)]

/-- The type of the attribute that holds the field's value, as a dotted name. -/
def valueType : FieldType → String
  | string | text => "str"
  | integer | bigInteger | smallInteger | foreignId => "int"
  | float => "float"
  | decimal => "decimal.Decimal"
  | boolean => "bool"
  | date => "dt.date"
  | datetime | timestamp => "dt.datetime"
  | time => "dt.time"
  | json => "dict"
  | uuid => "uuid.UUID"

/-- The class of the column's type. -/
def columnClass : FieldType → String
  | string => "String"
  | text => "Text"
  | integer => "Integer"
  | bigInteger | foreignId => "BigInteger"
  | smallInteger => "SmallInteger"
  | float => "Float"
  | decimal => "Numeric"
  | boolean => "Boolean"
  | date => "Date"
  | datetime | timestamp => "DateTime"
  | time => "Time"
  | json => "JSON"
  | uuid => "Uuid"

/-- What the class of the column's type is called with. -/
def columnArguments : FieldType → Source.Arguments
  | string => .ofValues [.literal "255"]
  | decimal => .ofValues [.literal "10", .literal "2"]
  | timestamp => .ofKeywords [("timezone", .true)]
  | _ => .nil

/-- The column's type; a class that takes no arguments stands for itself. -/
def columnType (t : FieldType) : Source.Expr :=
  match t.columnArguments with
  | .nil => .path t.columnClass
  | arguments => .call t.columnClass arguments

end FieldType

end CrudScaffold
