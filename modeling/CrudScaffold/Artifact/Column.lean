import CrudScaffold.Request
import CrudScaffold.Source.Literal

/-!
# Columns

What the generated code declares about the columns of a table. The class of the model and the migration declare the
same columns, each in its own words; both start from the fields.
-/

namespace CrudScaffold

open Source (Expr Arguments)

/-- A reference to a column of another table, and what happens when its row is deleted. -/
structure ForeignKey where
  target : Reference
  onDelete : Option String
  deriving DecidableEq, Repr

/-- A column as the arguments of a call: its type, its reference, and settings by name. -/
structure Column where
  name : String
  type : Option Expr
  foreignKey : Option ForeignKey
  settings : List (String × Expr)

def ForeignKey.expr (callee : String) (k : ForeignKey) : Expr :=
  .call callee (.ofValues [.quoted (k.target.table ++ "." ++ k.target.column)] ++
    .ofKeywords (k.onDelete.toList.map fun action => ("ondelete", .quoted action)))

/-- The arguments of a column; `callee` is what references are made with. -/
def Column.arguments (callee : String) (c : Column) : Arguments :=
  .ofValues (c.type.toList ++ c.foreignKey.toList.map (·.expr callee)) ++ .ofKeywords c.settings

namespace Field

/-- The action on deletion, if there is a known one. -/
def knownAction? (f : Field) : Option String :=
  match f.onDelete with
  | .ok action => action
  | .error _ => none

def foreignKey? (f : Field) : Option ForeignKey :=
  f.reference?.map fun target => ⟨target, f.knownAction?⟩

/-- The default value as a literal of the field's type. -/
def defaultLiteral? (f : Field) : Option String :=
  f.default?.map (if f.type.valueType = "str" then Source.textLiteral else Source.literal)

/-- A setting that is only written when it holds. -/
private def flag (name : String) (holds : Bool) : List (String × Expr) :=
  if holds then [(name, .true)] else []

/-- The column in the class of the model. -/
def modelColumn (f : Field) : Column where
  name := f.name
  type := some f.type.columnType
  foreignKey := f.foreignKey?
  settings := flag "nullable" f.isNullable ++ flag "unique" f.isUnique ++ flag "index" f.isIndexed ++
    f.defaultLiteral?.toList.map fun code => ("default", .literal code)

/-- A default that the database fills in: text stays text, and numbers become text. -/
def serverDefault (code : String) : Expr :=
  if code = "True" ∨ code = "False" then .call "sa.text" (.ofValues [.quoted (Text.lowercase code)])
  else if code = "None" then .none
  else if Text.startsWith "'" code ∨ Text.startsWith "\"" code then .literal code
  else .literal (Text.quoted code)

/-- The column in the migration. -/
def migrationColumn (f : Field) : Column where
  name := f.name
  type := some (.call ("sa." ++ f.type.columnClass) f.type.columnArguments)
  foreignKey := f.foreignKey?
  settings := ("nullable", .ofBool f.isNullable) :: flag "unique" f.isUnique ++
    f.defaultLiteral?.toList.map fun code => ("server_default", serverDefault code)

/-- The column of a field whose action on deletion need not be known; an unknown action is handed back when the
column would need it. -/
def checked (column : Field → Column) (f : Field) : Except String Column :=
  if f.reference?.isSome then f.onDelete.map fun _ => column f else .ok (column f)

end Field

end CrudScaffold
