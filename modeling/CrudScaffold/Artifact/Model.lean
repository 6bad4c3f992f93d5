import CrudScaffold.Artifact.Column
import CrudScaffold.Artifact.Module

/-!
# The class of the model

The class that maps the rows of the table to objects: its columns, and a relationship for every reference.
-/

namespace CrudScaffold

open Source (momentHint Expr Imports Member ClassBody SourceFile)

namespace Request

/-- An attribute of the class: the type of the values it holds, and its column. -/
structure ColumnAttribute where
  hint : Expr
  column : Column

private def momentType : Expr :=
  .call "DateTime" (.ofKeywords [("timezone", .true)])

private def now : Expr :=
  .call "func.now" .nil

private def idAttribute : ColumnAttribute :=
  ⟨.path "int", ⟨"id", none, none, [("primary_key", .true)]⟩⟩

private def createdAttribute : ColumnAttribute :=
  ⟨momentHint, ⟨"created_at", some momentType, none, [("server_default", now)]⟩⟩

private def updatedAttribute : ColumnAttribute :=
  ⟨momentHint, ⟨"updated_at", some momentType, none, [("server_default", now), ("onupdate", now)]⟩⟩

private def deletedAttribute : ColumnAttribute :=
  ⟨.optional momentHint, ⟨"deleted_at", some momentType, none, [("nullable", .true), ("default", .none)]⟩⟩

/-- The columns of the class, in order. -/
def modelColumns (r : Request) : List ColumnAttribute :=
  idAttribute :: r.fields.map (fun f => ⟨f.hint, f.modelColumn⟩) ++ [createdAttribute, updatedAttribute] ++
    if r.softDelete then [deletedAttribute] else []

private def mappedHint (hint : Expr) : Expr :=
  .of "Mapped" hint

def ColumnAttribute.member (a : ColumnAttribute) : Member :=
  .field a.column.name (mappedHint a.hint) (.call "mapped_column" (a.column.arguments "ForeignKey"))

/-- The attributes that hold the rows referred to. -/
def relationships (r : Request) : List Member :=
  r.fields.filterMap fun f => f.relatedModel?.map fun model =>
    .field f.relationName (mappedHint (.quoted model)) (.call "relationship" (.ofValues [.quoted model]))

def modelClass (r : Request) : ClassBody where
  name := r.model
  base := some "Base"
  groups :=
    [[.value "__tablename__" (.quoted r.table)], r.modelColumns.map ColumnAttribute.member] ++
      (if r.relationships.isEmpty then [] else [r.relationships]) ++
      [[.method ⟨[], "__repr__", ["self"], false, some "str",
        [.code 0 ("return f\"<" ++ r.model ++ " id=\x7bself.id!r\x7d>\"")]⟩]]

/-- What the type and the reference of a column need. -/
private def columnImports (f : Field) (imports : Imports) : Imports :=
  let imports := imports.add "sqlalchemy" f.type.columnClass
  if f.isForeignKey then (imports.add "sqlalchemy" "ForeignKey").add "sqlalchemy.orm" "relationship" else imports

def modelImports (r : Request) : Imports :=
  let fixed := Source.typeImports false r.fields
    |>.set Source.timeModule []
    |>.set "sqlalchemy" ["DateTime", "func"]
    |>.set "sqlalchemy.orm" ["Mapped", "mapped_column"]
    |>.set r.databaseModule ["Base"]
  let imports := r.fields.foldl (fun imports f => columnImports f imports) fixed
  if r.softDelete then imports.add "typing" "Optional" else imports

end Request

namespace Artifact

def model (r : Request) : Artifact where
  place := r.modelPlace
  source :=
    { summary := "SQLAlchemy model for the '" ++ r.table ++ "' table."
      imports := Source.importSections r r.modelImports
      assignments := []
      definitions := [.classBody r.modelClass] }

end Artifact

end CrudScaffold
