import CrudScaffold.Artifact.Column
import CrudScaffold.Artifact.Module

/-!
# The migration

The revision that creates the table with its indexes, and drops it again. It is named by the moment it was made at.
-/

namespace CrudScaffold

open Source (Expr Statement Function)

namespace Request

private def zonedType : Expr :=
  .call "sa.DateTime" (.ofKeywords [("timezone", .true)])

private def required : String × Expr :=
  ("nullable", .ofBool false)

private def idColumn : Column :=
  ⟨"id", some (.call "sa.BigInteger" .nil), none, [("primary_key", .true), ("autoincrement", .true)]⟩

private def stampColumn (name : String) : Column :=
  ⟨name, some zonedType, none, [("server_default", .call "sa.func.now" .nil), required]⟩

private def deletedColumn : Column :=
  ⟨"deleted_at", some zonedType, none, [("nullable", .true)]⟩

/-- The columns of the table, in order. -/
def migrationColumns (r : Request) : List Column :=
  idColumn :: r.fields.map Field.migrationColumn ++ [stampColumn "created_at", stampColumn "updated_at"] ++
    if r.softDelete then [deletedColumn] else []

/-- The columns that get an index. -/
def indexedColumns (r : Request) : List String :=
  ((r.fields.filter fun f => f.isIndexed || f.isForeignKey).map (·.name)) ++
    if r.softDelete then ["deleted_at"] else []

end Request

/-- The declaration of a column in a table that is being created. -/
def Column.declaration (c : Column) : Expr :=
  .call "sa.Column" (.ofValues [.quoted c.name] ++ c.arguments "sa.ForeignKey")

namespace Request

private def createTable (r : Request) : List Statement :=
  [.code 0 "op.create_table(", .code 1 ((Expr.quoted r.table).render ++ ",")] ++
    r.migrationColumns.map (fun c => .code 1 (c.declaration.render ++ ",")) ++ [.code 0 ")"]

private def createIndex (r : Request) (column : String) : Statement :=
  .code 0 (Expr.call "op.create_index" (.ofValues
    [.quoted ("ix_" ++ r.table ++ "_" ++ column), .quoted r.table, .list (.ofValues [.quoted column])])).render

private def upgrade (r : Request) : Function :=
  ⟨[], "upgrade", [], false, some "None", r.createTable ++ r.indexedColumns.map r.createIndex⟩

private def downgrade (r : Request) : Function :=
  ⟨[], "downgrade", [], false, some "None",
    [.code 0 (Expr.call "op.drop_table" (.ofValues [.quoted r.table])).render]⟩

def migrationDefinitions (r : Request) : List Source.Definition :=
  [.function r.upgrade, .function r.downgrade]

end Request

namespace Artifact

def migration (stamp : String) (r : Request) : Artifact where
  place := r.migrationPlace stamp
  source :=
    { summary := "Create the '" ++ r.table ++ "' table."
      imports := [[⟨"sqlalchemy as sa", []⟩, ⟨"alembic", ["op"]⟩]]
      assignments :=
        [("revision", .quoted (r.revision stamp)), ("down_revision", .none), ("branch_labels", .none),
          ("depends_on", .none)]
      definitions := r.migrationDefinitions }

end Artifact

end CrudScaffold
