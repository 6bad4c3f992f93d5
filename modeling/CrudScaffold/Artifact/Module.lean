import CrudScaffold.Request
import CrudScaffold.Source.SourceFile

/-!
# Modules of the application

Where each kind of file stands among the modules of the application, so that what one file imports is what another
one is.
-/

namespace CrudScaffold

/-- A module of the application, by its path below the root, and its text. -/
structure Artifact where
  place : List String
  source : Source.SourceFile

namespace Artifact

/-- The components of the file's path: those of the module, the last one with an ending. -/
def segments (place : List String) : List String :=
  match place.getLast? with
  | some last => place.dropLast ++ [last ++ ".py"]
  | none => []

end Artifact

namespace Request

def modelPlace (r : Request) : List String :=
  ["models", r.snake]

def factoryPlace (r : Request) : List String :=
  ["factories", r.snake ++ "_factory"]

def seederPlace (r : Request) : List String :=
  ["seeders", r.snake ++ "_seeder"]

def filterPlace (r : Request) : List String :=
  ["filters", r.snake ++ "_filters"]

/-- The body that an endpoint receives; `action` is `create` or `update`. -/
def bodyPlace (r : Request) (action : String) : List String :=
  ["requests", r.snake, action ++ "_" ++ r.snake ++ "_request"]

def resourcePlace (r : Request) : List String :=
  ["resources", r.snake, r.snake ++ "_resource"]

def controllerPlace (r : Request) : List String :=
  ["controllers", r.snake ++ "_controller"]

def testPlace (r : Request) : List String :=
  ["tests", "feature", "test_" ++ r.snake]

def routesPlace : List String :=
  ["routes", "api"]

/-- The name of a revision that was made at the time of the stamp. -/
def revision (r : Request) (stamp : String) : String :=
  stamp ++ "_create_" ++ r.table

def migrationPlace (r : Request) (stamp : String) : List String :=
  ["migrations", "versions", r.revision stamp ++ "_table"]

/-- The module of the database connection, which the application itself provides. -/
def databaseModule (r : Request) : String :=
  r.modulePath ["database"]

end Request

namespace Source

/-- The line that puts off the evaluation of type hints. -/
def deferredHints : List Import :=
  [⟨"__future__", ["annotations"]⟩]

/-- What the types of fields need. `Optional` is asked for by fields that may be null, or by every field. -/
def typeImports (everyOptional : Bool) (fields : List Field) : Imports :=
  fields.foldl (fun imports f =>
    let imports := imports.forType f.type.valueType
    if everyOptional || f.isNullable then imports.add "typing" "Optional" else imports) []

/-- The sections of a file that asks for these modules. -/
def importSections (r : Request) (imports : Imports) : List (List Import) :=
  deferredHints :: imports.sections (some r.namespaceModule)

/-- The type of a date with a time of day. -/
def momentHint : Expr :=
  .path "dt.datetime"

def Member.value (name : String) (value : Expr) : Member :=
  .attribute name none (some value)

def Member.typed (name : String) (hint : Expr) : Member :=
  .attribute name (some hint) none

def Member.field (name : String) (hint value : Expr) : Member :=
  .attribute name (some hint) (some value)

end Source

end CrudScaffold
