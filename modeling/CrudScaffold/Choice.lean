import CrudScaffold.Text.Affix

/-!
# Choices

What a run can be asked for, under the names used on the command line and in configurations, and the kinds of files
that are written.
-/

namespace CrudScaffold

inductive Choice
  | all
  | routes
  | softDelete
  | controller
  | factory
  | filter
  | test
  | migration
  | seeder
  | resource
  | request
  | createRequest
  | updateRequest
  | model
  deriving DecidableEq, Repr

namespace Choice

/-- The choices that the user makes. -/
def options : List Choice :=
  [.all, .routes, .softDelete, .controller, .factory, .filter, .test, .migration, .seeder, .resource, .request]

/-- All choices; the ones after `request` follow from the others. -/
def every : List Choice :=
  options ++ [.createRequest, .updateRequest, .model]

/-- The name of a choice, with hyphens. -/
def name : Choice → String
  | all => "all"
  | routes => "routes"
  | softDelete => "soft-delete"
  | controller => "controller"
  | factory => "factory"
  | filter => "filter"
  | test => "test"
  | migration => "migration"
  | seeder => "seeder"
  | resource => "resource"
  | request => "request"
  | createRequest => "create-request"
  | updateRequest => "update-request"
  | model => "model"

/-- The spelling of a name with underscores. -/
def underscored (name : String) : String :=
  .ofList (name.toList.map fun c => if c = '-' then '_' else c)

/-- The name of a choice, with underscores. -/
def key (c : Choice) : String :=
  underscored c.name

def ofName? (name : String) : Option Choice :=
  every.find? fun c => c.name == name

def ofKey? (key : String) : Option Choice :=
  every.find? fun c => c.key == key

/-- The option that a name stands for, in either spelling. -/
def option? (name : String) : Option Choice :=
  options.find? fun c => c.key == underscored name

end Choice

/-- The kinds of files that a run writes. -/
inductive ArtifactKind
  | model
  | controller
  | resource
  | factory
  | filter
  | test
  | migration
  | seeder
  | createRequest
  | updateRequest
  | routes
  deriving DecidableEq, Repr

namespace ArtifactKind

def all : List ArtifactKind :=
  [.model, .controller, .resource, .factory, .filter, .test, .migration, .seeder, .createRequest, .updateRequest,
    .routes]

/-- The choice that asks for a file of this kind. -/
def choice : ArtifactKind → Choice
  | model => .model
  | controller => .controller
  | resource => .resource
  | factory => .factory
  | filter => .filter
  | test => .test
  | migration => .migration
  | seeder => .seeder
  | createRequest => .createRequest
  | updateRequest => .updateRequest
  | routes => .routes

def name (k : ArtifactKind) : String :=
  k.choice.name

def ofName? (name : String) : Option ArtifactKind :=
  all.find? fun k => k.name == name

end ArtifactKind

end CrudScaffold
