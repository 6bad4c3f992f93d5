import CrudScaffold.Naming
import CrudScaffold.Path
import CrudScaffold.Schema.Parse
import CrudScaffold.Selection

/-!
# Requests

Everything that is known about a run before anything is generated: the model, its fields, what was chosen, and
where the files go. The names of modules, tables and routes follow from the name of the model.

Checks let through places with surrogates, which files are neither written below nor import from. Inputs are all that
passes the checks, and a request is made of inputs whose places have characters only.
-/

namespace CrudScaffold

/-- What passes the checks. -/
structure Inputs where
  model : String
  selection : Selection
  schema : Schema
  group : String
  root : Text.Symbols
  application : Text.Symbols

structure Request where
  model : String
  selection : Selection
  schema : Schema
  group : String
  /-- The directory that the files are written below. -/
  root : String
  /-- The namespace that the generated modules are imported from. -/
  application : String

/-- A name that is no choice. -/
structure UnknownChoice where
  name : String

def UnknownChoice.message (u : UnknownChoice) : String :=
  "unknown option " ++ Text.quoted u.name

namespace Inputs

/-- Inputs from values that were given separately. -/
def ofValues (model group root application : Value) (selection : Selection) (schema : Schema) : Checked Inputs :=
  let nonempty (name : String) (v : Value) := v.checkNonemptyText.mapError fun kind => [Fault.field name kind]
  let text (name : String) (v : Value) := v.checkSymbols.mapError fun kind => [Fault.field name kind]
  let names := Checked.both (nonempty "model" model) (nonempty "path_group" group)
  let places := Checked.both (text "plugin_path" root) (text "base_namespace" application)
  (Checked.both names places).map fun ((model, group), root, application) =>
    ⟨model, selection, schema, group, root, application⟩

def request? (i : Inputs) : Option Request := do
  let root ← Text.Symbol.string? i.root
  let application ← Text.Symbol.string? i.application
  return ⟨i.model, i.selection, i.schema, i.group, root, application⟩

end Inputs

namespace Request

def inputs (r : Request) : Inputs :=
  ⟨r.model, r.selection, r.schema, r.group, r.root, r.application⟩

/-- A request from values that were given separately. -/
def ofValues (model group root application : Value) (selection : Selection) (schema : Schema) : Checked Request := do
  match (← Inputs.ofValues model group root application selection schema).request? with
  | some r => return r
  | none => throw [⟨[], .undecodable⟩]

def fields (r : Request) : List Field :=
  r.schema.fields

def isChosen (r : Request) (c : Choice) : Bool :=
  r.selection.isOn c

def softDelete (r : Request) : Bool :=
  r.isChosen .softDelete

/-- Whether the choice of the given name is made. -/
def isSelected (r : Request) (name : String) : Except UnknownChoice Bool :=
  match Choice.ofName? name with
  | some c => .ok (r.isChosen c)
  | none => .error ⟨name⟩

/-! ### Names -/

def snake (r : Request) : String :=
  Naming.snake r.model

def plural (r : Request) : String :=
  Naming.plural r.snake

/-- The name of the table. -/
def table (r : Request) : String :=
  r.plural

/-- What the addresses of all endpoints begin with. -/
def route (r : Request) : String :=
  "/" ++ Naming.kebab r.plural

/-- The name of the class with something before and after the name of the model. -/
def className (r : Request) (before after : String) : String :=
  before ++ r.model ++ after

/-- The application's namespace as a dotted module path. -/
def namespaceModule (r : Request) : String :=
  Naming.modulePath r.application

/-- The dotted path of a module of the application. -/
def modulePath (r : Request) (parts : List String) : String :=
  ".".intercalate ((r.namespaceModule :: parts).filter (· ≠ ""))

/-- The path of a file of the run. -/
def outputPath (r : Request) (parts : List String) : Path :=
  (Path.ofText r.root).joinAll parts

def describe (r : Request) : String :=
  "<ApiGenerationCommandInputs " ++ r.model ++ " group=" ++ r.group ++ " fields=" ++
    toString r.fields.length ++ ">"

end Request

end CrudScaffold
