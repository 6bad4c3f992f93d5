import CrudScaffold.Artifact.Column
import CrudScaffold.Artifact.Module

/-!
# Request bodies

The classes that describe what a client sends to create or to update a row. All fields of an update are optional.
-/

namespace CrudScaffold

open Source (Expr Imports Member ClassBody)

/-- The two actions that receive a body. -/
inductive BodyAction
  | create
  | update
  deriving DecidableEq, Repr

namespace BodyAction

def word : BodyAction → String
  | create => "create"
  | update => "update"

def title : BodyAction → String
  | create => "Create"
  | update => "Update"

def summary (model : String) : BodyAction → String
  | create => "Request body for creating a " ++ model ++ "."
  | update => "Request body for updating a " ++ model ++ ". All fields optional."

end BodyAction

namespace Field

/-- The rules for a field's value: its default, its limits and its description. -/
def rules (f : Field) (default : Option String) : Expr :=
  let limits : List (String × Expr) :=
    (if f.type = .string then [("max_length", .literal "255")] else []) ++
      if f.type = .foreignId then [("gt", .literal "0")]
      else if f.has .unsigned then [("ge", .literal "0")]
      else []
  .call "Field" (.ofKeywords ((default.toList.map fun code => ("default", Expr.literal code)) ++ limits ++
    [("description", .quoted (Naming.title f.name))]))

/-- The default when a row is created: the field's own, or nothing when it may be null. -/
def createDefault? (f : Field) : Option String :=
  match f.defaultLiteral? with
  | some code => some code
  | none => if f.isNullable then some "None" else none

/-- The field in the body of an action. -/
def bodyMember (f : Field) : BodyAction → Member
  | .create => .field f.name f.hint (f.rules f.createDefault?)
  | .update => .field f.name (.optional (.path f.type.valueType)) (f.rules (some "None"))

end Field

namespace Request

def bodyName (r : Request) (action : BodyAction) : String :=
  r.className action.title "Request"

def bodyClass (r : Request) (action : BodyAction) : ClassBody where
  name := r.bodyName action
  base := some "BaseModel"
  groups :=
    [.value "model_config" (.call "ConfigDict" (.ofKeywords
      [("str_strip_whitespace", .true), ("extra", .quoted "forbid")]))] ::
      if r.fields.isEmpty then [] else [r.fields.map (·.bodyMember action)]

def bodyImports (r : Request) (action : BodyAction) : Imports :=
  (Source.typeImports (action == .update) r.fields).set "pydantic" ["BaseModel", "ConfigDict", "Field"]

end Request

namespace Artifact

def body (action : BodyAction) (r : Request) : Artifact where
  place := r.bodyPlace action.word
  source :=
    { summary := action.summary r.model
      imports := Source.importSections r (r.bodyImports action)
      assignments := []
      definitions := [.classBody (r.bodyClass action)] }

end Artifact

end CrudScaffold
