import CrudScaffold.Artifact.Module

/-!
# The resource

The classes that describe what a client receives: one row, and a page of rows with their total number.
-/

namespace CrudScaffold

open Source (momentHint Expr Imports Member ClassBody)

namespace Request

def resourceName (r : Request) : String :=
  r.className "" "Resource"

def collectionName (r : Request) : String :=
  r.className "" "Collection"

def resourceClass (r : Request) : ClassBody where
  name := r.resourceName
  base := some "BaseModel"
  groups :=
    [[.value "model_config" (.call "ConfigDict" (.ofKeywords [("from_attributes", .true)]))],
      [.typed "id" (.path "int")] ++ r.fields.map (fun f => .typed f.name f.hint) ++
        [.typed "created_at" momentHint, .typed "updated_at" momentHint] ++
        if r.softDelete then [.field "deleted_at" (.optional momentHint) .none] else []]

def collectionClass (r : Request) : ClassBody where
  name := r.collectionName
  base := some "BaseModel"
  groups :=
    [[.field "items" (.of "List" (.path r.resourceName))
        (.call "Field" (.ofKeywords [("default_factory", .path "list")])),
      .field "total" (.path "int")
        (.call "Field" (.ofKeywords
          [("default", .literal "0"), ("description", .quoted "Total number of records.")]))]]

def resourceImports (r : Request) : Imports :=
  let imports := ((Source.typeImports false r.fields).set Source.timeModule []).add "typing" "List"
  let imports := if r.softDelete then imports.add "typing" "Optional" else imports
  imports.set "pydantic" ["BaseModel", "ConfigDict", "Field"]

end Request

namespace Artifact

def resource (r : Request) : Artifact where
  place := r.resourcePlace
  source :=
    { summary := "API resource for " ++ r.model ++ "."
      imports := Source.importSections r r.resourceImports
      assignments := []
      definitions := [.classBody r.resourceClass, .classBody r.collectionClass] }

end Artifact

end CrudScaffold
