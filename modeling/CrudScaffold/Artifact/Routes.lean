import CrudScaffold.Artifact.Module

/-!
# The routes

One file lists the controllers of all resources. A controller is registered by a block of two lines, which is added
to the end of the file unless the file has it already.
-/

namespace CrudScaffold

open Source (Import)

namespace Request

/-- The name that the controller's router is imported under. -/
def routerAlias (r : Request) : String :=
  r.snake ++ "_router"

/-- The line that registers the controller. -/
def includeLine (r : Request) : String :=
  "api_router.include_router(" ++ r.routerAlias ++ ")"

def routerImport (r : Request) : Import :=
  ⟨r.modulePath r.controllerPlace, ["router as " ++ r.routerAlias]⟩

/-- The two lines that import the controller and register it. -/
def registration (r : Request) : List String :=
  [r.routerImport.line ++ "  # noqa: E402", r.includeLine]

end Request

namespace Artifact

/-- The file before any controller is registered. -/
def routes : Artifact where
  place := Request.routesPlace
  source :=
    { summary := "API route registry."
      imports := [[⟨"fastapi", ["APIRouter"]⟩]]
      assignments := [("api_router", .call "APIRouter" .nil)]
      definitions := [] }

end Artifact

/-- The text of the routes file after the controller is registered, given its text before; `none` if nothing has
to be added. -/
def Request.registered? (r : Request) (existing : String) : Option String :=
  if Text.occursIn r.includeLine existing then none
  else
    let content := if existing = "" then Artifact.routes.source.render else existing
    let content := if Text.endsWith "\n" content then content else content ++ "\n"
    some (content ++ "\n" ++ "\n".intercalate r.registration ++ "\n")

end CrudScaffold
