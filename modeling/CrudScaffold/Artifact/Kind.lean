import CrudScaffold.Artifact.Controller
import CrudScaffold.Artifact.FeatureTest
import CrudScaffold.Artifact.Filter
import CrudScaffold.Artifact.Migration
import CrudScaffold.Artifact.Model
import CrudScaffold.Artifact.Routes

/-!
# The file of each kind

What is written for every kind of file, and where.
-/

namespace CrudScaffold

namespace ArtifactKind

/-- The file of a kind. Only the migration depends on the stamp. -/
def artifact (stamp : String) : ArtifactKind → Request → Artifact
  | model => .model
  | controller => .controller
  | resource => .resource
  | factory => .factory
  | filter => .filter
  | test => .featureTest
  | migration => .migration stamp
  | seeder => .seeder
  | createRequest => .body .create
  | updateRequest => .body .update
  | routes => fun _ => .routes

def outputPath (k : ArtifactKind) (stamp : String) (r : Request) : Path :=
  r.outputPath (Artifact.segments (k.artifact stamp r).place)

/-- The text of the file of a kind. -/
def render (k : ArtifactKind) (stamp : String) (r : Request) : String :=
  (k.artifact stamp r).source.render

/-- How the generator of a kind presents itself. -/
def describe (k : ArtifactKind) : String :=
  let title := match k with
    | test => "FeatureTest"
    | _ => Naming.pascal k.name
  "<" ++ title ++ "Generator " ++ k.name ++ ">"

end ArtifactKind

end CrudScaffold
