import CrudScaffold.Artifact.Kind
import CrudScaffold.Run.Report
import CrudScaffold.Run.Workspace

/-!
# Generators

A generator writes files for a request. Every kind of file has one: most render a text and write it, the one for
migrations does so under a stamp that it holds for the time of a run, and the one for routes adds to a file that all
resources share.
-/

namespace CrudScaffold

abbrev Generator := Request → Task (List ProducedFile)

namespace ArtifactKind

def failure (k : ArtifactKind) (action : String) (p : Path) (e : FileError) : Problem :=
  .generation k.name ("cannot " ++ action ++ " " ++ p.text ++ ": " ++ e.message)

/-- Writes a file of this kind. -/
def write (k : ArtifactKind) (p : Path) (text : String) : Task Nat :=
  Task.orProblem (k.failure "write" p) (Task.writeText p text true)

/-- The stamp that a run is named by. Only the migration looks at the clock for it. -/
def stamp (k : ArtifactKind) : Task String :=
  if k = .migration then Moment.stamp <$> Task.now else pure ""

def noteRendered (k : ArtifactKind) (r : Request) (text : String) : Task Unit :=
  if k = .controller then
    Task.note .debug "crudgen.generators.controller"
      ("Rendered controller for '" ++ r.model ++ "': " ++ toString (text.toList.count '\n' + 1) ++ " lines.")
  else pure ()

/-- Writes the text that was rendered for a request, and reports the file. -/
def publish (k : ArtifactKind) (path : Path) (text : String) : Generator := fun r => do
  k.noteRendered r text
  let size ← k.write path text
  Task.note .info "crudgen.generators"
    ("Generated " ++ k.name ++ ": " ++ path.text ++ " (" ++ toString size ++ " bytes).")
  return [⟨k.choice, path.text, size⟩]

end ArtifactKind

/-! ### Migrations -/

/-- A generator of migrations at work. -/
structure MigrationGenerator where
  /-- The stamp of the run that is under way. -/
  held : Option String
  workspace : Workspace

namespace MigrationGenerator

/-- What a generator of migrations does. What it holds stays when it fails, like everything else that was done. -/
abbrev Step := ExceptT Failure (StateM MigrationGenerator)

variable {α : Type}

/-- Does something in the workspace. -/
def inWorkspace (task : Task α) : Step α :=
  ExceptT.mk fun g =>
    let (result, workspace) := task.run.run g.workspace
    (result, { g with workspace := workspace })

def hold (held : Option String) : Step Unit :=
  modifyThe MigrationGenerator fun g => { g with held := held }

/-- The stamp of this moment. -/
def readStamp : Step String :=
  inWorkspace ArtifactKind.migration.stamp

/-- The stamp of the run, or the one of this moment when no run is under way. -/
def currentStamp : Step String := do
  match (← getThe MigrationGenerator).held with
  | some stamp => if stamp = "" then readStamp else return stamp
  | none => readStamp

def outputPath (r : Request) : Step Path := do
  return ArtifactKind.migration.outputPath (← currentStamp) r

def render (r : Request) : Step String := do
  return ArtifactKind.migration.render (← currentStamp) r

/-- Renders a migration and writes it, under one stamp. The stamp is given up whether this succeeds or fails. -/
def run (r : Request) : Step (List ProducedFile) := do
  hold (some (← readStamp))
  try
    let path ← outputPath r
    let text ← render r
    inWorkspace (ArtifactKind.migration.publish path text r)
  finally
    hold none

/-- What a generator does that was made for it. -/
def fresh (step : Step α) : Task α :=
  ExceptT.mk fun w =>
    let (result, g) := step.run.run ⟨none, w⟩
    (result, g.workspace)

end MigrationGenerator

/-! ### Generators -/

namespace ArtifactKind

/-- Renders the file of this kind and writes it. -/
def produce (k : ArtifactKind) : Generator := fun r =>
  if k = .migration then MigrationGenerator.fresh (MigrationGenerator.run r)
  else k.publish (k.outputPath "" r) (k.render "" r) r

/-- The text of a file of this kind, which is empty as long as there is no file. -/
def readExisting (k : ArtifactKind) (p : Path) : Task String :=
  Task.orProblem (k.failure "read" p) do
    if ← Task.onFiles (Storage.exists? p) then Task.readText p else pure ""

/-- Registers the controller in the routes file, unless the file has it already. -/
def register : Generator := fun r => do
  let path := routes.outputPath "" r
  let existing ← routes.readExisting path
  match r.registered? existing with
  | none =>
    Task.note .info "crudgen.generators.routes"
      ("Routes for " ++ r.model ++ " already registered in " ++ path.text ++ ".")
    return [⟨.routes, path.text, existing.utf8ByteSize⟩]
  | some content =>
    let size ← routes.write path content
    Task.note .info "crudgen.generators.routes"
      ("Registered " ++ r.model ++ " routes in " ++ path.text ++ ".")
    return [⟨.routes, path.text, size⟩]

/-- The generator for files of a kind. -/
def generator (k : ArtifactKind) : Generator :=
  if k = .routes then register else k.produce

end ArtifactKind

end CrudScaffold
