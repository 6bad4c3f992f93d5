import CrudScaffold.CommandLine.Invocation
import CrudScaffold.Settings.Load

/-!
# Runs from the command line

A command line is read, the settings are loaded, and the command is run. Problems are reported on the error output
and set the status that the process ends with.
-/

namespace CrudScaffold.CommandLine

/-- How a run ended. -/
structure Outcome where
  /-- The status that the process ends with, or what has ended the run before there was one. -/
  ending : Except Failure Int
  /-- The least important notes that are shown. -/
  level : Option Level
  output : List Output

def versionText : String :=
  "crudgen v1.0.0"

/-- The status of a run whose command line is refused. -/
def refusedStatus : Int := 2

private def switchLine (s : Switch) : String :=
  "  " ++ ", ".intercalate (s.spellings.map fun spelling => if s.takesText then spelling ++ " TEXT" else spelling)

def helpText : String :=
  "\n".intercalate <|
    ["crudgen MODEL [SCHEMA] [switches]", "",
      "Writes the files of a resource, given the name of its model and its fields:",
      "  name:type[:modifier[(argument)]...][,name:type...]", ""] ++
    Switch.all.map switchLine

def Stop.outcome : Stop → Outcome
  | .help => ⟨.ok Problem.successStatus, none, [.line helpText]⟩
  | .version => ⟨.ok Problem.successStatus, none, [.line versionText]⟩
  | .refused r => ⟨.ok refusedStatus, none, [.complaint ("crudgen: error: " ++ r.message)]⟩

namespace Invocation

/-- The level that notes are shown from. -/
def level (i : Invocation) : Option Level :=
  if i.quiet then none
  else if i.verbosity ≥ 2 then some .debug
  else if i.verbosity = 1 then some .info
  else some .error

/-- The file that the settings are read from, if one is named. -/
def settingsPath (i : Invocation) : Option Path :=
  (i.settings.filter (· ≠ "")).map Path.ofText

/-- The work of an invocation. -/
def work (i : Invocation) : Task Int := do
  let settings ← Settings.load i.settingsPath none
  Task.say (.note Registry.standard.orderNote)
  Command.handle ⟨settings, .standard, reservedWords⟩ i.arguments

/-- A task whose problems are noted and become its status. -/
def reported (task : Task Int) : Task Int :=
  tryCatch task fun failure =>
    match failure.problem? with
    | some p => do
      Task.note .error "crudgen" p.message
      return p.status
    | none => throw failure

end Invocation

/-- Runs a command line in a workspace. -/
def run (words : List String) (w : Workspace) : Outcome × Workspace :=
  match Invocation.ofTexts words with
  | .error stop => (stop.outcome, w)
  | .ok i =>
    let (ending, w) := (Invocation.reported i.work).run.run { w with output := [] }
    (⟨ending, i.level, w.output⟩, w)

end CrudScaffold.CommandLine
