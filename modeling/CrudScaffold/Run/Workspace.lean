import CrudScaffold.Problem
import CrudScaffold.Fault
import CrudScaffold.Run.Output
import CrudScaffold.Storage.Operation
import CrudScaffold.Text.LineBreak
import CrudScaffold.Yaml.Error

/-!
# Workspaces

What a run works in: a file tree, a clock and a stopwatch, and what has been said so far. A task changes the
workspace and succeeds or fails; what it did before it failed stays done.
-/

namespace CrudScaffold

/-- What an instrument shows each time it is looked at. The last reading is shown from then on. -/
structure Readings (α : Type) where
  next : α
  later : List α

def Readings.rest {α : Type} (r : Readings α) : Readings α :=
  match r.later with
  | [] => r
  | a :: later => ⟨a, later⟩

structure Workspace where
  tree : FileTree
  clock : Readings Moment
  /-- Seconds since the run began. -/
  stopwatch : Readings Float
  output : List Output

/-- What a task fails with. -/
inductive Failure
  | problem (p : Problem)
  /-- A configuration with faults; the path of its file. -/
  | settings (path : String) (fs : List Fault)
  | file (e : FileError)
  /-- A file that is not the encoding of a text, or a text with surrogates, which has no encoding. -/
  | undecodable
  | document (e : Yaml.Error)
  | unknownFlag (key : String)
  | faults (fs : List Fault)
  /-- Anything else that a generator fails with. -/
  | breakdown (text : String)

/-- The problem that is reported for a failure, if there is one. -/
def Failure.problem? : Failure → Option Problem
  | problem p => some p
  | settings path _ => some (.configuration ("Invalid configuration in " ++ path) none)
  | _ => none

abbrev Task := ExceptT Failure (StateM Workspace)

namespace Task

/-- The outcome of a task, as a value. -/
def attempt {α : Type} (task : Task α) : Task (Except Failure α) :=
  ExceptT.lift task.run

def say (o : Output) : Task Unit :=
  modifyThe Workspace fun w => { w with output := w.output ++ [o] }

def note (level : Level) (origin text : String) : Task Unit :=
  say (.note ⟨level, origin, text⟩)

/-- Looks at the clock. -/
def now : Task Moment :=
  modifyGetThe Workspace fun w => (w.clock.next, { w with clock := w.clock.rest })

/-- Looks at the stopwatch. -/
def elapsed : Task Float :=
  modifyGetThe Workspace fun w => (w.stopwatch.next, { w with stopwatch := w.stopwatch.rest })

/-- What an operation on files came to. -/
def settle {α : Type} : Except FileError α → Task α
  | .ok a => return a
  | .error e => throw (.file e)

/-- Does something with the files of the workspace. -/
def onFiles {α : Type} (operation : Storage α) : Task α := do
  let (result, tree) := operation.run (← getThe Workspace).tree
  modifyThe Workspace fun w => { w with tree := tree }
  settle result

/-- A task in which refusals of the system become a problem. -/
def orProblem {α : Type} (describe : FileError → Problem) (task : Task α) : Task α :=
  tryCatch task fun
    | .file e => throw (if e.code?.isSome then .problem (describe e) else .file e)
    | e => throw e

/-! ### Texts in files -/

/-- Writes a text, and returns the number of bytes. The directory is made when it is missing; `whole` asks for a
write that never leaves the file half written. -/
def writeText (p : Path) (text : String) (whole : Bool) : Task Nat := do
  onFiles (Storage.ensureDirectory p.parent)
  note .debug "crudgen.utils" ("Ensured directory exists: " ++ p.parent.text)
  let content := text.toUTF8
  onFiles (if whole then Storage.replace p content else Storage.overwrite p content)
  note .debug "crudgen.utils" ("Wrote " ++ toString content.size ++ " bytes to " ++ p.text)
  return content.size

/-- Reads a text; all line breaks are read as line feeds. -/
def readText (p : Path) : Task String := do
  match String.fromUTF8? (← onFiles (Storage.read p)) with
  | some text => return .ofList (Text.withLineFeeds text.toList)
  | none => throw .undecodable

end Task

end CrudScaffold
