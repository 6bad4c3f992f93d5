import CrudScaffold.Run.Registry
import CrudScaffold.Settings

/-!
# The command

One run of the program: the arguments are checked and become a request, the chosen generators run in order, and
two tables are printed. The first check that fails ends the run with one line on the error output; nothing is
written then.
-/

namespace CrudScaffold

/-- A text that may be given or left out. -/
inductive Given
  | absent
  /-- Given, but without a text. -/
  | empty
  | text (s : Text.Symbols)
  deriving DecidableEq, Repr

namespace Given

def text? : Given → Option Text.Symbols
  | text s => some s
  | absent | empty => none

/-- What is given, or else the text in its place. -/
def value (fallback : Text.Symbols) : Given → Value
  | absent => .symbols fallback
  | empty => .list []
  | text s => .symbols s

end Given

/-- What the user typed. The name of a model passes its check in characters only; the schema is taken as a text in
characters, too. -/
structure Arguments where
  model : String
  schema : Option String
  /-- Options by name, with whether they were given. -/
  flags : List (String × Bool)
  group : Option Text.Symbols
  /-- A directory in place of the group's. -/
  root : Given
  /-- A namespace in place of the group's. -/
  application : Given

/-- What a run depends on besides its arguments. -/
structure Command where
  settings : Settings
  registry : Registry
  /-- The words that no model may be named by. -/
  reserved : List String

namespace Command

/-! ### From arguments to a request -/

/-- The group that was named, or else the default one. -/
def groupName (c : Command) (a : Arguments) : Text.Symbols :=
  match a.group with
  | some name => if name = [] then c.settings.defaultName else name
  | none => c.settings.defaultName

/-- The group to write files for. -/
def group (c : Command) (a : Arguments) : Except Problem Text.Symbols :=
  let name := c.groupName a
  if c.settings.hasGroup name then .ok name else .error (.unknownGroup name)

def root (c : Command) (a : Arguments) (group : Text.Symbols) : Value :=
  a.root.value (c.settings.rootOf (some group))

def application (c : Command) (a : Arguments) (group : Text.Symbols) : Value :=
  a.application.value (c.settings.applicationOf (some group))

def defaults (c : Command) : List String :=
  c.settings.generates.map Choice.name

def selection (c : Command) (a : Arguments) : Except Failure Selection :=
  match Selection.build a.flags c.defaults with
  | .ok s => .ok s
  | .error (.unknownFlag key) => .error (.unknownFlag key)
  | .error (.faults fs) => .error (.faults fs)

/-- What the checks make of arguments. Names are checked first, then the group, the schema and the flags, and last
the directory and the namespace. -/
def inputs (c : Command) (a : Arguments) : Except Failure Inputs := do
  let model ← (modelName c.reserved a.model).mapError .problem
  let group ← (c.group a).mapError .problem
  let schema ← (Schema.parse a.schema).mapError fun e => .problem e.problem
  let selection ← c.selection a
  (Inputs.ofValues (.text model) (.symbols group) (c.root a group) (c.application a group) selection schema).mapError
    .faults

/-- The request that arguments make. A run whose directory or namespace has surrogates is not followed any further. -/
def request (c : Command) (a : Arguments) : Except Failure Request := do
  match (← c.inputs a).request? with
  | some r => return r
  | none => throw .undecodable

/-! ### Notes on the checks -/

private def fallbackNote (group : Text.Symbols) (setting : String) : Note :=
  ⟨.debug, "crudgen.config",
    "Group '" ++ group ++ "' has no " ++ setting ++ "; falling back to the default group."⟩

private def groupNotes (c : Command) (a : Arguments) (group : Text.Symbols) : List Note :=
  (if a.root = .absent && c.settings.fallsBack (·.root) group then [fallbackNote group "plugin_path"] else []) ++
    if a.application = .absent && c.settings.fallsBack (·.application) group then [fallbackNote group "namespace"]
    else []

private def schemaNotes (raw : Option String) (s : Schema) : List Note :=
  if (raw.getD "").toList.all Text.isBlank then []
  else
    [⟨.debug, "crudgen.schema", "Parsed schema string into " ++ toString s.fields.length ++ " field(s): " ++
      ", ".intercalate s.names⟩]

private def flagNotes (c : Command) (a : Arguments) : List Note :=
  match Flags.expand a.flags c.defaults with
  | .error _ => []
  | .ok flags =>
    if flags.isSet Choice.all.name then
      let on := flags.filter fun e => e.2 && e.1 != Choice.all.name
      [⟨.debug, "crudgen.options", "Expanded --all into: " ++ ", ".intercalate (on.map Prod.fst)⟩]
    else []

private def selectionNote (s : Selection) : Note :=
  ⟨.info, "crudgen.options", "Selected options: " ++ ", ".intercalate (s.chosen.map Choice.key)⟩

private def inputsNote (i : Inputs) : Note :=
  ⟨.info, "crudgen.command", "Generating " ++ i.model ++ " (group=" ++ i.group ++ ", plugin=" ++ i.root ++
    ", namespace=" ++ i.application ++ ")."⟩

/-- What is said while arguments are checked, up to the first check that fails. -/
def notes (c : Command) (a : Arguments) : List Note :=
  if isReserved c.reserved a.model then
    [⟨.debug, "crudgen.validators", "Rejected reserved model name '" ++ a.model ++ "'."⟩]
  else if !isModelName a.model then []
  else
    match c.group a with
    | .error _ => []
    | .ok group =>
      c.groupNotes a group ++
        match Schema.parse a.schema with
        | .error _ => []
        | .ok s =>
          schemaNotes a.schema s ++ c.flagNotes a ++
            match c.selection a, c.inputs a with
            | .error _, _ => []
            | .ok s, .error _ => [selectionNote s]
            | .ok s, .ok i => [selectionNote s, inputsNote i]

/-! ### Running generators -/

/-- The kinds that a request asks for, in the order of the registry. -/
def chosenKinds (c : Command) (r : Request) : List ArtifactKind :=
  c.registry.kinds.filter fun k => r.isChosen k.choice

/-- Runs a generator, and takes the time it needs. -/
def timed (kind : ArtifactKind) (task : Task (List ProducedFile)) : Task (List ProducedFile) := do
  let start ← Task.elapsed
  let result ← Task.attempt task
  let timing : Timing := ⟨kind.name, (← Task.elapsed) - start⟩
  Task.note .debug "crudgen.utils" ("Timer [" ++ timing.label ++ "]: " ++ timing.text ++ " seconds")
  let files ← result
  Task.note .debug "crudgen.command" (timing.label ++ " finished in " ++ timing.text ++ "s.")
  return files

/-- Runs the chosen generators one after the other. -/
def runAll (r : Request) : Entries ArtifactKind Generator → Task Report
  | [] => return []
  | (kind, generator) :: rest => do
    let files ← timed kind (generator r)
    return files ++ (← runAll r rest)

def dispatch (c : Command) (r : Request) : Task Report := do
  let report ← runAll r (c.registry.generators.filter fun e => r.isChosen e.1.choice)
  Task.note .info "crudgen.command"
    ("Generated " ++ toString report.length ++ " file(s), " ++ toString report.totalSize ++ " bytes.")
  return report

/-! ### The whole run -/

/-- The titles and texts of the tables that are printed. -/
def tables (r : Request) (report : Report) : List (String × Table) :=
  [("Here is your schema : ", r.schema.table), ("Generated Files : ", report.table)]

def printReport (r : Request) (report : Report) : Task Unit :=
  (tables r report).forM fun (title, table) => do
    Task.say (.line title)
    Task.say (.line table.text)

/-- Runs the command, and returns the status that the process ends with. -/
def handle (c : Command) (a : Arguments) : Task Int := do
  (c.notes a).forM fun n => Task.say (.note n)
  match c.request a with
  | .ok r =>
    let report ← c.dispatch r
    printReport r report
    return Problem.successStatus
  | .error (.problem p) =>
    if p.isInput then
      Task.note .debug "crudgen.command" ("Validation failed: " ++ p.message)
      Task.say (.complaint p.message)
      return p.status
    else throw (.problem p)
  | .error e => throw e

end Command

end CrudScaffold
