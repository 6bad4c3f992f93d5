import CrudScaffold.Run.Workspace
import CrudScaffold.Settings
import CrudScaffold.Yaml.Document

/-!
# Loading settings

Settings are read from a file that is named, or else from the file of the usual name in a directory, or else
nothing is settled. A file that names further groups keeps the built-in default group.
-/

namespace CrudScaffold.Settings

/-- The usual name of the file. -/
def fileName : String :=
  "crudgen.yaml"

/-- How deep settings are nested at most, with room to spare. -/
def maxDepth : Nat := 6

/-- What makes a value of the text of a file. The format's own rules are told from other reasons to fail. -/
abbrev Reader := String → Except Yaml.Error Value

/-- The reader of the usual format. -/
def yaml : Reader := fun text =>
  (Yaml.Document.read text).map fun d => d.value maxDepth

private def problem (text : String) : Failure :=
  .problem (.configuration text none)

/-! ### Completing groups -/

def groupsKey : String := "groups"

/-- Groups under the names of their keys; a group without settings settles nothing. -/
def namedGroups (entries : List (Scalar × Value)) : List (Scalar × Value) :=
  entries.foldl (fun groups e =>
    Value.putKey (.ofSymbols e.1.name) (if e.2.isTruthy then e.2 else .mapping []) groups) []

/-- The built-in default group as a document has it. -/
def fallbackGroupValue : Value :=
  .mapping [(.text "plugin_path", .text fallbackRoot), (.text "namespace", .text fallbackApplication)]

def isFallbackName : Value → Bool
  | .scalar (.text s) => s == fallbackGroup
  | _ => false

/-- The groups of a document, with the built-in default group if runs that name no group need it. -/
def completeGroups (entries : List (Scalar × Value)) (groups : List (Scalar × Value)) : List (Scalar × Value) :=
  let named := namedGroups groups
  let usesFallback := (Value.find? "default_path_group" entries).all isFallbackName
  if usesFallback && (Value.find? fallbackGroup named).isNone then
    Value.putKey (.text fallbackGroup) fallbackGroupValue named
  else named

/-- An integer that has too many digits to be the name of a group. -/
def tooLong? (groups : List (Scalar × Value)) : Bool :=
  groups.any fun e =>
    match e.1 with
    | .int n => Number.tenTo Yaml.maxDigits ≤ n.natAbs
    | _ => false

/-- A document with its groups completed. -/
def complete (entries : List (Scalar × Value)) : Except Failure (List (Scalar × Value)) :=
  match Value.find? groupsKey entries with
  | none | some (.scalar .null) => .ok entries
  | some (.mapping groups) =>
    if tooLong? groups then .error (.document .tooLong)
    else .ok (Value.putKey (.text groupsKey) (.mapping (completeGroups entries groups)) entries)
  | some _ => .error (problem "'groups' must be a mapping of group name to settings.")

/-- The settings of a document; `path` is the path of its file in messages. -/
def ofDocument (path : String) (document : Value) : Except Failure Settings := do
  let entries ←
    match document with
    | .scalar .null => pure []
    | .mapping entries => pure entries
    | other =>
      throw (problem ("Expected a YAML mapping at top level of " ++ path ++ ", got " ++ other.typeName ++ "."))
  match check (.mapping (← complete entries)) with
  | .ok s => return s
  | .error fs => throw (.settings path fs)

/-- The settings in the text of a file. -/
def ofText (reader : Reader) (path text : String) : Except Failure Settings :=
  match reader text with
  | .ok document => ofDocument path document
  | .error .malformed => .error (problem ("Invalid YAML in " ++ path))
  | .error e => .error (.document e)

/-! ### Files -/

/-- Loads the settings from a file that is there. -/
def read (reader : Reader) (p : Path) : Task Settings := do
  let text ← Task.orProblem
    (fun e => .configuration ("Cannot read config file " ++ p.text ++ ": " ++ e.message) none) (Task.readText p)
  let settings ← ofText reader p.text text
  Task.note .info "crudgen.config"
    ("Loaded config " ++ p.text ++ ": " ++ toString settings.groups.length ++ " group(s), " ++
      toString settings.generates.length ++ " default option(s).")
  return settings

/-- The directory that a run starts in. -/
def currentDirectory : Task Path := do
  return ⟨.root, (← getThe Workspace).tree.home⟩

/-- Loads the settings from a file, or else from the usual file in a directory. -/
def loadWith (reader : Reader) (file directory : Option Path) : Task Settings := do
  match file with
  | some p =>
    if ← Task.onFiles (Storage.isFile p) then read reader p
    else throw (problem ("Config file not found: " ++ p.text))
  | none =>
    let directory ← match directory with
      | some d => pure d
      | none => currentDirectory
    let p := directory.join (.ofText fileName)
    if ← Task.onFiles (Storage.isFile p) then read reader p
    else
      Task.note .info "crudgen.config" ("No " ++ fileName ++ " found; using built-in defaults.")
      return fallback

/-- Loads the settings from a file of the usual format. -/
def load (file directory : Option Path) : Task Settings :=
  loadWith yaml file directory

end CrudScaffold.Settings
