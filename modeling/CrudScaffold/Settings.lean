import CrudScaffold.Choice
import CrudScaffold.Entries
import CrudScaffold.Fault

/-!
# Settings

What a project settles once for all runs: the options that `all` stands for, and named groups that say where files
go and which namespace they are imported from. A group that leaves something open takes it from the default group.
-/

namespace CrudScaffold

structure Group where
  /-- The directory that files are written below. -/
  root : Option Text.Symbols
  /-- The namespace that modules are imported from. -/
  application : Option Text.Symbols
  deriving DecidableEq, Repr

structure Settings where
  /-- The options that `all` switches on. -/
  generates : List Choice
  /-- The group of runs that name none. -/
  defaultGroup : String
  groups : Entries Text.Symbols Group
  deriving DecidableEq, Repr

namespace Settings

def fallbackGroup : String := "default"
def fallbackRoot : String := "."
def fallbackApplication : String := "app"

def fallbackGenerates : List Choice :=
  [.migration, .factory, .seeder, .filter, .request, .resource, .controller, .test, .routes, .softDelete]

/-- The settings of a project that settles nothing. -/
def fallback : Settings :=
  ⟨fallbackGenerates, fallbackGroup, [(fallbackGroup, ⟨some fallbackRoot, some fallbackApplication⟩)]⟩

/-! ### Looking up groups -/

/-- The default group's name among the names of groups. -/
def defaultName (s : Settings) : Text.Symbols :=
  s.defaultGroup

/-- Whether files may be written for a group of this name. -/
def hasGroup (s : Settings) (name : Text.Symbols) : Bool :=
  name ≠ [] && (s.groups.keys.contains name || name == s.defaultName)

/-- What a group says about something: its own word, or else that of the default group. -/
def wordOf (s : Settings) (read : Group → Option Text.Symbols) (group : Option Text.Symbols) : Option Text.Symbols :=
  match (group.bind s.groups.get?).bind read with
  | some word => some word
  | none => (s.groups.get? s.defaultName).bind read

def rootOf (s : Settings) (group : Option Text.Symbols) : Text.Symbols :=
  (s.wordOf (·.root) group).getD fallbackRoot

def applicationOf (s : Settings) (group : Option Text.Symbols) : Text.Symbols :=
  (s.wordOf (·.application) group).getD fallbackApplication

/-- Whether the default group is asked for what a group says about something. -/
def fallsBack (s : Settings) (read : Group → Option Text.Symbols) (group : Text.Symbols) : Bool :=
  ((s.groups.get? group).bind read).isNone && (s.groups.get? s.defaultName).isSome && group != s.defaultName

/-! ### From loose data -/

/-- The options that `all` can stand for. -/
def generated : List Choice :=
  Choice.options.filter (· ≠ .all)

def generated? (name : String) : Option Choice :=
  generated.find? fun c => c.name == name

def onlyKeys (known : List String) (entries : List (Scalar × Value)) : Checked Unit :=
  (Checked.all (fun (key, _) =>
    match key with
    | .text s => if known.contains s then .ok () else .error [Fault.mk [.key key] .unknownKey]
    | _ => .error [Fault.mk [.key key] .keyNotText]) entries).map fun _ => ()

def isBroken : Scalar → Bool
  | .brokenText _ => true
  | _ => false

/-- Checks a mapping that has only the given keys. A key with surrogates hides all other faults. -/
def checkFields {α : Type} (known : List String) (check : List (Scalar × Value) → Checked α)
    (entries : List (Scalar × Value)) : Checked α :=
  if entries.any fun e => isBroken e.1 then .error [⟨[], .undecodable⟩]
  else (Checked.both (check entries) (onlyKeys known entries)).map Prod.fst

def checkGenerates (v : Value) : Checked (List Choice) :=
  let choice? (name : Text.Symbols) : Option Choice :=
    (Text.Symbol.string? name).bind generated?
  let checkItems (items : List Value) : Checked (List Choice) := do
    let names ← Checked.all (fun (item, i) => item.checkSymbols.mapError fun kind => [Fault.mk [.index i] kind])
      items.zipIdx
    let unknown := names.filter fun name => (choice? name).isNone
    if unknown.isEmpty then .ok (names.filterMap choice?)
    else .error [⟨[], .rejected ("Unknown option(s) in default_generates: " ++ Text.Symbol.quotedList unknown ++
      ". Allowed: " ++ ", ".intercalate (generated.map Choice.name))⟩]
  match v with
  | .list items => checkItems items
  | .set members => checkItems (members.map .scalar)
  | _ => .error [⟨[], .notSequence⟩]

def checkWord (name : String) (entries : List (Scalar × Value)) : Checked (Option Text.Symbols) :=
  match Value.find? name entries with
  | none => .ok none
  | some v =>
    if v.isNull then .ok none
    else (v.checkSymbols.map some).mapError fun kind => [.field name kind]

def checkGroup : Value → Checked Group
  | .mapping entries =>
    checkFields ["plugin_path", "namespace"] (fun entries =>
      (Checked.both (checkWord "plugin_path" entries) (checkWord "namespace" entries)).map fun p => ⟨p.1, p.2⟩) entries
  | _ => .error [⟨[], .notSettings⟩]

def checkGroups : Value → Checked (Entries Text.Symbols Group)
  | .mapping entries =>
    (Checked.all (fun (key, v) =>
      match key.symbols? with
      | some name => (Checked.under (.key key) (checkGroup v)).map fun g => (name, g)
      | none => .error [Fault.mk [.key key] .keyNotText]) entries).map Entries.ofList
  | _ => .error [⟨[], .notMapping⟩]

/-- A part that may be left out. -/
def optional {α : Type} (name : String) (fallback : α) (check : Value → Checked α)
    (entries : List (Scalar × Value)) : Checked α :=
  match Value.find? name entries with
  | some v => Checked.under (.key (.text name)) (check v)
  | none => .ok fallback

/-- The default group has to be one of the groups. -/
def checkDefault (s : Settings) : Checked Settings :=
  if s.groups.keys.contains s.defaultName then .ok s
  else
    .error [⟨[], .rejected ("default_path_group '" ++ s.defaultGroup ++ "' is not one of the configured groups: " ++
      Text.Symbol.quotedList (s.groups.keys.mergeSort fun name other => decide (name ≤ other)))⟩]

def checkParts (entries : List (Scalar × Value)) : Checked Settings :=
  let generates := optional "default_generates" fallbackGenerates checkGenerates entries
  let name := optional "default_path_group" fallbackGroup
    (fun v => v.checkNonemptyText.mapError fun kind => [⟨[], kind⟩]) entries
  let groups := optional "groups" fallback.groups checkGroups entries
  (Checked.both (Checked.both generates name) groups).map fun ((generates, name), groups) => ⟨generates, name, groups⟩

/-- Settings from a document. All faults of its parts are reported; whether the parts fit together is only asked
when there are none. -/
def check : Value → Checked Settings
  | .mapping entries =>
    checkFields ["default_generates", "default_path_group", "groups"] checkParts entries >>= checkDefault
  | _ => .error [⟨[], .notSettings⟩]

end Settings

end CrudScaffold
