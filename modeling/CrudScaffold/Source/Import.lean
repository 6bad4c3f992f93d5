import CrudScaffold.Entries
import CrudScaffold.Source.StandardModules
import CrudScaffold.Text.Affix

/-!
# Imports

What a generated file needs from other modules, and the block of import lines that asks for it: up to three
sections (the standard library, other libraries, the application itself), each with its plain imports in front.
-/

namespace CrudScaffold.Source

/-- One import line. Without names the module itself is imported, possibly under another name. -/
structure Import where
  origin : String
  names : List String
  deriving DecidableEq, Repr

namespace Import

def isPlain (i : Import) : Bool :=
  i.names.isEmpty

def line (i : Import) : String :=
  if i.isPlain then "import " ++ i.origin
  else "from " ++ i.origin ++ " import " ++ ", ".intercalate i.names

/-- The name that an imported thing is given, if it is given another one. -/
def alias? (thing : String) : Option String :=
  (Text.after? " as ".toList thing.toList).map .ofList

/-- The names that the line binds. A plain import of a dotted module binds its first segment. -/
def binds (i : Import) : List String :=
  if i.isPlain then [(alias? i.origin).getD (.ofList (i.origin.toList.takeWhile (· != '.')))]
  else i.names.map fun name => (alias? name).getD name

end Import

/-- The modules a file imports from, with the names it takes from each. -/
abbrev Imports := Entries String (List String)

inductive ImportSection
  | standard
  | library
  | application
  deriving DecidableEq, Repr

def ImportSection.all : List ImportSection :=
  [.standard, .library, .application]

/-- The section of a module, decided by its first segment and by the namespace of the application. -/
def importSection (origin : String) (application : Option String) : ImportSection :=
  let top : String := .ofList (origin.toList.takeWhile fun c => c != ' ' && c != '.')
  if standardModules.contains top then .standard
  else
    match application with
    | some own =>
      if own ≠ "" ∧ (origin = own ∨ Text.startsWith (own ++ ".") origin) then .application else .library
    | none => .library

def sortTexts (texts : List String) : List String :=
  texts.mergeSort fun a b => decide (a ≤ b)

namespace Imports

/-- Asks for a whole module. -/
def whole (origin : String) (imports : Imports) : Imports :=
  imports.put origin ((imports.get? origin).getD [])

/-- Asks for one more name of a module. -/
def add (origin name : String) (imports : Imports) : Imports :=
  let names := (imports.get? origin).getD []
  imports.put origin (if names.contains name then names else names ++ [name])

/-- Asks for exactly these names of a module. -/
def set (origin : String) (names : List String) (imports : Imports) : Imports :=
  imports.put origin names.eraseDups

/-- The import lines, plain ones first, then by module; the names of a line are sorted. -/
def toLines (imports : Imports) : List Import :=
  (imports.map fun e => Import.mk e.1 (sortTexts e.2)).mergeSort fun a b =>
    if a.isPlain = b.isPlain then decide (a.origin ≤ b.origin) else a.isPlain

/-- The sections that are not empty, in order. -/
def sections (imports : Imports) (application : Option String) : List (List Import) :=
  (ImportSection.all.map fun s => imports.toLines.filter fun i => importSection i.origin application = s).filter
    (!·.isEmpty)

end Imports

/-- Sections of import lines, separated by blank lines. -/
def importBlock (sections : List (List Import)) : String :=
  "\n\n".intercalate (sections.map fun s => "\n".intercalate (s.map Import.line))

/-! ### Modules of the value types -/

/-- The module of dates and times, and the name the generated code has for it. -/
def timeModule : String :=
  "datetime as dt"

/-- The module that a type is referred to through. -/
def typeModules : List (String × String) :=
  [("dt.date", timeModule), ("dt.datetime", timeModule), ("dt.time", timeModule),
    ("decimal.Decimal", "decimal"), ("uuid.UUID", "uuid")]

/-- Asks for the module that a type needs, if it needs one. -/
def Imports.forType (hint : String) (imports : Imports) : Imports :=
  match typeModules.lookup hint with
  | some origin => imports.whole origin
  | none => imports

end CrudScaffold.Source
