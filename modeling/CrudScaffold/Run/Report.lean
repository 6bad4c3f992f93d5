import CrudScaffold.Number.Double
import CrudScaffold.Request
import CrudScaffold.Table

/-!
# Reports

The record of the files that a run has written, and the two tables that are printed from it.
-/

namespace CrudScaffold

structure ProducedFile where
  /-- The choice that the file was written for. -/
  choice : Choice
  path : String
  /-- The number of bytes. -/
  size : Int
  deriving DecidableEq, Repr

/-- The files of a run, in the order they were written. -/
abbrev Report := List ProducedFile

namespace Report

def totalSize (r : Report) : Int :=
  r.foldl (fun total f => total + f.size) 0

/-- One row for every file. -/
def table (r : Report) : Table :=
  ⟨["Type", "Path"], r.map fun f => [f.choice.name, f.path]⟩

end Report

/-- One row for every field. -/
def Schema.table (s : Schema) : Table :=
  ⟨["Field", "Type", "Modifiers"], s.fields.map fun f => [f.name, f.type.word, ", ".intercalate f.labels]⟩

/-- A span of time with a label. -/
structure Timing where
  label : String
  seconds : Float

namespace Timing

def text (t : Timing) : String :=
  Number.fixed 4 t.seconds

def describe (t : Timing) : String :=
  "<Timer " ++ t.label ++ ": " ++ t.text ++ "s>"

/-- The label of a timing that is given none. -/
def defaultLabel : String :=
  "operation"

end Timing

end CrudScaffold
