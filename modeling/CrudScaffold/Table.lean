/-!
# Tables

A table of texts in a box. Every column is as wide as its longest cell, and cells are padded with blanks.
-/

namespace CrudScaffold

structure Table where
  headers : List String
  rows : List (List String)
  deriving DecidableEq, Repr

namespace Table

/-- The widths of the columns, in characters. -/
def widths (t : Table) : List Nat :=
  t.headers.zipIdx.map fun (header, i) =>
    (t.rows.map fun row => (row[i]?.getD "").length).foldl max header.length

private def repeated (c : Char) (n : Nat) : String :=
  .ofList (List.replicate n c)

def border (widths : List Nat) : String :=
  "+" ++ "+".intercalate (widths.map fun w => repeated '-' (w + 2)) ++ "+"

def cell (text : String) (width : Nat) : String :=
  " " ++ text ++ repeated ' ' (width - text.length) ++ " "

def line (widths : List Nat) (cells : List String) : String :=
  "|" ++ "|".intercalate (cells.zipWith cell widths) ++ "|"

def lines (t : Table) : List String :=
  let edge := border t.widths
  [edge, line t.widths t.headers, edge] ++ t.rows.map (line t.widths) ++ [edge]

def text (t : Table) : String :=
  "\n".intercalate t.lines

/-- Whether every cell has a column. -/
def isRectangular (t : Table) : Bool :=
  t.rows.all fun row => row.length ≤ t.headers.length

/-- The text of a table, unless one of its rows has more cells than there are columns. -/
def render? (t : Table) : Option String :=
  if t.isRectangular then some t.text else none

end Table

end CrudScaffold
