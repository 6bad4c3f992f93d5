import CrudScaffold.Text.Affix

/-!
# Paths

A path is a list of components below a root or below the current directory. Empty components and single points do
not count; two points do. A path that begins with exactly two slashes has a root of its own.
-/

namespace CrudScaffold

/-- Where a path starts. -/
inductive Anchor
  | here
  | root
  | doubleRoot
  deriving DecidableEq, Repr

structure Path where
  anchor : Anchor
  components : List String
  deriving DecidableEq, Repr

namespace Path

def anchorOf (cs : List Char) : Anchor :=
  match (cs.takeWhile (· == '/')).length with
  | 0 => .here
  | 2 => .doubleRoot
  | _ => .root

def ofText (s : String) : Path :=
  let components := (Text.splitOn '/' s.toList).map String.ofList
  ⟨anchorOf s.toList, components.filter fun c => c ≠ "" ∧ c ≠ "."⟩

/-- The second path seen from the first one; a path with a root is the same from everywhere. -/
def join (p q : Path) : Path :=
  match q.anchor with
  | .here => ⟨p.anchor, p.components ++ q.components⟩
  | _ => q

def joinAll (p : Path) (parts : List String) : Path :=
  parts.foldl (fun p part => p.join (ofText part)) p

def Anchor.text : Anchor → String
  | .here => ""
  | .root => "/"
  | .doubleRoot => "//"

/-- The path as text; a point stands for the current directory. -/
def text (p : Path) : String :=
  let s := Anchor.text p.anchor ++ "/".intercalate p.components
  if s = "" then "." else s

/-- The path without its last component; a path without components stays what it is. -/
def parent (p : Path) : Path :=
  { p with components := p.components.dropLast }

/-- The last component. -/
def name (p : Path) : String :=
  p.components.getLast?.getD ""

end Path

end CrudScaffold
