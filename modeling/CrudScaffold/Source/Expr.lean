/-!
# Expressions of generated code

The expressions that generated classes are made of, their text, and the names they refer to. Text between quotes
refers to nothing.
-/

namespace CrudScaffold.Source

mutual

inductive Expr
  /-- A name, or a name followed by attributes after points. -/
  | path (dotted : String)
  /-- A literal that is already written. -/
  | literal (code : String)
  /-- A text between double quotes, written as it is. -/
  | quoted (text : String)
  | call (callee : String) (arguments : Arguments)
  | index (base : String) (arguments : Arguments)
  | list (items : Arguments)

inductive Arguments
  | nil
  | positional (value : Expr) (rest : Arguments)
  | keyword (name : String) (value : Expr) (rest : Arguments)

end

def Arguments.ofValues : List Expr → Arguments
  | [] => .nil
  | e :: rest => .positional e (ofValues rest)

def Arguments.ofKeywords : List (String × Expr) → Arguments
  | [] => .nil
  | (name, e) :: rest => .keyword name e (ofKeywords rest)

def Arguments.append : Arguments → Arguments → Arguments
  | .nil, later => later
  | .positional e rest, later => .positional e (rest.append later)
  | .keyword name e rest, later => .keyword name e (rest.append later)

instance : Append Arguments := ⟨Arguments.append⟩

mutual

def Expr.render : Expr → String
  | .path dotted => dotted
  | .literal code => code
  | .quoted text => "\"" ++ text ++ "\""
  | .call callee arguments => callee ++ "(" ++ ", ".intercalate arguments.texts ++ ")"
  | .index base arguments => base ++ "[" ++ ", ".intercalate arguments.texts ++ "]"
  | .list items => "[" ++ ", ".intercalate items.texts ++ "]"

def Arguments.texts : Arguments → List String
  | .nil => []
  | .positional e rest => e.render :: rest.texts
  | .keyword name e rest => (name ++ "=" ++ e.render) :: rest.texts

end

/-- The first segment of a dotted name. -/
def headName (dotted : String) : String :=
  .ofList (dotted.toList.takeWhile (· != '.'))

mutual

/-- The names an expression refers to. -/
def Expr.names : Expr → List String
  | .path dotted => [headName dotted]
  | .literal _ | .quoted _ => []
  | .call callee arguments => headName callee :: arguments.names
  | .index base arguments => headName base :: arguments.names
  | .list items => items.names

def Arguments.names : Arguments → List String
  | .nil => []
  | .positional e rest => e.names ++ rest.names
  | .keyword _ e rest => e.names ++ rest.names

end

namespace Expr

def true : Expr := .literal "True"

def none : Expr := .literal "None"

def ofBool (b : Bool) : Expr := .literal (if b then "True" else "False")

/-- `base[e]` -/
def of (base : String) (e : Expr) : Expr :=
  .index base (.ofValues [e])

/-- A value of the given type, or nothing. -/
def optional (e : Expr) : Expr :=
  of "Optional" e

end Expr

end CrudScaffold.Source
