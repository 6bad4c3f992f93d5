import CrudScaffold.Source.Expr
import CrudScaffold.Source.Import

/-!
# Generated files

A generated file as a tree: a summary, sections of imports, assignments, and definitions of functions and classes.
`SourceFile.render` is the one place where the tree becomes text; `bindings` and `ClassBody.attributes` are the
names that the text binds at the top level and in a class.
-/

namespace CrudScaffold.Source

/-- One line of a function's body, so many levels further in than the body itself. -/
inductive Statement
  | blank
  | code (depth : Nat) (text : String)
  /-- An entry of a mapping that is spread over lines. -/
  | entry (depth : Nat) (key : String) (value : Expr)

structure Function where
  decorators : List String
  name : String
  parameters : List String
  /-- Whether every parameter has a line of its own. -/
  spread : Bool
  result : Option String
  body : List Statement

inductive Member
  | doc (text : String)
  | attribute (name : String) (hint value : Option Expr)
  | method (f : Function)

/-- A class. A blank line stands between two groups of members. -/
structure ClassBody where
  name : String
  base : Option String
  groups : List (List Member)

inductive Definition
  | function (f : Function)
  | classBody (c : ClassBody)

structure SourceFile where
  summary : String
  imports : List (List Import)
  assignments : List (String × Expr)
  definitions : List Definition

/-! ### Text -/

/-- A line so many levels further in; a level is four blanks wide. -/
def indented (depth : Nat) (text : String) : String :=
  .ofList (List.replicate (4 * depth) ' ') ++ text

def Statement.line (depth : Nat) : Statement → String
  | .blank => ""
  | .code d text => indented (depth + d) text
  | .entry d key value => indented (depth + d) ("\"" ++ key ++ "\": " ++ value.render ++ ",")

/-- The lines of a function whose `def` stands at the given depth. -/
def Function.lines (depth : Nat) (f : Function) : List String :=
  let result := match f.result with
    | some type => " -> " ++ type
    | none => ""
  let head :=
    if f.spread then
      indented depth ("def " ++ f.name ++ "(") ::
        f.parameters.map (fun p => indented (depth + 1) (p ++ ",")) ++ [indented depth (")" ++ result ++ ":")]
    else [indented depth ("def " ++ f.name ++ "(" ++ ", ".intercalate f.parameters ++ ")" ++ result ++ ":")]
  f.decorators.map (indented depth) ++ head ++ f.body.map (Statement.line (depth + 1))

def Member.lines : Member → List String
  | .doc text => [indented 1 ("\"\"\"" ++ text ++ "\"\"\"")]
  | .attribute name hint value =>
    let hint := match hint with
      | some e => ": " ++ e.render
      | none => ""
    let value := match value with
      | some e => " = " ++ e.render
      | none => ""
    [indented 1 (name ++ hint ++ value)]
  | .method f => f.lines 1

def ClassBody.lines (c : ClassBody) : List String :=
  let base := match c.base with
    | some b => "(" ++ b ++ ")"
    | none => ""
  ("class " ++ c.name ++ base ++ ":") :: [""].intercalate (c.groups.map fun g => g.flatMap Member.lines)

def Definition.lines : Definition → List String
  | .function f => f.lines 0
  | .classBody c => c.lines

/-- The comment that every generated file begins with. -/
def headerLines (summary : String) : List String :=
  ["\"\"\"", summary, "Generated by crudgen.", "\"\"\"", ""]

def SourceFile.lines (f : SourceFile) : List String :=
  headerLines f.summary ++
    [""].intercalate (f.imports.map fun s => s.map Import.line) ++
    (if f.assignments.isEmpty then [] else "" :: f.assignments.map fun a => a.1 ++ " = " ++ a.2.render) ++
    f.definitions.flatMap (fun d => "" :: "" :: d.lines) ++ [""]

/-- The text of a file; its last line is ended like the others. -/
def SourceFile.render (f : SourceFile) : String :=
  "\n".intercalate f.lines

/-! ### Names -/

def Definition.name : Definition → String
  | .function f => f.name
  | .classBody c => c.name

/-- The names bound at the top level, in order. -/
def SourceFile.bindings (f : SourceFile) : List String :=
  f.imports.flatten.flatMap Import.binds ++ f.assignments.map Prod.fst ++ f.definitions.map Definition.name

def Member.name? : Member → Option String
  | .doc _ => none
  | .attribute name _ _ => some name
  | .method f => some f.name

/-- The names a class body binds, in order and as they are written. A class keeps a name that begins with two underscores
under another one, which is left out here. -/
def ClassBody.attributes (c : ClassBody) : List String :=
  c.groups.flatten.filterMap Member.name?

def Statement.names : Statement → List String
  | .entry _ _ value => value.names
  | .blank | .code _ _ => []

/-- The names that the expressions of a member refer to. -/
def Member.names : Member → List String
  | .doc _ => []
  | .attribute _ hint value => (hint.toList ++ value.toList).flatMap Expr.names
  | .method f => f.body.flatMap Statement.names

def ClassBody.names (c : ClassBody) : List String :=
  c.groups.flatten.flatMap Member.names

end CrudScaffold.Source
