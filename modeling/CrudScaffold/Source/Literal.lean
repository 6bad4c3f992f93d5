import CrudScaffold.Text.Blank
import CrudScaffold.Text.Case
import CrudScaffold.Text.Digit
import CrudScaffold.Text.Quoted

/-!
# Literals

How a default value written in a schema appears in the generated code.
-/

namespace CrudScaffold.Source

/-- The words that stand for a constant, in lower case. -/
def constants : List (String × String) :=
  [("true", "True"), ("false", "False"), ("null", "None"), ("none", "None")]

/-- A text value as a literal: blanks at its ends and one pair of surrounding quotes do not count. -/
def textLiteral (value : String) : String :=
  Text.quoted (.ofList (Text.unquote (Text.trim value.toList)))

/-- A value as a literal: constants and numbers are code, and everything else is text. -/
def literal (value : String) : String :=
  let stripped := Text.strip value
  match constants.lookup (Text.lowercase stripped) with
  | some constant => constant
  | none => if Text.isNumeral stripped.toList then stripped else textLiteral stripped

end CrudScaffold.Source
