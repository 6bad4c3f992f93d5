import CrudScaffold.Naming
import CrudScaffold.Problem
import CrudScaffold.Text.Affix
import CrudScaffold.Text.Digit

/-!
# Identifiers

Which texts may name a field or a model, and which words are reserved. A single line break at the very end of a
name is passed over.
-/

namespace CrudScaffold

/-- The keywords of the generated code, in lower case. -/
def reservedWords : List String :=
  ["false", "none", "true", "and", "as", "assert", "async", "await", "break", "case", "class", "continue", "def",
    "del", "elif", "else", "except", "finally", "for", "from", "global", "if", "import", "in", "is", "lambda",
    "match", "nonlocal", "not", "or", "pass", "raise", "return", "try", "while", "with", "yield"]

/-- Whether a name is one of the given words up to case. -/
def isReserved (words : List String) (name : String) : Bool :=
  words.contains (Text.lowercase name)

/-- The text without one line break at its end. -/
def withoutFinalBreak (cs : List Char) : List Char :=
  if cs.getLast? = some '\n' then cs.dropLast else cs

/-- A letter or underscore, then letters, digits and underscores. -/
def isIdentChars : List Char → Bool
  | [] => false
  | c :: rest => Text.isIdentStart c && rest.all Text.isIdentChar

def isIdentifier (name : String) : Bool :=
  isIdentChars (withoutFinalBreak name.toList)

/-- A letter, then letters, digits and underscores. -/
def isModelName (name : String) : Bool :=
  isIdentifier name && !Text.startsWith "_" name

/-- The name of a model with its first letter in upper case. The reserved words are looked up before that. -/
def modelName (words : List String) (name : String) : Except Problem String :=
  if isReserved words name then .error (.reservedName name)
  else if !isModelName name then .error (.malformedName name)
  else .ok (Naming.upperFirst name)

end CrudScaffold
