/-!
# Splitting at the top level

A schema is split at separators that stand outside parentheses and quotes. A quote ends at the next quote of its
kind, whatever stands between them.
-/

namespace CrudScaffold

/-- Why a text cannot be split. -/
inductive Imbalance
  /-- A parenthesis is closed that was not opened. -/
  | closed
  /-- A quote is not closed. -/
  | quoted (quote : Char)
  /-- A parenthesis is not closed. -/
  | opened
  deriving DecidableEq, Repr

/-- Puts a character in front of the first piece. -/
def consPiece (c : Char) : List (List Char) → List (List Char)
  | piece :: others => (c :: piece) :: others
  | [] => [[c]]

def isQuote (c : Char) : Bool :=
  c == '\'' || c == '"'

/-- Splits what follows a place inside the given quote, if any, and inside `depth` parentheses. -/
def splitFrom (separator : Char) : Option Char → Nat → List Char → Except Imbalance (List (List Char))
  | some q, _, [] => .error (.quoted q)
  | none, depth, [] => if depth = 0 then .ok [[]] else .error .opened
  | some q, depth, c :: rest =>
    (splitFrom separator (if c = q then none else some q) depth rest).map (consPiece c)
  | none, depth, c :: rest =>
    if isQuote c then (splitFrom separator (some c) depth rest).map (consPiece c)
    else if c = '(' then (splitFrom separator none (depth + 1) rest).map (consPiece c)
    else if c = ')' then
      match depth with
      | 0 => .error .closed
      | depth + 1 => (splitFrom separator none depth rest).map (consPiece c)
    else if c = separator ∧ depth = 0 then (splitFrom separator none 0 rest).map ([] :: ·)
    else (splitFrom separator none depth rest).map (consPiece c)

/-- The pieces between the separators at the top level. -/
def splitTopLevel (separator : Char) (cs : List Char) : Except Imbalance (List (List Char)) :=
  splitFrom separator none 0 cs

end CrudScaffold
