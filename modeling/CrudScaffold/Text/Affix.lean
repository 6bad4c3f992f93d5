/-!
# Heads and tails of texts

Whether a text begins or ends with another one, or has it somewhere inside.
-/

namespace CrudScaffold.Text

def startsWith (head s : String) : Bool :=
  head.toList.isPrefixOf s.toList

def endsWith (tail s : String) : Bool :=
  tail.toList.isSuffixOf s.toList

/-- What follows the first occurrence of `part`. -/
def after? (part : List Char) : List Char → Option (List Char)
  | [] => if part.isEmpty then some [] else none
  | c :: rest =>
    if part.isPrefixOf (c :: rest) then some ((c :: rest).drop part.length) else after? part rest

def occursIn (part s : String) : Bool :=
  (after? part.toList s.toList).isSome

/-- The pieces between the occurrences of a separator. -/
def splitOn {α : Type} [DecidableEq α] (separator : α) : List α → List (List α)
  | [] => [[]]
  | c :: rest =>
    if c = separator then [] :: splitOn separator rest
    else
      match splitOn separator rest with
      | piece :: others => (c :: piece) :: others
      | [] => [[c]]

end CrudScaffold.Text
