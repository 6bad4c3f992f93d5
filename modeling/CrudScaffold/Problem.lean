import CrudScaffold.Text.Symbol

/-!
# Problems

The errors this program reports about its input, its configuration and its output, each with a message and with the
status the process ends with.
-/

namespace CrudScaffold

inductive Problem
  | general (text : String) (status : Option Int)
  | input (text : String) (status : Option Int)
  | reservedName (name : String)
  | malformedName (name : String)
  | unknownGroup (group : Text.Symbols)
  | schema (reason : String) (near : Option String)
  | generation (artifact reason : String)
  | configuration (text : String) (status : Option Int)
  deriving DecidableEq, Repr

namespace Problem

/-- The statuses a run can end with. -/
def successStatus : Int := 0
def inputStatus : Int := 1
def generationStatus : Int := 2
def configurationStatus : Int := 4

def message : Problem → String
  | general text _ | input text _ | configuration text _ => text
  | reservedName name => "The name \"" ++ name ++ "\" is reserved by Python."
  | malformedName name =>
    "The name \"" ++ name ++
      "\" is not a valid model name. Use letters, digits and underscores, starting with a letter."
  | unknownGroup _ => "The path group you entered is not valid"
  | schema reason (some near) => "Invalid schema near '" ++ near ++ "': " ++ reason
  | schema reason none => "Invalid schema: " ++ reason
  | generation artifact reason => "Failed to generate " ++ artifact ++ ": " ++ reason

/-- Whether the problem lies in what the user typed, and was found before anything was generated. -/
def isInput : Problem → Bool
  | input _ _ | reservedName _ | malformedName _ | unknownGroup _ | schema _ _ => true
  | general _ _ | generation _ _ | configuration _ _ => false

def status : Problem → Int
  | general _ given => given.getD generationStatus
  | input _ given => given.getD inputStatus
  | configuration _ given => given.getD configurationStatus
  | reservedName _ | malformedName _ | unknownGroup _ | schema _ _ => inputStatus
  | generation _ _ => generationStatus

end Problem

end CrudScaffold
