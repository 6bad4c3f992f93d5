import CrudScaffold.Value

/-!
# Faults found in given data

What is wrong with a value that should become a field, a request or a configuration, and where in it. All faults of
a value are reported together.
-/

namespace CrudScaffold

/-- One step from a value to a part of it. -/
inductive Step
  | key (k : Scalar)
  | index (n : Nat)

inductive FaultKind
  /-- Something other than a text stands where a text is expected. -/
  | notText
  /-- Bytes or surrogates that are no text. -/
  | undecodable
  | emptyText
  /-- None of the words that are possible here. -/
  | notMember
  | notSequence
  | notMapping
  /-- Something other than a mapping stands for the settings of a group. -/
  | notSettings
  | notTruthValue
  /-- A text or number that stands for no truth value. -/
  | unreadableTruthValue
  | unknownKey
  | keyNotText
  /-- A rule of this library is broken. -/
  | rejected (reason : String)
  deriving DecidableEq, Repr

structure Fault where
  path : List Step
  kind : FaultKind

namespace Fault

def field (name : String) (kind : FaultKind) : Fault :=
  ⟨[.key (.text name)], kind⟩

/-- The same fault, seen from the value that this one is a part of. -/
def under (step : Step) (f : Fault) : Fault :=
  { f with path := step :: f.path }

end Fault

/-- A value, or all that is wrong with it. -/
abbrev Checked (α : Type) := Except (List Fault) α

namespace Checked

/-- Faults of several parts are collected. -/
def both {α β : Type} (a : Checked α) (b : Checked β) : Checked (α × β) :=
  match a, b with
  | .ok x, .ok y => .ok (x, y)
  | .error e, .ok _ => .error e
  | .ok _, .error f => .error f
  | .error e, .error f => .error (e ++ f)

def under {α : Type} (step : Step) (a : Checked α) : Checked α :=
  a.mapError (·.map (·.under step))

/-- Checks every part, and collects the faults of all of them. -/
def all {α β : Type} (check : α → Checked β) : List α → Checked (List β)
  | [] => .ok []
  | x :: rest => (both (check x) (all check rest)).map fun p => p.1 :: p.2

end Checked

/-! ### Checks of scalars -/

namespace Value

/-- A text, perhaps with surrogates, or bytes that are the encoding of a text. -/
def checkSymbols : Value → Except FaultKind Text.Symbols
  | .scalar (.text s) => .ok s
  | .scalar (.brokenText symbols) => .ok symbols
  | .scalar (.bytes b) =>
    match String.fromUTF8? b with
    | some s => .ok s
    | none => .error .undecodable
  | _ => .error .notText

/-- A text, or bytes that are the encoding of one. -/
def checkText (v : Value) : Except FaultKind String := do
  match Text.Symbol.string? (← v.checkSymbols) with
  | some s => .ok s
  | none => .error .undecodable

def checkNonemptyText (v : Value) : Except FaultKind String :=
  match v.checkText with
  | .ok s => if s = "" then .error .emptyText else .ok s
  | .error e => .error e

/-- The words for truth values, in lower case. -/
def truthWords : List (String × Bool) :=
  [("0", false), ("off", false), ("f", false), ("false", false), ("n", false), ("no", false),
    ("1", true), ("on", true), ("t", true), ("true", true), ("y", true), ("yes", true)]

private def asciiLower (s : String) : String :=
  .ofList (s.toList.map Char.toLower)

/-- One and zero stand for the truth values. Other numbers are told apart by their size: those from `least` on that
fit a signed word of 64 bits could be read. -/
def truthOfNumber (least n : Int) : Except FaultKind Bool :=
  if n = 0 then .ok false
  else if n = 1 then .ok true
  else if least ≤ n ∧ n < 9223372036854775808 then .error .unreadableTruthValue
  else .error .notTruthValue

/-- A truth value, or a number or word that stands for one. -/
def checkTruthValue (v : Value) : Except FaultKind Bool :=
  match v with
  | .scalar (.bool b) => .ok b
  | .scalar (.int n) => truthOfNumber (-9223372036854775808) n
  | .scalar (.float x) =>
    match Scalar.wholeNumber? x with
    -- The least word is not told from the doubles beyond it.
    | some n => truthOfNumber (-9223372036854775807) n
    | none => .error .notTruthValue
  | _ =>
    match v.checkText with
    | .ok s =>
      match truthWords.lookup (asciiLower s) with
      | some b => .ok b
      | none => .error .unreadableTruthValue
    | .error _ => .error .notTruthValue

end Value

end CrudScaffold
