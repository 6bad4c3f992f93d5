import CrudScaffold.Choice
import CrudScaffold.Entries
import CrudScaffold.Fault

/-!
# Selections

Which choices are made in a run. Flags are read in either spelling; `all` switches on the configured options; and
the two kinds of request bodies and the model follow from the rest.
-/

namespace CrudScaffold

/-- For every choice, whether it is made. -/
structure Selection where
  isOn : Choice → Bool

/-- Options with whether they are set, in the order of their names. -/
abbrev Flags := Entries String Bool

/-- Why flags and defaults do not make a selection. -/
inductive SelectionFault
  | unknownFlag (key : String)
  | faults (fs : List Fault)

namespace Flags

def unset : Flags :=
  Choice.options.map fun c => (c.name, false)

/-- Sets the option that a flag names, in either spelling. -/
def setFlag (flags : Flags) (flag : String × Bool) : Except String Flags :=
  match Choice.option? flag.1 with
  | some c => .ok (flags.put c.name flag.2)
  | none => .error (Choice.underscored flag.1)

/-- All options in order, each set as its last flag says. -/
def normalise (flags : List (String × Bool)) : Except String Flags :=
  flags.foldlM setFlag unset

def isSet (flags : Flags) (name : String) : Bool :=
  (flags.get? name).getD false

/-- The flags, with the given options set as well when `all` is. -/
def expand (flags : List (String × Bool)) (defaults : List String) : Except String Flags :=
  (normalise flags).map fun result =>
    if result.isSet Choice.all.name then defaults.foldl (fun r name => r.put name true) result else result

end Flags

namespace Selection

/-- Nothing is chosen but the model. -/
def initial : Selection :=
  ⟨fun c => c = .model⟩

def set (s : Selection) (choice : Choice) (value : Bool) : Selection :=
  ⟨fun c => if c = choice then value else s.isOn c⟩

/-- A choice given under its name with underscores. -/
def checkEntry (e : String × Value) : Checked (Choice × Bool) :=
  match Choice.ofKey? e.1 with
  | none => .error [.field e.1 .unknownKey]
  | some c =>
    match e.2.checkTruthValue with
    | .ok b => .ok (c, b)
    | .error kind => .error [.field e.1 kind]

/-- Choices given one by one. -/
def ofValues (values : Entries String Value) : Checked Selection :=
  (Checked.all checkEntry values).map fun choices => choices.foldl (fun s e => s.set e.1 e.2) initial

/-- Both kinds of request bodies are chosen with `request`, and the model always is. -/
def derive (s : Selection) : Selection :=
  ((s.set .createRequest (s.isOn .request)).set .updateRequest (s.isOn .request)).set .model true

/-- The selection that flags make, given the options that `all` stands for. -/
def build (flags : List (String × Bool)) (defaults : List String) : Except SelectionFault Selection :=
  match Flags.expand flags defaults with
  | .error key => .error (.unknownFlag key)
  | .ok expanded =>
    let values := Entries.ofList (expanded.map fun e => (Choice.underscored e.1, Value.scalar (.bool e.2)))
    match ofValues values with
    | .ok s => .ok s.derive
    | .error fs => .error (.faults fs)

/-- The choices that are made, in order. -/
def chosen (s : Selection) : List Choice :=
  Choice.every.filter s.isOn

end Selection

end CrudScaffold
