import CrudScaffold.CommandLine.Word
import CrudScaffold.Run.Command

/-!
# Invocations

The words of a command line are read from the left: the first two texts are the model and its schema if nothing
comes between them, and a switch takes its text from the next word. Words that nothing can be made of are kept,
and reported when all have been read. Asking for help or for the version ends the reading at once.
-/

namespace CrudScaffold.CommandLine

/-- What a command line asks for. -/
structure Invocation where
  arguments : Arguments
  /-- The path of the file that the settings are read from. -/
  settings : Option String
  verbosity : Nat
  quiet : Bool

/-- Why reading ends without an invocation. -/
inductive Stop
  | help
  | version
  | refused (r : Refusal)
  deriving DecidableEq, Repr

/-- What the next text is taken for. -/
inductive Place
  | model
  | schema
  /-- Nothing; a separator here belongs to the schema. -/
  | afterSchema
  | none
  deriving DecidableEq, Repr

/-- What is known after some words. -/
structure Reading where
  place : Place
  /-- A switch that waits for its text, after those that stand in one word with it. -/
  wanting : Option (List (Switch × Option String) × Switch)
  model : Option String
  schema : Option String
  chosen : List Choice
  group : Option Text.Symbols
  root : Given
  application : Given
  settings : Option String
  verbosity : Nat
  quiet : Bool
  unrecognized : List String

namespace Reading

def initial : Reading :=
  { place := .model, wanting := none, model := none, schema := none, chosen := [], group := none, root := .absent,
    application := .absent, settings := none, verbosity := 0, quiet := false, unrecognized := [] }

/-- What a switch is given by a text. Two hyphens give nothing, wherever they stand. -/
def given : Option String → Given
  | some s => if s = "--" then .empty else .text s
  | none => .absent

/-- The text that is given, unless it is two hyphens. -/
def given? (text : Option String) : Option String :=
  text.filter (· ≠ "--")

/-- Does what a switch says. -/
def apply (r : Reading) : Switch × Option String → Except Stop Reading
  | (.help, _) => .error .help
  | (.version, _) => .error .version
  | (.choose c, _) => .ok { r with chosen := r.chosen ++ [c] }
  | (.group, text) => .ok { r with group := (given text).text? }
  | (.root, text) => .ok { r with root := given text }
  | (.application, text) => .ok { r with application := given text }
  | (.settings, text) => .ok { r with settings := given? text }
  | (.verbose, _) => .ok { r with verbosity := r.verbosity + 1 }
  | (.quiet, _) => .ok { r with quiet := true }

/-- Does what several switches say, in order. -/
def applyAll (r : Reading) (uses : List (Switch × Option String)) : Except Stop Reading :=
  uses.foldlM apply r

def unrecognize (r : Reading) (s : String) : Reading :=
  { r with unrecognized := r.unrecognized ++ [s] }

/-- A switch ends the run of texts that it stands after. -/
def interrupt (r : Reading) : Reading :=
  { r with place := if r.place = .model then .model else .none }

private def text (r : Reading) (s : String) : Reading :=
  match r.place with
  | .model => { r with model := some s, place := .schema }
  | .schema => { r with schema := given? (some s), place := .afterSchema }
  | .afterSchema | .none => { r with place := .none }.unrecognize s

private def separator (r : Reading) : Reading :=
  match r.place with
  | .model | .schema => r
  | .afterSchema => { r with place := .none }
  | .none => r.unrecognize "--"

private def cluster (r : Reading) (c : Cluster) : Except Stop Reading :=
  let r := r.interrupt
  match c.wanting with
  | some s => .ok { r with wanting := some (c.uses, s) }
  | none => r.applyAll c.uses

/-- What is known after one more word. -/
def step (r : Reading) (w : Word) : Except Stop Reading :=
  match r.wanting, w with
  | some (uses, s), .text given => { r with wanting := none }.applyAll (uses ++ [(s, some given)])
  | some (_, s), _ => .error (.refused (.missingText s))
  | none, .text s => .ok (r.text s)
  | none, .separator => .ok r.separator
  | none, .unknown s => .ok (r.interrupt.unrecognize s)
  | none, .switch s attachment => (Cluster.ofSwitch s attachment).mapError .refused >>= r.cluster

/-! ### What one word does to a reading that waits for no text -/

section Step

variable {r : Reading} {s last : Switch} {attachment : Attachment} {uses : List (Switch × Option String)}

theorem step_switch (hr : r.wanting = none) (hcluster : Cluster.ofSwitch s attachment = .ok ⟨uses, none⟩) :
    r.step (.switch s attachment) = r.interrupt.applyAll uses := by
  simp only [step, hr, hcluster]
  rfl

theorem step_switch_wanting (hr : r.wanting = none)
    (hcluster : Cluster.ofSwitch s attachment = .ok ⟨uses, some last⟩) :
    r.step (.switch s attachment) = .ok { r.interrupt with wanting := some (uses, last) } := by
  simp only [step, hr, hcluster]
  rfl

theorem step_model (hr : r.wanting = none) (hplace : r.place = .model) (s : String) :
    r.step (.text s) = .ok { r with model := some s, place := .schema } := by
  simp only [step, text, hr, hplace]

theorem step_schema (hr : r.wanting = none) (hplace : r.place = .schema) (s : String) :
    r.step (.text s) = .ok { r with schema := given? (some s), place := .afterSchema } := by
  simp only [step, text, hr, hplace]

theorem step_leftover (hr : r.wanting = none) (hplace : r.place = .none) (s : String) :
    r.step (.text s) = .ok (r.unrecognize s) := by
  simp only [step, text, hr, hplace, unrecognize]

end Step

/-- The invocation that has been read when no word is left. -/
def finish (r : Reading) : Except Refusal Invocation :=
  match r.wanting, r.model, r.unrecognized with
  | some (_, s), _, _ => .error (.missingText s)
  | none, none, _ => .error .missingModel
  | none, some _, s :: rest => .error (.unrecognized (s :: rest))
  | none, some model, [] =>
    let flags := Choice.options.map fun c => (c.name, r.chosen.contains c)
    .ok ⟨⟨model, r.schema, flags, r.group, r.root, r.application⟩, r.settings, r.verbosity, r.quiet⟩

end Reading

/-- Reads the words of a command line. -/
def Invocation.ofTexts (words : List String) : Except Stop Invocation := do
  let words ← (Word.ofTexts words).mapError .refused
  let r ← words.foldlM Reading.step .initial
  r.finish.mapError .refused

end CrudScaffold.CommandLine
