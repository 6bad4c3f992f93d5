/-!
# Output

What a run says while it works: lines of its report, complaints about what the user typed, and notes on its
progress that are shown on request.
-/

namespace CrudScaffold

inductive Level
  | debug
  | info
  | error
  deriving DecidableEq, Repr

namespace Level

def word : Level → String
  | debug => "DEBUG"
  | info => "INFO"
  | error => "ERROR"

def rank : Level → Nat
  | debug => 0
  | info => 1
  | error => 2

end Level

/-- A note on the progress of a run, and the part of the program that it is from. -/
structure Note where
  level : Level
  origin : String
  text : String
  deriving DecidableEq, Repr

/-- Level, origin and text in columns, after the time of day if it is given. -/
def Note.line (time : Option String) (n : Note) : String :=
  let level := n.level.word
  let padding := String.ofList (List.replicate (8 - level.length) ' ')
  " │ ".intercalate (time.toList ++ [level ++ padding, n.origin, n.text])

inductive Output
  /-- A line on the standard output. -/
  | line (text : String)
  /-- A line about what is wrong with the input. -/
  | complaint (text : String)
  | note (n : Note)
  deriving DecidableEq, Repr

namespace Output

private def concat (lines : List String) : String :=
  String.join (lines.map (· ++ "\n"))

/-- The text on the standard output. -/
def standard (outputs : List Output) : String :=
  concat (outputs.filterMap fun o =>
    match o with
    | .line text => some text
    | .complaint _ | .note _ => none)

/-- The text on the error output. Only notes from the given level upward are shown, and without one none are. -/
def errors (time : Option String) (lowest : Option Level) (outputs : List Output) : String :=
  concat (outputs.filterMap fun o =>
    match o with
    | .line _ => none
    | .complaint text => some text
    | .note n => if lowest.any (·.rank ≤ n.level.rank) then some (n.line time) else none)

/-! ### What parts of the output show -/

theorem standard_append (o o' : List Output) : standard (o ++ o') = standard o ++ standard o' := by
  simp [standard, concat]

@[simp] theorem standard_notes (notes : List Note) : standard (notes.map .note) = "" := by
  induction notes with
  | nil => rfl
  | cons n notes ih => simpa [standard] using ih

theorem errors_append (time : Option String) (lowest : Option Level) (o o' : List Output) :
    errors time lowest (o ++ o') = errors time lowest o ++ errors time lowest o' := by
  simp [errors, concat]

@[simp] theorem errors_notes (time : Option String) (notes : List Note) : errors time none (notes.map .note) = "" := by
  induction notes with
  | nil => rfl
  | cons n notes ih => simpa [errors] using ih

@[simp] theorem errors_complaint (time : Option String) (lowest : Option Level) (text : String) :
    errors time lowest [.complaint text] = text ++ "\n" := by
  simp [errors, concat]

@[simp] theorem standard_lines (texts : List String) :
    standard (texts.map .line) = String.join (texts.map (· ++ "\n")) := by
  rw [standard, List.filterMap_map]
  exact congrArg concat List.filterMap_some

end Output

end CrudScaffold
