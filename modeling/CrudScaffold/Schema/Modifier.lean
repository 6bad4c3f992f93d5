/-!
# Modifiers

What can be said of a field after its type, and the actions a reference can take when its target is deleted.
-/

namespace CrudScaffold

inductive ModifierKind
  | nullable
  | unique
  | index
  | unsigned
  | default
  | references
  | onDelete
  deriving DecidableEq, Repr

namespace ModifierKind

def all : List ModifierKind :=
  [.nullable, .unique, .index, .unsigned, .default, .references, .onDelete]

/-- The word for a modifier in a schema. -/
def word : ModifierKind → String
  | nullable => "nullable"
  | unique => "unique"
  | index => "index"
  | unsigned => "unsigned"
  | default => "default"
  | references => "references"
  | onDelete => "on_delete"

def ofWord? (w : String) : Option ModifierKind :=
  all.find? fun k => k.word == w

/-- Flags stand alone; the other modifiers take an argument in parentheses. -/
def isFlag : ModifierKind → Bool
  | nullable | unique | index | unsigned => true
  | default | references | onDelete => false

end ModifierKind

structure Modifier where
  kind : ModifierKind
  argument : Option String
  deriving DecidableEq, Repr

/-- The modifier as it is written in a schema. -/
def Modifier.label (m : Modifier) : String :=
  match m.argument with
  | none => m.kind.word
  | some argument => m.kind.word ++ "(" ++ argument ++ ")"

/-- What happens to a row whose target is deleted: the word in a schema, and the words in the database. -/
def deleteActions : List (String × String) :=
  [("cascade", "CASCADE"), ("set_null", "SET NULL"), ("restrict", "RESTRICT"), ("no_action", "NO ACTION")]

end CrudScaffold
