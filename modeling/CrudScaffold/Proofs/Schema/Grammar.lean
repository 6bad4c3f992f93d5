import CrudScaffold.Proofs.Schema.Nested
import CrudScaffold.Schema.Parse
import Mathlib.Data.List.Forall2

/-!
# The grammar of schemas

Which schemas can be written, and as which texts:

    schema    := field ( "," field )*
    field     := name ":" type ( ":" modifier )*
    modifier  := word [ "(" argument ")" ]

Blanks may stand around every name, type and modifier, before a parenthesis that opens, and at the ends of what it
encloses.  Types, words of modifiers and actions are written in any case.  Nothing here refers to how a text is read.
-/

namespace CrudScaffold

/-- A comma or a colon. -/
def isSchemaSeparator (c : Char) : Bool := c == ',' || c == ':'

/-- A text that is the given word in some mixture of cases. -/
def InSomeCase (word : String) (cs : List Char) : Prop := Text.lower cs = word.toList

/-- A table, or a table and a column with a point between them. -/
def IsTarget (cs : List Char) : Prop :=
  isIdentChars cs = true ∨
    ∃ table column, isIdentChars table = true ∧ isIdentChars column = true ∧ cs = table ++ '.' :: column

/-- The type's own word or another one for it. -/
def FieldType.SpelledAs (t : FieldType) (cs : List Char) : Prop :=
  InSomeCase t.word cs ∨ ∃ other, (other, t) ∈ FieldType.aliases ∧ InSomeCase other cs

namespace Modifier

/-- Flags stand alone.  A default is any text that is not blank and that the parentheses around it enclose; a
reference names a table and perhaps a column; an action is one of those that are known. -/
def WellFormed (m : Modifier) : Prop :=
  match m.kind, m.argument with
  | .nullable, argument | .unique, argument | .index, argument | .unsigned, argument => argument = none
  | .default, some argument =>
    argument ≠ "" ∧ Text.Trimmed argument.toList ∧ Nested isSchemaSeparator ('(' :: (argument.toList ++ [')']))
  | .references, some target => IsTarget target.toList
  | .onDelete, some action => action ∈ deleteActions.map Prod.fst
  | .default, none | .references, none | .onDelete, none => False

/-- Only actions are written in any case. -/
def ArgumentSpelledAs (kind : ModifierKind) (argument : String) (cs : List Char) : Prop :=
  if kind = .onDelete then InSomeCase argument cs else cs = argument.toList

/-- The texts of a modifier, without blanks at their ends. -/
inductive SpelledAs : Modifier → List Char → Prop
  | word {kind : ModifierKind} {word : List Char} (hw : InSomeCase kind.word word) : SpelledAs ⟨kind, none⟩ word
  | call {kind : ModifierKind} {argument : String} {word gap l inside r : List Char}
      (hw : InSomeCase kind.word word) (hgap : Text.Blanks gap) (hl : Text.Blanks l) (hr : Text.Blanks r)
      (ha : ArgumentSpelledAs kind argument inside) :
      SpelledAs ⟨kind, some argument⟩ (word ++ gap ++ '(' :: (l ++ inside ++ r ++ [')']))

end Modifier

namespace Field

structure WellFormed (f : Field) : Prop where
  identifier : isIdentChars f.name.toList = true
  unreserved : Text.lowercase f.name ∉ reservedWords
  explicit : Text.lowercase f.name ∉ Schema.implicitColumns
  unshadowing : f.name ∉ Schema.codeNames
  kinds : (f.modifiers.map Modifier.kind).Nodup
  modifiers : ∀ m ∈ f.modifiers, m.WellFormed
  /-- What happens when the target is deleted is only said of a field that has a target. -/
  action : .onDelete ∈ f.modifiers.map Modifier.kind →
    f.type = .foreignId ∨ .references ∈ f.modifiers.map Modifier.kind

def SpelledAs (f : Field) (cs : List Char) : Prop :=
  ∃ name type modifiers,
    Text.Padded f.name.toList name ∧
    (∃ word, f.type.SpelledAs word ∧ Text.Padded word type) ∧
    List.Forall₂ (fun m text => ∃ core, m.SpelledAs core ∧ Text.Padded core text) f.modifiers modifiers ∧
    cs = [':'].intercalate (name :: type :: modifiers)

end Field

namespace Schema

structure WellFormed (s : Schema) : Prop where
  names : s.names.Nodup
  fields : ∀ f ∈ s.fields, f.WellFormed

def SpelledAs (s : Schema) (cs : List Char) : Prop :=
  ∃ segments, List.Forall₂ Field.SpelledAs s.fields segments ∧ cs = [','].intercalate segments

end Schema

end CrudScaffold
