import CrudScaffold.Text.Symbol

/-!
# Tokens

The pieces that the text of a document is made of. Indentation has become explicit: collections in block style have
tokens for their start and end.
-/

namespace CrudScaffold.Yaml

inductive Directive
  | version (major : Nat)
  /-- A handle for tags, and what it stands for. -/
  | tag (handle expansion : String)
  | other
  deriving DecidableEq, Repr

inductive Token
  | directive (d : Directive)
  | documentStart
  | documentEnd
  | blockSequenceStart
  | blockMappingStart
  | blockEnd
  | flowSequenceStart
  | flowSequenceEnd
  | flowMappingStart
  | flowMappingEnd
  | blockEntry
  | flowEntry
  | key
  | value
  | anchor (name : String)
  | alias (name : String)
  | tag (handle : Option String) (suffix : String)
  /-- A scalar; `plain` when it is written without quotes and not as a block. -/
  | scalar (text : List Text.Symbol) (plain : Bool)
  deriving DecidableEq, Repr

end CrudScaffold.Yaml
