import CrudScaffold.Schema.Field
import CrudScaffold.Schema.Split
import CrudScaffold.Text.Blank

/-!
# Schemas

A schema is an ordered list of fields, written as `name:type:modifier:…` with commas between the fields. Blanks
around the parts do not count, and the words for types and modifiers may be in any case.

* `Schema.parse` reads a schema, or reports the first thing that is wrong with it;
* an absent or blank text is the schema without fields.
-/

namespace CrudScaffold

structure Schema where
  fields : List Field
  deriving DecidableEq, Repr

/-- What is wrong with a written schema. -/
inductive SchemaFault
  | imbalance (i : Imbalance)
  | emptyField
  | unnamed
  | invalidName (name : String)
  | reservedName (name : String)
  | implicitName (name : String)
  | shadowingName (name : String)
  | repeatedName (name : String)
  | untyped (name : String)
  | unknownType (word : String)
  | emptyModifier
  | malformedModifier (text : String)
  | unknownModifier (word : String)
  | repeatedModifier (kind : ModifierKind)
  | needlessArgument (word : String)
  | missingArgument (word : String)
  | malformedReference (target : String)
  | unknownAction (action : String)
  | strayAction
  deriving DecidableEq, Repr

/-- A fault, and the stretch of text it was found in. -/
structure SchemaError where
  fault : SchemaFault
  near : Option String
  deriving DecidableEq, Repr

def SchemaFault.message : SchemaFault → String
  | imbalance .closed => "unbalanced ')'"
  | imbalance (.quoted quote) => "unterminated " ++ quote.toString ++ " quote"
  | imbalance .opened => "unterminated '('"
  | emptyField => "empty field declaration (check for stray commas)"
  | unnamed => "field has no name"
  | invalidName name => "'" ++ name ++ "' is not a valid field name"
  | reservedName name => "field name '" ++ name ++ "' is reserved by Python"
  | implicitName name => "'" ++ name ++ "' is added to every model automatically"
  | shadowingName name => "field name '" ++ name ++ "' would shadow a name used by the generated code"
  | repeatedName name => "field '" ++ name ++ "' is declared more than once"
  | untyped name => "field '" ++ name ++ "' has no type"
  | unknownType word =>
    "unknown type '" ++ word ++ "' (expected one of: " ++ ", ".intercalate (FieldType.all.map FieldType.word) ++ ")"
  | emptyModifier => "empty modifier"
  | malformedModifier text => "malformed modifier '" ++ text ++ "'"
  | unknownModifier word =>
    "unknown modifier '" ++ word ++ "' (expected one of: " ++
      ", ".intercalate (ModifierKind.all.map ModifierKind.word) ++ ")"
  | repeatedModifier kind => "modifier '" ++ kind.word ++ "' is repeated"
  | needlessArgument word => "'" ++ word ++ "' does not take an argument"
  | missingArgument word => "'" ++ word ++ "' requires an argument"
  | malformedReference target => "references(" ++ target ++ ") must be 'table' or 'table.column'"
  | unknownAction action =>
    "on_delete(" ++ action ++ ") must be one of: " ++ ", ".intercalate (deleteActions.map Prod.fst)
  | strayAction => "on_delete needs a foreign_id type or a references(...) modifier"

def SchemaError.problem (e : SchemaError) : Problem :=
  .schema e.fault.message e.near

namespace Schema

/-- The columns that every model has. -/
def implicitColumns : List String :=
  ["id", "created_at", "updated_at", "deleted_at"]

/-- The names that the generated class bodies refer to. -/
def codeNames : List String :=
  ["str", "int", "float", "bool", "dict", "dt", "decimal", "uuid", "Any", "Dict", "List", "Optional", "Field",
    "ConfigDict", "Mapped", "mapped_column", "relationship", "ForeignKey", "func", "String", "Text", "Integer",
    "BigInteger", "SmallInteger", "Float", "Numeric", "Boolean", "Date", "DateTime", "Time", "JSON", "Uuid"]

/-- Why a text may not name a field, if it may not. -/
def nameFault? (name : String) : Option SchemaFault :=
  if name = "" then some .unnamed
  else if !isIdentifier name then some (.invalidName name)
  else if isReserved reservedWords name then some (.reservedName name)
  else if implicitColumns.contains (Text.lowercase name) then some (.implicitName name)
  else if codeNames.contains name then some (.shadowingName name)
  else none

/-- The type that a word stands for, in any case. -/
def parseType (word : String) : Except SchemaFault FieldType :=
  let key := Text.lowercase word
  match FieldType.aliases.lookup key with
  | some type => .ok type
  | none =>
    match FieldType.ofWord? key with
    | some type => .ok type
    | none => .error (.unknownType word)

/-- A word, and the text in the parentheses after it. -/
structure RawModifier where
  word : String
  argument : Option (List Char)

/-- A word, blanks, and perhaps a text that begins and ends with a parenthesis. -/
def rawModifier? (cs : List Char) : Option RawModifier :=
  let word := cs.takeWhile Text.isIdentChar
  if !isIdentChars word then none
  else
    match (cs.dropWhile Text.isIdentChar).dropWhile Text.isBlank with
    | [] => some ⟨.ofList word, none⟩
    | '(' :: rest => if rest.getLast? = some ')' then some ⟨.ofList word, some rest.dropLast⟩ else none
    | _ => none

/-- A table, or a table and a column with a point between them. -/
def isReference (target : List Char) : Bool :=
  let table := target.takeWhile (· != '.')
  match target.dropWhile (· != '.') with
  | [] => isIdentChars table
  | _ :: column => isIdentChars table && isIdentChars column

def parseModifier (text : List Char) : Except SchemaFault Modifier := do
  if text.isEmpty then throw .emptyModifier
  let some raw := rawModifier? text | throw (.malformedModifier (.ofList text))
  let word := Text.lowercase raw.word
  let some kind := ModifierKind.ofWord? word | throw (.unknownModifier word)
  if kind.isFlag then
    if raw.argument.isSome then throw (.needlessArgument word)
    return ⟨kind, none⟩
  let argument := Text.trim (raw.argument.getD [])
  if argument.isEmpty then throw (.missingArgument word)
  if kind = .references ∧ !isReference argument then throw (.malformedReference (.ofList argument))
  if kind = .onDelete then
    let action := Text.lowercase (.ofList argument)
    if (deleteActions.lookup action).isNone then throw (.unknownAction action)
    return ⟨kind, some action⟩
  return ⟨kind, some (.ofList argument)⟩

/-- Reads the parts of a list one by one. No part may have a key that has been seen. -/
def readDistinct {α β κ ε : Type} [BEq κ] (read : α → Except ε β) (key : β → κ) (repeated : α → β → ε)
    (seen : List κ) : List α → Except ε (List β)
  | [] => .ok []
  | part :: rest => do
    let b ← read part
    if seen.contains (key b) then throw (repeated part b)
    return b :: (← readDistinct read key repeated (key b :: seen) rest)

/-- Reads modifiers of which no two may be of one kind. -/
def parseModifiers : List (List Char) → Except SchemaFault (List Modifier) :=
  readDistinct parseModifier Modifier.kind (fun _ m => .repeatedModifier m.kind) []

/-- Reads a field from its parts: name, type and modifiers, without blanks at their ends. -/
def parseParts (parts : List (List Char)) : Except SchemaFault Field := do
  let name : String := .ofList (parts.headD [])
  if let some fault := nameFault? name then throw fault
  let word := parts.tail.headD []
  if word.isEmpty then throw (.untyped name)
  let type ← parseType (.ofList word)
  let modifiers ← parseModifiers (parts.drop 2)
  let field : Field := ⟨name, type, modifiers⟩
  if field.has .onDelete ∧ !field.isForeignKey then throw .strayAction
  return field

/-- Reads one field. Its faults are reported with the whole text of the field. -/
def parseField (segment : List Char) : Except SchemaError Field :=
  let text := Text.trim segment
  let near : String := .ofList text
  if text.isEmpty then .error ⟨.emptyField, none⟩
  else
    match splitTopLevel ':' text with
    | .error i => .error ⟨.imbalance i, some near⟩
    | .ok parts => (parseParts (parts.map Text.trim)).mapError fun fault => ⟨fault, some near⟩

/-- Reads fields of which no two may have one name. -/
def parseFields : List (List Char) → Except SchemaError (List Field) :=
  readDistinct parseField Field.name (fun segment f => ⟨.repeatedName f.name, some (.ofList (Text.trim segment))⟩) []

/-- Reads a schema; an absent or blank text has no fields. -/
def parse (raw : Option String) : Except SchemaError Schema :=
  match raw with
  | none => .ok ⟨[]⟩
  | some text =>
    if (Text.trim text.toList).isEmpty then .ok ⟨[]⟩
    else
      match splitTopLevel ',' text.toList with
      | .error i => .error ⟨.imbalance i, some (Text.strip text)⟩
      | .ok segments => (parseFields segments).map Schema.mk

def isEmpty (s : Schema) : Bool :=
  s.fields.isEmpty

def names (s : Schema) : List String :=
  s.fields.map (·.name)

def foreignKeys (s : Schema) : List Field :=
  s.fields.filter (·.isForeignKey)

def describe (s : Schema) : String :=
  "<SchemaDefinition " ++ toString s.fields.length ++ " fields>"

end Schema

end CrudScaffold
