import CrudScaffold.Fault
import CrudScaffold.Identifier
import CrudScaffold.Schema.FieldType
import CrudScaffold.Schema.Modifier

/-!
# Fields

A field of a schema, and what follows from its name, type and modifiers: whether it refers to another table, which
one, and what the relationship is called.
-/

namespace CrudScaffold

structure Field where
  name : String
  type : FieldType
  modifiers : List Modifier
  deriving DecidableEq, Repr

/-- A column of another table. -/
structure Reference where
  table : String
  column : String
  deriving DecidableEq, Repr

namespace Field

/-- The first modifier of a kind. -/
def modifier? (f : Field) (kind : ModifierKind) : Option Modifier :=
  f.modifiers.find? fun m => decide (m.kind = kind)

def has (f : Field) (kind : ModifierKind) : Bool :=
  (f.modifier? kind).isSome

def isNullable (f : Field) : Bool := f.has .nullable

def isUnique (f : Field) : Bool := f.has .unique

def isIndexed (f : Field) : Bool := f.has .index

def default? (f : Field) : Option String :=
  (f.modifier? .default).bind (·.argument)

/-- Whether the field refers to another table: by its type or by a modifier. -/
def isForeignKey (f : Field) : Bool :=
  f.type == .foreignId || f.has .references

/-! ### References -/

/-- The name without `_id` at its end, if it ends so. -/
def withoutId? (name : String) : Option String :=
  if Text.endsWith "_id" name then some (.ofList (name.toList.take (name.length - 3))) else none

/-- The table and the column that a written reference names; the column is `id` when it is left out. -/
def referenceOf (target : String) : Reference :=
  let table := target.toList.takeWhile (· != '.')
  let column := (target.toList.dropWhile (· != '.')).drop 1
  ⟨.ofList table, if column.isEmpty then "id" else .ofList column⟩

/-- What the field refers to: what its modifier says, or else the plural of its name without `_id`. -/
def reference? (f : Field) : Option Reference :=
  match (f.modifier? .references).bind (·.argument) with
  | some target => if target ≠ "" then some (referenceOf target) else byName
  | none => byName
where
  byName : Option Reference :=
    if f.type = .foreignId then some ⟨Naming.plural ((withoutId? f.name).getD f.name), "id"⟩ else none

/-- The action on deletion in the words of the database; an action that is not known is handed back. -/
def onDelete (f : Field) : Except String (Option String) :=
  match (f.modifier? .onDelete).bind (·.argument) with
  | none => .ok none
  | some action =>
    match deleteActions.lookup action with
    | some words => .ok (some words)
    | none => .error action

/-- The name without `_id`, if something is left of it. -/
def stem? (f : Field) : Option String :=
  (withoutId? f.name).filter (· ≠ "")

/-- The attribute that holds the row referred to. -/
def relationName (f : Field) : String :=
  match f.stem? with
  | some stem => stem
  | none =>
    match f.reference? with
    | some r => r.table ++ "_ref"
    | none => f.name ++ "_ref"

/-- The class of the rows referred to. -/
def relatedModel? (f : Field) : Option String :=
  f.reference?.map fun r =>
    match f.stem? with
    | some stem => Naming.pascal stem
    | none => Naming.pascal (if Text.endsWith "s" r.table then .ofList r.table.toList.dropLast else r.table)

/-! ### In words -/

/-- The type of the attribute; `Optional` when the field may be null. -/
def hint (f : Field) : Source.Expr :=
  if f.isNullable then .optional (.path f.type.valueType) else .path f.type.valueType

def labels (f : Field) : List String :=
  f.modifiers.map Modifier.label

def describe (f : Field) : String :=
  let modifiers := ":".intercalate f.labels
  "<Field " ++ f.name ++ ":" ++ f.type.word ++ (if modifiers = "" then "" else ":" ++ modifiers) ++ ">"

/-! ### From loose data -/

def checkName (v : Value) : Checked String :=
  match v.checkNonemptyText with
  | .error kind => .error [.field "name" kind]
  | .ok name =>
    if !isIdentifier name then
      .error [.field "name" (.rejected ("'" ++ name ++ "' is not a valid identifier"))]
    else if isReserved reservedWords name then
      .error [.field "name" (.rejected ("'" ++ name ++ "' is a reserved word"))]
    else .ok name

/-- One of a few words. -/
def checkWord {α : Type} (ofWord? : String → Option α) (name : String) : Value → Checked α
  | .scalar (.text w) =>
    match ofWord? w with
    | some a => .ok a
    | none => .error [.field name .notMember]
  | _ => .error [.field name .notMember]

def checkModifier (kind argument : Value) : Checked Modifier :=
  let argument : Checked (Option String) :=
    if argument.isNull then .ok none
    else (argument.checkText.map some).mapError fun e => [.field "argument" e]
  (Checked.both (checkWord ModifierKind.ofWord? "kind" kind) argument).map fun p => ⟨p.1, p.2⟩

/-- A field from values that were given separately. Its modifiers need not be ones that a schema could hold. -/
def ofValues (name type : Value) (modifiers : List (Value × Value)) : Checked Field :=
  let modifiers := Checked.under (.key (.text "modifiers")) <|
    Checked.all (fun p => Checked.under (.index p.2) (checkModifier p.1.1 p.1.2)) modifiers.zipIdx
  (Checked.both (Checked.both (checkName name) (checkWord FieldType.ofWord? "field_type" type)) modifiers).map
    fun p => ⟨p.1.1, p.1.2, p.2⟩

end Field

end CrudScaffold
