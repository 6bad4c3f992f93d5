import CrudScaffold.Artifact.Kind
import CrudScaffold.Proofs.Schema.Accepts
import CrudScaffold.Proofs.Schema.WellFormed

/-!
# The columns of a request

The class of the model is written with columns, and the migration with a call for each column that it creates.  The
declarations of both are read back line by line, each in its own words, and are found to say the same
(`tablesWritten_of_parse`): both say of the column of a field what the field says of it (`Field.tableColumn`).
-/

namespace CrudScaffold

open Source (Arguments Expr Member Statement)

/-! ### Arguments of calls -/

namespace Source.Arguments

/-- The values that stand without a name. -/
def values : Arguments → List Expr
  | nil => []
  | positional e rest => e :: rest.values
  | keyword _ _ rest => rest.values

/-- The value that stands under a name. -/
def keyword? (name : String) : Arguments → Option Expr
  | nil => none
  | positional _ rest => rest.keyword? name
  | keyword other e rest => if name = other then some e else rest.keyword? name

/-- Whether the value under a name is the constant of truth. -/
def sets (name : String) (arguments : Arguments) : Bool :=
  match arguments.keyword? name with
  | some (.literal "True") => true
  | _ => false

theorem values_ofValues_append (es : List Expr) (arguments : Arguments) :
    (ofValues es ++ arguments).values = es ++ arguments.values := by
  induction es with
  | nil => rfl
  | cons e es ih => exact congrArg (e :: ·) ih

theorem values_ofKeywords (settings : List (String × Expr)) : (ofKeywords settings).values = [] := by
  induction settings with
  | nil => rfl
  | cons setting settings ih => exact ih

theorem keyword?_ofValues_append (name : String) (es : List Expr) (arguments : Arguments) :
    (ofValues es ++ arguments).keyword? name = arguments.keyword? name := by
  induction es with
  | nil => rfl
  | cons e es ih => exact ih

end Source.Arguments

/-! ### What a file says of a column -/

/-- A column as it is declared: the class of its type with what the class is called with, the column that it refers
to with the action on deletion, and its settings. -/
structure TableColumn where
  name : String
  type : Option (String × List String)
  reference : Option (String × Option String)
  nullable : Bool
  unique : Bool
  hasDefault : Bool
  deriving DecidableEq, Repr

/-- How a file writes columns: what stands in front of the library's names, and the setting that holds a default. -/
structure ColumnDialect where
  before : String
  default : String

namespace ColumnDialect

/-- The words of the model. -/
def mapped : ColumnDialect := ⟨"", "default"⟩

/-- The words of the migration. -/
def created : ColumnDialect := ⟨"sa.", "server_default"⟩

variable (d : ColumnDialect)

/-- A name of the library on its own. -/
def bare? (dotted : String) : Option String :=
  if Text.startsWith d.before dotted then some (.ofList (dotted.toList.drop d.before.length)) else none

/-- What references are made with. -/
def foreignKey : String :=
  d.before ++ "ForeignKey"

def type? : Expr → Option (String × List String)
  | .path dotted => (d.bare? dotted).map (·, [])
  | .call callee arguments =>
    if callee = d.foreignKey then none else (d.bare? callee).map (·, arguments.texts)
  | _ => none

def reference? : Expr → Option (String × Option String)
  | .call callee (.positional (.quoted target) arguments) =>
    if callee ≠ d.foreignKey then none
    else
      match arguments.keyword? "ondelete" with
      | some (.quoted action) => some (target, some action)
      | _ => some (target, none)
  | _ => none

/-- The column that a call with these arguments declares. -/
def read (name : String) (arguments : Arguments) : TableColumn where
  name := name
  type := arguments.values.findSome? d.type?
  reference := arguments.values.findSome? d.reference?
  nullable := arguments.sets "nullable"
  unique := arguments.sets "unique"
  hasDefault := (arguments.keyword? d.default).isSome

end ColumnDialect

namespace TableColumn

/-- Whether a type is that of a value that may be missing. -/
def isOptional : Expr → Bool
  | .index "Optional" _ => true
  | _ => false

/-- The column that an attribute is mapped to.  An attribute whose type contradicts its column declares none. -/
def ofMember? : Member → Option TableColumn
  | .attribute name (some (.index "Mapped" (.positional hint .nil))) (some (.call "mapped_column" arguments)) =>
    let column := ColumnDialect.mapped.read name arguments
    if isOptional hint = column.nullable then some column else none
  | _ => none

/-- The column that a call adds to a table that is being created. -/
def ofCall? : Expr → Option TableColumn
  | .call "sa.Column" (.positional (.quoted name) arguments) => some (ColumnDialect.created.read name arguments)
  | _ => none

end TableColumn

/-- The statements that create a table with the columns declared. -/
def Source.Statement.creating (table : String) (declarations : List Expr) : List Statement :=
  [.code 0 "op.create_table(", .code 1 ((Expr.quoted table).render ++ ",")] ++
    declarations.map (fun e => .code 1 (e.render ++ ",")) ++ [.code 0 ")"]

/-! ### What a field says of its column -/

namespace Field

/-- The column of a field. -/
def tableColumn (f : Field) : TableColumn where
  name := f.name
  type := some (f.type.columnClass, f.type.columnArguments.texts)
  reference := f.foreignKey?.map fun k => (k.target.table ++ "." ++ k.target.column, k.onDelete)
  nullable := f.isNullable
  unique := f.isUnique
  hasDefault := f.default?.isSome

end Field

namespace ColumnDialect

variable {d : ColumnDialect}

private theorem reference?_foreignKey (k : ForeignKey) :
    d.reference? (k.expr d.foreignKey) = some (k.target.table ++ "." ++ k.target.column, k.onDelete) := by
  obtain ⟨target, action⟩ := k
  have hexpr : (⟨target, action⟩ : ForeignKey).expr d.foreignKey =
      .call d.foreignKey (.positional (.quoted (target.table ++ "." ++ target.column))
        (.ofKeywords (action.toList.map fun words => ("ondelete", .quoted words)))) := rfl
  rw [hexpr, reference?, if_neg (not_not.2 rfl)]
  cases action <;> rfl

/-- A column is read for what its type, its reference and its settings say. -/
private theorem read_arguments {c : Column} {e : Expr} {type : String × List String} (hexpr : c.type = some e)
    (htype : d.type? e = some type) (hother : d.reference? e = none) :
    d.read c.name (c.arguments d.foreignKey) =
      { name := c.name
        type := some type
        reference := c.foreignKey.map fun k => (k.target.table ++ "." ++ k.target.column, k.onDelete)
        nullable := (Arguments.ofKeywords c.settings).sets "nullable"
        unique := (Arguments.ofKeywords c.settings).sets "unique"
        hasDefault := ((Arguments.ofKeywords c.settings).keyword? d.default).isSome } := by
  have hvalues : (c.arguments d.foreignKey).values = e :: c.foreignKey.toList.map (·.expr d.foreignKey) := by
    rw [Column.arguments, Arguments.values_ofValues_append, Arguments.values_ofKeywords, hexpr]
    simp
  have hkeyword (name : String) :
      (c.arguments d.foreignKey).keyword? name = (Arguments.ofKeywords c.settings).keyword? name :=
    Arguments.keyword?_ofValues_append name _ _
  have hreference : (c.arguments d.foreignKey).values.findSome? d.reference? =
      c.foreignKey.map fun k => (k.target.table ++ "." ++ k.target.column, k.onDelete) := by
    rw [hvalues, List.findSome?_cons, hother]
    cases c.foreignKey with
    | none => rfl
    | some k => simp [reference?_foreignKey]
  unfold read Arguments.sets
  simp only [hkeyword, hreference]
  rw [hvalues, List.findSome?_cons, htype]

end ColumnDialect

namespace Field

private theorem isSome_defaultLiteral? (f : Field) : f.defaultLiteral?.isSome = f.default?.isSome := by
  simp [defaultLiteral?]

/-- The class of the model says of the column of a field what the field says of it. -/
theorem read_modelColumn (f : Field) :
    ColumnDialect.mapped.read f.name (f.modelColumn.arguments "ForeignKey") = f.tableColumn := by
  have htype : ColumnDialect.mapped.type? f.type.columnType =
      some (f.type.columnClass, f.type.columnArguments.texts) := by
    cases f.type <;> decide +kernel
  have hother : ColumnDialect.mapped.reference? f.type.columnType = none := by
    cases f.type <;> rfl
  have hread := @ColumnDialect.read_arguments ColumnDialect.mapped f.modelColumn _ _ rfl htype hother
  refine hread.trans ?_
  unfold tableColumn
  rw [← isSome_defaultLiteral?]
  unfold modelColumn
  -- each setting is written or left out
  generalize f.isNullable = nullable
  generalize f.isUnique = unique
  generalize f.isIndexed = indexed
  generalize f.defaultLiteral? = code
  cases nullable <;> cases unique <;> cases indexed <;> cases code <;> rfl

/-- So does the migration. -/
theorem read_migrationColumn (f : Field) :
    ColumnDialect.created.read f.name (f.migrationColumn.arguments "sa.ForeignKey") = f.tableColumn := by
  have htype : ColumnDialect.created.type? (.call ("sa." ++ f.type.columnClass) f.type.columnArguments) =
      some (f.type.columnClass, f.type.columnArguments.texts) := by
    cases f.type <;> decide +kernel
  have hother : ColumnDialect.created.reference? (.call ("sa." ++ f.type.columnClass) f.type.columnArguments) =
      none := by
    cases f.type <;> rfl
  have hread := @ColumnDialect.read_arguments ColumnDialect.created f.migrationColumn _ _ rfl htype hother
  refine hread.trans ?_
  unfold tableColumn
  rw [← isSome_defaultLiteral?]
  unfold migrationColumn
  generalize f.isNullable = nullable
  generalize f.isUnique = unique
  generalize f.defaultLiteral? = code
  cases nullable <;> cases unique <;> cases code <;> rfl

end Field

/-! ### The columns of both files -/

namespace Request

variable {r : Request}

/-- The names of the columns of the table. -/
def columnNames (r : Request) : List String :=
  "id" :: (r.schema.names ++ (["created_at", "updated_at"] ++ if r.softDelete then ["deleted_at"] else []))

/-- The columns that the lines of the model's class are written with, whether or not a later line takes their name. -/
def writtenColumns (r : Request) : List TableColumn :=
  r.modelClass.groups.flatten.filterMap TableColumn.ofMember?

/-- The columns that the migration creates. -/
def createdColumns (r : Request) : List TableColumn :=
  (r.migrationColumns.map Column.declaration).filterMap TableColumn.ofCall?

/-- The members of the class: the name of the table, the columns, the relationships, and the text of a row. -/
theorem modelClass_members (r : Request) : ∃ f : Source.Function, f.name = "__repr__" ∧
    r.modelClass.groups.flatten =
      .value "__tablename__" (.quoted r.table) ::
        (r.modelColumns.map ColumnAttribute.member ++ (r.relationships ++ [.method f])) := by
  refine ⟨⟨[], "__repr__", ["self"], false, some "str",
    [.code 0 ("return f\"<" ++ r.model ++ " id=\x7bself.id!r\x7d>\"")]⟩, rfl, ?_⟩
  unfold modelClass
  cases hempty : r.relationships.isEmpty with
  | true => simp [List.isEmpty_iff.1 hempty]
  | false => simp

/-- What is read of the class without its name, its relationships and its method is read of its columns. -/
theorem filterMap_modelClass {α : Type} {read : Member → Option α}
    (hname : read (.value "__tablename__" (.quoted r.table)) = none)
    (hrelationship : ∀ name model, read (.field name (.of "Mapped" (.quoted model))
      (.call "relationship" (.ofValues [.quoted model]))) = none)
    (hmethod : ∀ f, read (.method f) = none) :
    r.modelClass.groups.flatten.filterMap read = r.modelColumns.filterMap (read ∘ ColumnAttribute.member) := by
  obtain ⟨f, -, hmembers⟩ := r.modelClass_members
  have hrelationships : r.relationships.filterMap read = [] := by
    rw [List.filterMap_eq_nil_iff]
    intro m hm
    obtain ⟨f, -, hf⟩ := List.mem_filterMap.1 hm
    obtain ⟨model, -, rfl⟩ := Option.map_eq_some_iff.1 hf
    exact hrelationship _ _
  rw [hmembers, List.filterMap_cons_none hname, List.filterMap_append, List.filterMap_append, hrelationships,
    List.filterMap_cons_none (hmethod f), List.filterMap_nil, List.append_nil, List.append_nil, List.filterMap_map]

/-- Columns that begin with the key, go on with those of the fields, and end with the times of a row. -/
def IsTable (r : Request) (columns : List TableColumn) : Prop :=
  ∃ key times, columns = key :: (r.fields.map Field.tableColumn ++ times) ∧ key.name = "id" ∧
    times.map (·.name) = ["created_at", "updated_at"] ++ if r.softDelete then ["deleted_at"] else []

theorem IsTable.names {columns : List TableColumn} (h : r.IsTable columns) :
    columns.map (·.name) = r.columnNames := by
  obtain ⟨key, times, rfl, hkey, htimes⟩ := h
  have hfields : (r.fields.map Field.tableColumn).map (·.name) = r.schema.names := List.map_map
  rw [List.map_cons, List.map_append, hkey, hfields, htimes, columnNames]

theorem IsTable.field {columns : List TableColumn} (h : r.IsTable columns) {i : Nat} {f : Field}
    (hf : r.fields[i]? = some f) : columns[i + 1]? = some f.tableColumn := by
  obtain ⟨key, times, rfl, -, -⟩ := h
  have hi := (List.getElem?_eq_some_iff.1 hf).1
  rw [List.getElem?_cons_succ, List.getElem?_append_left (by simpa using hi), List.getElem?_map, hf, Option.map_some]

theorem IsTable.mem_field {columns : List TableColumn} (h : r.IsTable columns) {f : Field} (hf : f ∈ r.fields) :
    f.tableColumn ∈ columns := by
  obtain ⟨i, hi⟩ := List.getElem?_of_mem hf
  exact List.mem_of_getElem? (h.field hi)

private theorem ofMember?_field (f : Field) :
    TableColumn.ofMember? (⟨f.hint, f.modelColumn⟩ : ColumnAttribute).member = some f.tableColumn := by
  have hhint : TableColumn.isOptional f.hint = f.tableColumn.nullable := by
    unfold Field.hint Field.tableColumn
    cases f.isNullable <;> rfl
  change (if TableColumn.isOptional f.hint =
    (ColumnDialect.mapped.read f.name (f.modelColumn.arguments "ForeignKey")).nullable then
      some (ColumnDialect.mapped.read f.name (f.modelColumn.arguments "ForeignKey")) else none) = _
  rw [Field.read_modelColumn, if_pos hhint]

private theorem ofCall?_field (f : Field) :
    TableColumn.ofCall? f.migrationColumn.declaration = some f.tableColumn :=
  congrArg some (Field.read_migrationColumn f)

/-- Declarations that are read one by one make a table if those of the fields are read for what the fields say. -/
private theorem isTable_filterMap {α : Type} {read : α → Option TableColumn} {column : Field → α} {first : α}
    {last : List α} {key : TableColumn} (hfirst : read first = some key) (hkey : key.name = "id")
    (hcolumn : ∀ f, read (column f) = some f.tableColumn)
    (hlast : (last.filterMap read).map (·.name) =
      ["created_at", "updated_at"] ++ if r.softDelete then ["deleted_at"] else []) :
    r.IsTable ((first :: (r.fields.map column ++ last)).filterMap read) := by
  have hfields : (r.fields.map column).filterMap read = r.fields.map Field.tableColumn := by
    rw [List.filterMap_map, ← List.filterMap_eq_map]
    exact List.filterMap_congr fun f _ => hcolumn f
  refine ⟨key, last.filterMap read, ?_, hkey, hlast⟩
  rw [List.filterMap_cons_some hfirst, List.filterMap_append, hfields]

theorem isTable_writtenColumns (r : Request) : r.IsTable r.writtenColumns := by
  rw [writtenColumns, filterMap_modelClass rfl (fun _ _ => rfl) fun _ => rfl, modelColumns, List.append_assoc,
    List.cons_append]
  refine isTable_filterMap rfl rfl ofMember?_field ?_
  cases r.softDelete <;> rfl

theorem isTable_createdColumns (r : Request) : r.IsTable r.createdColumns := by
  rw [createdColumns, List.filterMap_map, migrationColumns, List.append_assoc, List.cons_append]
  refine isTable_filterMap rfl rfl ofCall?_field ?_
  cases r.softDelete <;> rfl

end Request

/-- The action on deletion that both files write is the field's own. -/
theorem Field.WellFormed.onDelete_eq {f : Field} (h : f.WellFormed) :
    f.onDelete = .ok (f.tableColumn.reference.bind Prod.snd) := by
  obtain ⟨action, haction⟩ := h.onDelete_eq_ok
  have hknown : f.knownAction? = action := by rw [Field.knownAction?, haction]
  rw [haction]
  unfold Field.tableColumn Field.foreignKey?
  cases hreference : f.reference? with
  | some target => simp [hknown]
  | none =>
    -- without a reference nothing is written, and the parser has seen to it that there is no action either
    have hforeign : ¬ f.isForeignKey = true := by simp [← h.isSome_reference?, hreference]
    have hmodifier : f.modifier? .onDelete = none := by
      cases hm : f.modifier? .onDelete with
      | none => rfl
      | some m =>
        obtain ⟨hmem, hkind⟩ := Field.mem_of_modifier? hm
        exact absurd (isForeignKey_iff.2 (h.action (hkind ▸ List.mem_map_of_mem hmem))) hforeign
    have hnone : f.onDelete = .ok none := by rw [Field.onDelete, hmodifier]; rfl
    obtain rfl : none = action := Except.ok.inj (hnone.symm.trans haction)
    rfl

namespace Request

/-- The lines of the model's file and those of the migration's file are written for one table. -/
structure TablesWritten (r : Request) (stamp : String) : Prop where
  /-- The model's file holds one class. -/
  mapped : (ArtifactKind.model.artifact stamp r).source.definitions = [.classBody r.modelClass]
  /-- The migration's first function creates the table, and then nothing but indexes. -/
  created : ∃ upgrade downgrade indexes,
    (ArtifactKind.migration.artifact stamp r).source.definitions = [.function upgrade, .function downgrade] ∧
      upgrade.name = "upgrade" ∧
      upgrade.body = Statement.creating r.table (r.migrationColumns.map Column.declaration) ++ indexes ∧
      ∀ s ∈ indexes, ∃ arguments, s = .code 0 (Expr.call "op.create_index" arguments).render
  tableName : Member.value "__tablename__" (.quoted r.table) ∈ r.modelClass.groups.flatten
  writtenNames : r.writtenColumns.map (·.name) = r.columnNames
  createdNames : r.createdColumns.map (·.name) = r.columnNames
  /-- In the place after the key, each field has the same column in both. -/
  fields : ∀ i f, r.fields[i]? = some f →
    r.writtenColumns[i + 1]? = some f.tableColumn ∧ r.createdColumns[i + 1]? = some f.tableColumn
  /-- The action on deletion is a known one, and the one that the field asks for. -/
  actions : ∀ f ∈ r.fields, f.onDelete = .ok (f.tableColumn.reference.bind Prod.snd)

/-- For every schema that is read, both files are written for one table. -/
theorem tablesWritten_of_parse {raw : Option String} {r : Request} (h : Schema.parse raw = .ok r.schema)
    (stamp : String) : r.TablesWritten stamp where
  mapped := rfl
  created := by
    refine ⟨_, _, r.indexedColumns.map fun column => .code 0 (Expr.call "op.create_index" (.ofValues
      [.quoted ("ix_" ++ r.table ++ "_" ++ column), .quoted r.table, .list (.ofValues [.quoted column])])).render,
      rfl, rfl, by rw [Statement.creating, List.map_map]; rfl, ?_⟩
    intro s hs
    obtain ⟨column, -, rfl⟩ := List.mem_map.1 hs
    exact ⟨_, rfl⟩
  tableName := by
    obtain ⟨f, -, hmembers⟩ := r.modelClass_members
    rw [hmembers]
    exact List.mem_cons_self
  writtenNames := r.isTable_writtenColumns.names
  createdNames := r.isTable_createdColumns.names
  fields := fun _ _ hf => ⟨r.isTable_writtenColumns.field hf, r.isTable_createdColumns.field hf⟩
  actions := fun f hf => ((wellFormed_of_parse h).fields f hf).onDelete_eq

end Request

end CrudScaffold
