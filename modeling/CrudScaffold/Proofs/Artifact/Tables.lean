import CrudScaffold.Proofs.Artifact.Attributes
import CrudScaffold.Proofs.Source.Scope

/-!
# The table of a request

The class of the model maps a table, and the migration creates one.  Their lines are written for the same table, but the
class has under each name only what the name was given last, and keeps some names under others.  Both files describe one
table exactly if the class keeps the name of the table and all columns (`tablesAgree_iff`).

What the mapper makes of an attribute that is a column is not followed here, nor which attributes it keeps for itself.
-/

namespace CrudScaffold

open Source (Member mangled)

namespace Source

/-- The text that an attribute is given. -/
def Member.text? : Member → Option String
  | .attribute _ _ (some (.quoted text)) => some text
  | _ => none

/-- The table that a class is mapped to. -/
def ClassBody.tableName? (c : ClassBody) : Option String :=
  (c.scope.get? "__tablename__").bind Member.text?

end Source

/-- The column that a class has under a name. -/
def TableColumn.under? (e : String × Member) : Option TableColumn :=
  (ofMember? e.2).map fun column => { column with name := e.1 }

namespace Request

variable {r : Request} {stamp : String}

/-- The columns that the class of the model has. -/
def mappedColumns (r : Request) : List TableColumn :=
  r.modelClass.scope.filterMap TableColumn.under?

/-- The file of the model and that of the migration describe one table. -/
structure TablesAgree (r : Request) (stamp : String) : Prop extends r.TablesWritten stamp where
  mappedTable : r.modelClass.tableName? = some r.table
  mappedNames : r.mappedColumns.map (·.name) = r.columnNames
  /-- In the place after the key, the class has the column that is written for the field. -/
  mappedFields : ∀ i f, r.fields[i]? = some f → r.mappedColumns[i + 1]? = some f.tableColumn

/-- The relationships by the names under which the class of the model keeps them. -/
def keptRelationNames (r : Request) : List String :=
  r.relationNames.map (mangled r.modelClass.name)

/-- The class of the model keeps the name of the table and all columns. -/
structure KeepsColumns (r : Request) : Prop where
  /-- No field is kept under another name. -/
  plain : ∀ name ∈ r.schema.names, mangled r.modelClass.name name = name
  tableName : "__tablename__" ∉ r.schema.names ∧ "__tablename__" ∉ r.keptRelationNames
  columns : ∀ name ∈ r.columnNames, name ≠ "__repr__" ∧ name ∉ r.keptRelationNames

/-! ### The members of the class -/

private theorem name?_of_ofMember? {m : Member} {column : TableColumn} (h : TableColumn.ofMember? m = some column) :
    m.name? = some column.name := by
  unfold TableColumn.ofMember? at h
  split at h
  · dsimp only at h
    split at h
    · rw [← Option.some.inj h]
      rfl
    · cases h
  · cases h

/-- The members that the class begins with: the name of the table and the columns. -/
private def tableMembers (r : Request) : List Member :=
  [.value "__tablename__" (.quoted r.table)] ++ r.modelColumns.map ColumnAttribute.member

private theorem tableMembers_names (r : Request) :
    r.tableMembers.filterMap Member.name? = "__tablename__" :: r.columnNames := by
  rw [tableMembers, List.filterMap_append, modelColumns_names]
  rfl

/-- The relationships and the text of a row stand behind. -/
private theorem exists_back (h : r.schema.WellFormed) : ∃ back,
    r.modelClass.groups.flatten = r.tableMembers ++ back ∧
    back.filterMap Member.name? = r.relationNames ++ ["__repr__"] ∧
    ∀ m ∈ back, TableColumn.ofMember? m = none ∧ m.text? = none := by
  obtain ⟨f, hf, hmembers⟩ := r.modelClass_members
  refine ⟨r.relationships ++ [.method f], hmembers, ?_, ?_⟩
  · rw [List.filterMap_append, relationships_names h, ← hf]
    rfl
  · intro m hm
    rcases List.mem_append.1 hm with hrelation | hmethod
    · obtain ⟨_, -, hrelated⟩ := List.mem_filterMap.1 hrelation
      obtain ⟨model, -, rfl⟩ := Option.map_eq_some_iff.1 hrelated
      exact ⟨rfl, rfl⟩
    · obtain rfl := List.mem_singleton.1 hmethod
      exact ⟨rfl, rfl⟩

/-- A column that the class has is kept under a name of its own. -/
private theorem exists_scope_of_mem {name : String} (h : name ∈ r.mappedColumns.map (·.name)) :
    ∃ m, (name, m) ∈ r.modelClass.scope ∧ TableColumn.ofMember? m ≠ none := by
  obtain ⟨column, hcolumn, rfl⟩ := List.mem_map.1 h
  obtain ⟨⟨name, m⟩, hmem, hread⟩ := List.mem_filterMap.1 hcolumn
  obtain ⟨written, hwritten, rfl⟩ := Option.map_eq_some_iff.1 hread
  exact ⟨m, hmem, by rw [hwritten]; simp⟩

/-- If both files describe one table, then nothing behind the columns takes their names. -/
private theorem keepsColumns_of_tablesAgree (h : r.schema.WellFormed) (hagree : r.TablesAgree stamp) :
    r.KeepsColumns := by
  obtain ⟨back, hmembers, hnames, hback⟩ := exists_back h
  have hscope (name : String) (hname : name ∈ r.columnNames) :
      ∃ m, (name, m) ∈ r.modelClass.scope ∧ TableColumn.ofMember? m ≠ none :=
    exists_scope_of_mem (hagree.mappedNames ▸ hname)
  have htableName : "__tablename__" ∉ ((r.modelColumns.map ColumnAttribute.member ++ back).filterMap
      Member.name?).map (mangled r.modelClass.name) := by
    obtain ⟨m, hm, htext⟩ := Option.bind_eq_some_iff.1 hagree.mappedTable
    rw [tableMembers, List.append_assoc] at hmembers
    refine Source.not_mem_keys_of_mem_scope hmembers (Entries.mem_of_get?_eq_some hm) fun hmem => ?_
    rcases List.mem_append.1 hmem with hcolumn | hmem
    · obtain ⟨a, -, rfl⟩ := List.mem_map.1 hcolumn
      cases htext
    · rw [(hback m hmem).2] at htext
      cases htext
  have hplain : mangled r.modelClass.name "__tablename__" = "__tablename__" := Source.mangled_of_endsWith (by decide) _
  have htext : mangled r.modelClass.name "__repr__" = "__repr__" := Source.mangled_of_endsWith (by decide) _
  rw [List.filterMap_append, modelColumns_names, hnames, List.map_append, List.map_append] at htableName
  refine ⟨fun name hname => ?_, ⟨fun hname => ?_, fun hname => ?_⟩, fun name hname => ?_⟩
  · obtain ⟨m, hm, -⟩ := hscope name (by simp [columnNames, hname])
    exact Source.mangled_of_mem_scope hm
  · refine htableName (List.mem_append_left _ (List.mem_map.2 ⟨_, ?_, hplain⟩))
    simp [columnNames, hname]
  · exact htableName (List.mem_append_right _ (List.mem_append_left _ hname))
  · obtain ⟨m, hm, hcolumn⟩ := hscope name hname
    have hkept := Source.not_mem_keys_of_mem_scope hmembers hm fun hmem => hcolumn (hback m hmem).1
    rw [hnames, List.map_append, List.mem_append, not_or, List.map_singleton, htext, List.mem_singleton] at hkept
    exact hkept.symm

/-! ### What the class keeps -/

private theorem mangled_of_mem_names (h : r.KeepsColumns) {name : String}
    (hname : name ∈ "__tablename__" :: r.columnNames) : mangled r.modelClass.name name = name := by
  rcases List.mem_cons.1 hname with rfl | hname
  · exact Source.mangled_of_endsWith (by decide) _
  by_cases himplicit : name ∈ Schema.implicitColumns
  · have hfronts : ∀ name ∈ Schema.implicitColumns, Text.startsWith "__" name = false := by decide
    exact Source.mangled_of_not_startsWith (hfronts name himplicit) _
  · exact h.plain name ((mem_columnNames_iff himplicit).1 hname)

/-- What stands behind the columns comes behind them in the class, and is no column. -/
private theorem exists_scope_eq (h : r.schema.WellFormed) (hkeeps : r.KeepsColumns) : ∃ later : Entries String Member,
    r.modelClass.scope = Member.writes r.modelClass.name r.tableMembers ++ later ∧
      later.filterMap TableColumn.under? = [] := by
  obtain ⟨back, hmembers, hnames, hback⟩ := exists_back h
  have hkeys : Entries.keys (Member.writes r.modelClass.name r.tableMembers) = "__tablename__" :: r.columnNames := by
    rw [Member.keys_writes, tableMembers_names, List.map_congr_left fun _ => mangled_of_mem_names hkeeps, List.map_id']
  refine ⟨.ofList (Member.writes r.modelClass.name back), ?_, List.filterMap_eq_nil_iff.2 fun e he => ?_⟩
  · rw [Source.ClassBody.scope, hmembers, Member.writes_append]
    refine Entries.ofList_append ?_ fun e he => ?_
    · rw [hkeys, List.nodup_cons, mem_columnNames_iff (by decide)]
      exact ⟨hkeeps.tableName.1, nodup_columnNames h⟩
    · have hkey : e.1 ∈ Entries.keys (Member.writes r.modelClass.name back) := List.mem_map_of_mem he
      rw [Member.keys_writes, hnames, List.map_append, List.map_singleton, Source.mangled_of_endsWith (by decide),
        List.mem_append, List.mem_singleton] at hkey
      rw [hkeys, List.mem_cons, not_or]
      rcases hkey with hrelation | hrepr
      · exact ⟨fun heq => hkeeps.tableName.2 (heq ▸ hrelation), fun hname => (hkeeps.columns _ hname).2 hrelation⟩
      · rw [hrepr]
        exact ⟨by decide, fun hname => (hkeeps.columns _ hname).1 rfl⟩
  · rw [TableColumn.under?, (hback e.2 (Member.mem_of_mem_writes (Entries.mem_ofList he))).1]
    rfl

/-- What is read of names as they are written is read of the lines. -/
private theorem filterMap_writes {className : String} {members : List Member}
    (h : ∀ m ∈ members, ∀ column, TableColumn.ofMember? m = some column → mangled className column.name = column.name) :
    (Member.writes className members).filterMap TableColumn.under? = members.filterMap TableColumn.ofMember? := by
  rw [Member.writes, List.filterMap_filterMap]
  refine List.filterMap_congr fun m hm => ?_
  cases hread : TableColumn.ofMember? m with
  | none => cases hname : m.name? <;> simp [TableColumn.under?, hread]
  | some column => simp [TableColumn.under?, hread, name?_of_ofMember? hread, h m hm column hread]

/-- A class that keeps its columns has them as they are written. -/
private theorem mappedColumns_eq (h : r.schema.WellFormed) (hkeeps : r.KeepsColumns) :
    r.mappedColumns = r.writtenColumns := by
  obtain ⟨later, hscope, hlater⟩ := exists_scope_eq h hkeeps
  obtain ⟨back, hmembers, -, hback⟩ := exists_back h
  have hown (m : Member) (hm : m ∈ r.tableMembers) (column : TableColumn)
      (hread : TableColumn.ofMember? m = some column) : mangled r.modelClass.name column.name = column.name := by
    refine mangled_of_mem_names hkeeps ?_
    rw [← tableMembers_names]
    exact List.mem_filterMap.2 ⟨m, hm, name?_of_ofMember? hread⟩
  rw [mappedColumns, writtenColumns, hscope, hmembers, List.filterMap_append, List.filterMap_append, hlater,
    filterMap_writes hown, List.filterMap_eq_nil_iff.2 fun m hm => (hback m hm).1]

private theorem tableName?_eq (h : r.schema.WellFormed) (hkeeps : r.KeepsColumns) :
    r.modelClass.tableName? = some r.table := by
  obtain ⟨later, hscope, -⟩ := exists_scope_eq h hkeeps
  have hfirst : (mangled r.modelClass.name "__tablename__", Member.value "__tablename__" (.quoted r.table)) ∈
      r.modelClass.scope := by
    rw [hscope]
    exact List.mem_append_left _ List.mem_cons_self
  rw [mangled_of_mem_names hkeeps List.mem_cons_self] at hfirst
  rw [Source.ClassBody.tableName?, Source.get?_of_mem_scope hfirst]
  rfl

/-- For every schema that is read, the lines of both files are written for one table.  Both files describe one table if
and only if the class of the model keeps the name of the table and all columns: no field, and no relationship that
stands behind, has a name that the class sets for itself or changes, or that of a column. -/
theorem tablesAgree_iff {raw : Option String} {r : Request} (h : Schema.parse raw = .ok r.schema) (stamp : String) :
    r.TablesWritten stamp ∧ (r.TablesAgree stamp ↔ r.KeepsColumns) := by
  have hwell := wellFormed_of_parse h
  have hwritten := tablesWritten_of_parse h stamp
  refine ⟨hwritten, keepsColumns_of_tablesAgree hwell, fun hkeeps => ⟨hwritten, tableName?_eq hwell hkeeps, ?_, ?_⟩⟩
  · rw [mappedColumns_eq hwell hkeeps]
    exact hwritten.writtenNames
  · rw [mappedColumns_eq hwell hkeeps]
    exact fun i f hf => (hwritten.fields i f hf).1

theorem tablesAgree_of_cascade :
    let owner : Field := ⟨"user_id", .foreignId, [⟨.onDelete, some "cascade"⟩, ⟨.nullable, none⟩]⟩
    let title : Field := ⟨"title", .string, [⟨.default, some "New"⟩, ⟨.unique, none⟩]⟩
    let r : Request := ⟨"Post", ⟨fun _ => true⟩, ⟨[owner, title]⟩, "default", "out", "app"⟩
    Schema.parse (some "user_id:foreign_id:on_delete(CASCADE):nullable, title:str:default(New):unique") =
        .ok r.schema ∧
      r.TablesAgree "2024_05_01_123045" := by
  intro owner title r
  have hparse : Schema.parse (some "user_id:foreign_id:on_delete(CASCADE):nullable, title:str:default(New):unique") =
      .ok r.schema := by
    decide +kernel
  have hkeeps : r.KeepsColumns := ⟨by decide +kernel, by decide +kernel, by decide +kernel⟩
  exact ⟨hparse, (tablesAgree_iff hparse _).2.2 hkeeps⟩

/-- A relationship takes the name of a column, a column that of the table's name, and the class keeps a column under
another name.  The migration creates the column each time. -/
theorem not_tablesAgree_of_owner :
    let owned : Request := ⟨"Post", ⟨fun _ => false⟩, ⟨[⟨"user_id", .foreignId, []⟩, ⟨"user", .string, []⟩]⟩,
      "default", "out", "app"⟩
    let named : Request := ⟨"Post", ⟨fun _ => false⟩, ⟨[⟨"__tablename__", .string, []⟩]⟩, "default", "out", "app"⟩
    let kept : Request := ⟨"Post", ⟨fun _ => false⟩, ⟨[⟨"__secret", .string, []⟩]⟩, "default", "out", "app"⟩
    (Schema.parse (some "user_id:foreign_id,user:string") = .ok owned.schema ∧
        owned.mappedColumns.map (·.name) = ["id", "user_id", "created_at", "updated_at"] ∧
        owned.createdColumns.map (·.name) = ["id", "user_id", "user", "created_at", "updated_at"] ∧
        ¬ owned.TablesAgree "2024_05_01_123045") ∧
      (Schema.parse (some "__tablename__:string") = .ok named.schema ∧ named.modelClass.tableName? = none ∧
        ¬ named.TablesAgree "2024_05_01_123045") ∧
      Schema.parse (some "__secret:string") = .ok kept.schema ∧
        kept.mappedColumns.map (·.name) = ["id", "_Post__secret", "created_at", "updated_at"] ∧
        ¬ kept.TablesAgree "2024_05_01_123045" := by
  intro owned named kept
  have howned : owned.mappedColumns.map (·.name) = ["id", "user_id", "created_at", "updated_at"] := by decide +kernel
  have hnamed : named.modelClass.tableName? = none := by decide +kernel
  have hkept : kept.mappedColumns.map (·.name) = ["id", "_Post__secret", "created_at", "updated_at"] := by
    decide +kernel
  refine ⟨⟨by decide +kernel, howned, by decide +kernel, fun h => ?_⟩, ⟨by decide +kernel, hnamed, fun h => ?_⟩,
    by decide +kernel, hkept, fun h => ?_⟩
  · exact absurd (howned.symm.trans h.mappedNames) (by decide +kernel)
  · cases hnamed.symm.trans h.mappedTable
  · exact absurd (hkept.symm.trans h.mappedNames) (by decide +kernel)

end Request

end CrudScaffold
