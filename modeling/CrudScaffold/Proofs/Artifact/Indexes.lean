import CrudScaffold.Proofs.Artifact.Columns

/-!
# The indexes of a table

The class of the model marks the columns that have an index, and the migration creates indexes.  Every index that is
marked is created.  The migration creates some more: for the columns that refer to other tables, and for the moment
of deletion (`indexes_of_parse`).
-/

namespace CrudScaffold

open Source (Arguments ClassBody Expr Member Statement)

/-! ### What the files say of indexes -/

namespace Source

/-- The column that an attribute is mapped to, if it is marked for an index. -/
def Member.marked? : Member → Option String
  | .attribute name _ (some (.call "mapped_column" arguments)) => if arguments.sets "index" then some name else none
  | _ => none

/-- The columns that a class marks for an index. -/
def ClassBody.markedColumns (c : ClassBody) : List String :=
  c.groups.flatten.filterMap Member.marked?

namespace Statement

/-- A statement that creates an index. -/
def CreatesIndex (s : Statement) : Prop :=
  ∃ arguments, s = .code 0 (Expr.call "op.create_index" arguments).render

/-- The statement that creates the index of a column of a table, under the name made of both. -/
def creatingIndex (table column : String) : Statement :=
  .code 0 (Expr.call "op.create_index" (.ofValues
    [.quoted ("ix_" ++ table ++ "_" ++ column), .quoted table, .list (.ofValues [.quoted column])])).render

theorem creatingIndex_injective {table column column' : String}
    (h : creatingIndex table column = creatingIndex table column') : column = column' := by
  have htext (column : String) : creatingIndex table column =
      .code 0 ("op.create_index(\"ix_" ++ table ++ "_" ++ column ++
        ("\", \"" ++ table ++ "\", [\"" ++ column ++ "\"])")) := by
    rw [creatingIndex, Statement.code.injEq, ← String.toList_inj]
    simp [Expr.render, Arguments.texts, Arguments.ofValues]
  rw [htext, htext, Statement.code.injEq, ← String.toList_inj] at h
  simp only [String.toList_append, List.append_assoc, List.append_cancel_left_eq, true_and] at h
  -- the column stands twice in the text, so that equal texts have columns of one length
  have hlength := congrArg List.length h
  simp only [List.length_append] at hlength
  exact String.toList_inj.1 (List.append_inj_left h (by omega))

theorem CreatesIndex.front {depth : Nat} {text : String} (h : (code depth text).CreatesIndex) :
    depth = 0 ∧ "op.create_index(".toList <+: text.toList := by
  obtain ⟨arguments, heq⟩ := h
  obtain ⟨rfl, rfl⟩ := code.inj heq
  refine ⟨rfl, ?_⟩
  rw [Expr.render, String.append_assoc, String.toList_append]
  exact List.prefix_append _ _

/-- What creates a table creates no index. -/
theorem not_createsIndex_of_mem_creating {table : String} {declarations : List Expr} {s : Statement}
    (hs : s ∈ creating table declarations) : ¬ s.CreatesIndex := by
  intro h
  simp only [creating, List.mem_append, List.mem_cons, List.mem_map, List.not_mem_nil, or_false] at hs
  rcases hs with ((rfl | rfl) | ⟨e, -, rfl⟩) | rfl
  · exact absurd h.front.2 (by decide)
  · exact absurd h.front.1 (by decide)
  · exact absurd h.front.1 (by decide)
  · exact absurd h.front.2 (by decide)

/-- Nor does what drops one. -/
theorem not_createsIndex_drop (table : String) :
    ¬ (code 0 (Expr.call "op.drop_table" (.ofValues [.quoted table])).render).CreatesIndex := by
  intro h
  have hfront := h.front.2
  simp [Expr.render] at hfront

end Statement

end Source

namespace Request

variable {r : Request} {stamp column : String}

/-- The class of the model marks the column for an index. -/
def MarksIndex (r : Request) (stamp column : String) : Prop :=
  ∃ c, .classBody c ∈ (ArtifactKind.model.artifact stamp r).source.definitions ∧ column ∈ c.markedColumns

/-- The migration creates the index of the column. -/
def CreatesIndex (r : Request) (stamp column : String) : Prop :=
  ∃ f, .function f ∈ (ArtifactKind.migration.artifact stamp r).source.definitions ∧
    Statement.creatingIndex r.table column ∈ f.body

/-! ### The model -/

private theorem marked?_field (f : Field) :
    (⟨f.hint, f.modelColumn⟩ : ColumnAttribute).member.marked? = if f.isIndexed then some f.name else none := by
  have hsets : (f.modelColumn.arguments "ForeignKey").sets "index" = f.isIndexed := by
    unfold Arguments.sets Column.arguments
    rw [Arguments.keyword?_ofValues_append]
    unfold Field.modelColumn
    generalize f.isNullable = nullable
    generalize f.isUnique = unique
    generalize f.isIndexed = indexed
    generalize f.defaultLiteral? = code
    cases nullable <;> cases unique <;> cases indexed <;> cases code <;> rfl
  change (if (f.modelColumn.arguments "ForeignKey").sets "index" then some f.name else none) = _
  rw [hsets]

/-- Of the members of the class those are marked whose fields ask for it. -/
theorem markedColumns_modelClass (r : Request) :
    r.modelClass.markedColumns = r.fields.filterMap fun f => if f.isIndexed then some f.name else none := by
  have hfields : (r.fields.map fun f => (⟨f.hint, f.modelColumn⟩ : ColumnAttribute)).filterMap
      (Member.marked? ∘ ColumnAttribute.member) =
        r.fields.filterMap fun f => if f.isIndexed then some f.name else none := by
    rw [List.filterMap_map]
    exact List.filterMap_congr fun f _ => marked?_field f
  rw [ClassBody.markedColumns, filterMap_modelClass rfl (fun _ _ => rfl) fun _ => rfl, modelColumns,
    List.append_assoc, List.cons_append, List.filterMap_cons_none rfl, List.filterMap_append, hfields]
  cases r.softDelete <;> exact List.append_nil _

theorem marksIndex_iff : r.MarksIndex stamp column ↔ ∃ f ∈ r.fields, f.isIndexed = true ∧ f.name = column := by
  have hclass : r.MarksIndex stamp column ↔ column ∈ r.modelClass.markedColumns := by
    constructor
    · rintro ⟨c, hc, hcolumn⟩
      cases List.mem_singleton.1 hc
      exact hcolumn
    · exact fun hcolumn => ⟨_, List.mem_singleton.2 rfl, hcolumn⟩
  rw [hclass, markedColumns_modelClass, List.mem_filterMap]
  simp only [Option.ite_none_right_eq_some, Option.some.injEq]

/-! ### The migration -/

/-- What the migration does: it creates the table and its indexes, or drops the table. -/
theorem body_of_migration {f : Source.Function}
    (hf : .function f ∈ (ArtifactKind.migration.artifact stamp r).source.definitions) :
    f.body = Statement.creating r.table (r.migrationColumns.map Column.declaration) ++
        r.indexedColumns.map (Statement.creatingIndex r.table) ∨
      f.body = [.code 0 (Expr.call "op.drop_table" (.ofValues [.quoted r.table])).render] := by
  rcases List.mem_cons.1 hf with heq | hf
  · cases heq
    left
    rw [Statement.creating, List.map_map]
    rfl
  · cases List.mem_singleton.1 hf
    exact Or.inr rfl

/-- Every index that the migration creates is that of a column, under the name made of table and column. -/
theorem exists_index_of_mem {f : Source.Function} {s : Statement}
    (hf : .function f ∈ (ArtifactKind.migration.artifact stamp r).source.definitions) (hs : s ∈ f.body)
    (hindex : s.CreatesIndex) : ∃ column ∈ r.indexedColumns, s = Statement.creatingIndex r.table column := by
  rcases body_of_migration hf with hbody | hbody
  · rw [hbody] at hs
    rcases List.mem_append.1 hs with hs | hs
    · exact absurd hindex (Statement.not_createsIndex_of_mem_creating hs)
    · obtain ⟨column, hcolumn, heq⟩ := List.mem_map.1 hs
      exact ⟨column, hcolumn, heq.symm⟩
  · rw [hbody, List.mem_singleton] at hs
    exact absurd (hs ▸ hindex) (Statement.not_createsIndex_drop r.table)

theorem createsIndex_iff : r.CreatesIndex stamp column ↔ column ∈ r.indexedColumns := by
  constructor
  · rintro ⟨f, hf, hs⟩
    obtain ⟨column', hcolumn, heq⟩ := exists_index_of_mem hf hs ⟨_, rfl⟩
    exact Statement.creatingIndex_injective heq ▸ hcolumn
  · exact fun hcolumn => ⟨_, List.mem_cons_self, List.mem_append_right _ (List.mem_map_of_mem hcolumn)⟩

theorem mem_indexedColumns_iff : column ∈ r.indexedColumns ↔
    (∃ f ∈ r.fields, (f.isIndexed = true ∨ f.isForeignKey = true) ∧ f.name = column) ∨
      r.softDelete = true ∧ column = "deleted_at" := by
  unfold indexedColumns
  rw [List.mem_append]
  refine or_congr ?_ ?_
  · simp only [List.mem_map, List.mem_filter, Bool.or_eq_true, and_assoc]
  · cases r.softDelete <;> simp

/-! ### Both files -/

/-- The indexes that the files of the model and of the migration declare. -/
structure Indexes (r : Request) (stamp : String) : Prop where
  /-- The migration creates no index but that of a column, under the name made of table and column. -/
  named : ∀ f s, .function f ∈ (ArtifactKind.migration.artifact stamp r).source.definitions → s ∈ f.body →
    s.CreatesIndex → ∃ column, r.CreatesIndex stamp column ∧ s = Statement.creatingIndex r.table column
  /-- Besides the indexes that are marked those for references and for the moment of deletion are created. -/
  created : ∀ column, r.CreatesIndex stamp column ↔
    r.MarksIndex stamp column ∨ (∃ f ∈ r.fields, f.isForeignKey = true ∧ f.name = column) ∨
      r.softDelete = true ∧ column = "deleted_at"
  agree_iff : (∀ column, r.CreatesIndex stamp column ↔ r.MarksIndex stamp column) ↔
    r.softDelete = false ∧ ∀ f ∈ r.fields, f.isForeignKey = true → f.isIndexed = true

theorem createsIndex_iff_marksIndex : r.CreatesIndex stamp column ↔
    r.MarksIndex stamp column ∨ (∃ f ∈ r.fields, f.isForeignKey = true ∧ f.name = column) ∨
      r.softDelete = true ∧ column = "deleted_at" := by
  rw [createsIndex_iff, mem_indexedColumns_iff, marksIndex_iff, ← or_assoc, ← exists_or]
  refine or_congr (exists_congr fun f => ?_) Iff.rfl
  rw [or_and_right, and_or_left]

/-- For every schema that is read, the migration creates the indexes that the model marks, those of references, and
that of the moment of deletion.  Both files declare the same indexes only where there are no others. -/
theorem indexes_of_parse {raw : Option String} {r : Request} (h : Schema.parse raw = .ok r.schema) (stamp : String) :
    r.Indexes stamp where
  named f s hf hs hindex := by
    obtain ⟨column, hcolumn, rfl⟩ := exists_index_of_mem hf hs hindex
    exact ⟨column, createsIndex_iff.2 hcolumn, rfl⟩
  created _ := createsIndex_iff_marksIndex
  agree_iff := by
    have hwell := wellFormed_of_parse h
    constructor
    · intro hagree
      refine ⟨?_, fun f hf hforeign => ?_⟩
      · by_contra hsoft
        have hdeleted : r.CreatesIndex stamp "deleted_at" :=
          createsIndex_iff_marksIndex.2 (Or.inr (Or.inr ⟨by simpa using hsoft, rfl⟩))
        obtain ⟨f, hf, -, hname⟩ := marksIndex_iff.1 ((hagree _).1 hdeleted)
        -- no field has the name of a column that every model has
        have hexplicit := (hwell.fields f hf).explicit
        rw [hname] at hexplicit
        exact hexplicit (by decide +kernel)
      · have hcreated : r.CreatesIndex stamp f.name :=
          createsIndex_iff_marksIndex.2 (Or.inr (Or.inl ⟨f, hf, hforeign, rfl⟩))
        obtain ⟨g, hg, hindexed, hname⟩ := marksIndex_iff.1 ((hagree _).1 hcreated)
        obtain rfl := List.inj_on_of_nodup_map hwell.names hg hf hname
        exact hindexed
    · rintro ⟨hsoft, hindexed⟩ column
      rw [createsIndex_iff_marksIndex, marksIndex_iff]
      refine or_iff_left_of_imp ?_
      rintro (⟨f, hf, hforeign, hname⟩ | ⟨hon, -⟩)
      · exact ⟨f, hf, hindexed f hf hforeign, hname⟩
      · exact absurd (hon.symm.trans hsoft) (by decide)

/-- A reference that is marked for an index, one that is not, and another field that is. -/
theorem indexes_of_two_references :
    let owner : Field := ⟨"user_id", .foreignId, []⟩
    let editor : Field := ⟨"editor_id", .foreignId, [⟨.references, some "users"⟩, ⟨.index, none⟩]⟩
    let slug : Field := ⟨"slug", .string, [⟨.index, none⟩]⟩
    let r : Request := ⟨"Post", ⟨fun _ => true⟩, ⟨[owner, editor, slug]⟩, "default", "out", "app"⟩
    Schema.parse (some "user_id:foreign_id, editor_id:foreign_id:references(users):index, slug:string:index") =
        .ok r.schema ∧
      r.Indexes "2024_05_01_123045" := by
  intro owner editor slug r
  have hparse : Schema.parse
      (some "user_id:foreign_id, editor_id:foreign_id:references(users):index, slug:string:index") = .ok r.schema := by
    decide +kernel
  exact ⟨hparse, indexes_of_parse hparse _⟩

/-- A reference gets an index that the model does not mark. -/
theorem not_marksIndex_of_reference :
    ¬ ∀ (raw : Option String) (r : Request) (stamp : String), Schema.parse raw = .ok r.schema →
      ∀ column, r.CreatesIndex stamp column ↔ r.MarksIndex stamp column := by
  intro h
  let owner : Field := ⟨"user_id", .foreignId, []⟩
  let r : Request := ⟨"Post", ⟨fun _ => false⟩, ⟨[owner]⟩, "default", "out", "app"⟩
  have hparse : Schema.parse (some "user_id:foreign_id") = .ok r.schema := by decide +kernel
  have hcreated : r.CreatesIndex "2024_05_01_123045" "user_id" := createsIndex_iff.2 (by decide)
  obtain ⟨f, hf, hindexed, -⟩ := marksIndex_iff.1 ((h _ r _ hparse "user_id").1 hcreated)
  obtain rfl := List.mem_singleton.1 hf
  exact absurd hindexed (by decide)

end Request

end CrudScaffold
