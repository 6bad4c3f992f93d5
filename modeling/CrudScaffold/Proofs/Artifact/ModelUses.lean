import CrudScaffold.Proofs.Artifact.Columns
import CrudScaffold.Proofs.Artifact.Needs
import CrudScaffold.Proofs.Schema.Accepts
import CrudScaffold.Proofs.Schema.Reference
import CrudScaffold.Proofs.Source.References
import CrudScaffold.Proofs.Source.Taken

/-!
# Names that the model uses

What the class of the model refers to and what its file imports are each made up of the same parts: what every model
has, what a field adds by its type, and by being optional or a reference, and what the choices add.  So the names that
the file takes from libraries are those that the class refers to, apart from built-in ones (`takes_model_iff`).
-/

namespace CrudScaffold

open Naming (IsPlain)
open Source (Arguments Expr Imports Member headName isReference lineReferences)

/-! ### Fields -/

namespace Field

variable {f : Field}

/-- What the code for a field's column and its relationship refers to, apart from what it has in common with others. -/
def references (f : Field) : List String :=
  f.hint.names ++ f.type.columnClass :: if f.isForeignKey then ["ForeignKey", "relationship"] else []

theorem names_optional (t : FieldType) :
    (Expr.optional (.path t.valueType)).names = ["Optional", headName t.valueType] :=
  (Source.clear_of (by decide) _).2

theorem isClear_valueType (t : FieldType) :
    (Expr.path t.valueType).isClear = true ∧ (Expr.optional (.path t.valueType)).isClear = true := by
  cases t <;> decide

theorem names_hint (f : Field) :
    f.hint.names = (if f.isNullable then ["Optional"] else []) ++ [headName f.type.valueType] := by
  unfold hint
  split
  · exact names_optional f.type
  · rfl

theorem isClear_hint (f : Field) : f.hint.isClear = true := by
  unfold hint
  split
  · exact (isClear_valueType f.type).2
  · exact (isClear_valueType f.type).1

theorem reads_defaultLiteral {code : String} (h : f.defaultLiteral? = some code) : Source.Reads code.toList [] := by
  obtain ⟨value, -, rfl⟩ := Option.map_eq_some_iff.1 h
  split
  · exact Source.reads_textLiteral value
  · exact Source.reads_literal value

/-- An action that is known has the words of the database. -/
private theorem isClear_knownAction {action : String} (h : f.knownAction? = some action) :
    (Expr.quoted action).isClear = true := by
  have hwords : ∀ p ∈ deleteActions, (Expr.quoted p.2).isClear = true := by decide
  have hok : f.onDelete = .ok (some action) := by
    unfold knownAction? at h
    split at h
    · rename_i heq
      rw [heq, h]
    · cases h
  unfold onDelete at hok
  split at hok
  · simp at hok
  · split at hok
    · rename_i words hlookup
      obtain rfl : words = action := by simpa using hok
      obtain ⟨before, after, hsplit, -⟩ := List.lookup_eq_some_iff.1 hlookup
      exact hwords (_, words) (hsplit ▸ List.mem_append_right _ List.mem_cons_self)
    · cases hok

private theorem isClear_foreignKey (h : f.WellFormed) {k : ForeignKey} (hk : f.foreignKey? = some k) :
    (k.expr "ForeignKey").isClear = true := by
  obtain ⟨target, htarget, rfl⟩ := Option.map_eq_some_iff.1 hk
  have hcallee : isReference "ForeignKey" = true := by decide
  have hquoted : (Expr.quoted (target.table ++ "." ++ target.column)).isClear = true := by
    refine Source.isClear_quoted fun c hc => ?_
    simp only [String.toList_append, List.mem_append] at hc
    rcases hc with (hc | hc) | hc
    · exact Or.inl (h.isPlain_table htarget c hc)
    · exact Or.inr (Or.inr (by simpa using hc))
    · exact Or.inl (forall_isIdentChar (h.isIdentChars_column htarget) c hc)
  have hkeyword : Source.isWord "ondelete" = true := by decide
  rw [ForeignKey.expr, Expr.isClear, Arguments.isClear_append, Arguments.isClear_ofValues, Arguments.isClear_ofKeywords]
  cases haction : f.knownAction? with
  | none => simp [hcallee, hquoted]
  | some action => simp [hcallee, hquoted, hkeyword, isClear_knownAction haction]

private theorem names_foreignKey (k : ForeignKey) : (k.expr "ForeignKey").names = ["ForeignKey"] := by
  have hhead : headName "ForeignKey" = "ForeignKey" := by decide
  rw [ForeignKey.expr, Expr.names, Arguments.names_append, Arguments.names_ofValues, Arguments.names_ofKeywords]
  cases k.onDelete <;> simp [Expr.names, hhead]

/-- The settings of a column are flags and a default. -/
private theorem mem_settings {p : String × Expr} (h : p ∈ f.modelColumn.settings) :
    (p.1 ∈ ["nullable", "unique", "index"] ∧ p.2 = .true) ∨
      ∃ code, f.defaultLiteral? = some code ∧ p = ("default", .literal code) := by
  change p ∈ (if f.isNullable then [("nullable", Expr.true)] else []) ++
    (if f.isUnique then [("unique", Expr.true)] else []) ++ (if f.isIndexed then [("index", Expr.true)] else []) ++
    f.defaultLiteral?.toList.map fun code => ("default", Expr.literal code) at h
  have hflag {name : String} {holds : Bool} (h : p ∈ if holds then [(name, Expr.true)] else []) :
      p.1 = name ∧ p.2 = .true := by
    split at h
    · rw [List.mem_singleton.1 h]
      exact ⟨rfl, rfl⟩
    · cases h
  simp only [List.mem_append, or_assoc] at h
  rcases h with h | h | h | h
  · exact Or.inl ⟨by simp [hflag h], (hflag h).2⟩
  · exact Or.inl ⟨by simp [hflag h], (hflag h).2⟩
  · exact Or.inl ⟨by simp [hflag h], (hflag h).2⟩
  · obtain ⟨code, hcode, rfl⟩ := List.mem_map.1 h
    exact Or.inr ⟨code, Option.mem_toList.1 hcode, rfl⟩

/-- The settings refer to nothing. -/
private theorem names_settings {p : String × Expr} (h : p ∈ f.modelColumn.settings) : p.2.names = [] := by
  rcases mem_settings h with ⟨-, hvalue⟩ | ⟨code, -, rfl⟩
  · rw [hvalue]
    rfl
  · rfl

private theorem isClear_settings {p : String × Expr} (h : p ∈ f.modelColumn.settings) :
    (Source.isWord p.1 && p.2.isClear) = true := by
  have hflags : ∀ name ∈ ["nullable", "unique", "index"], Source.isWord name = true := by decide
  have htrue : Expr.true.isClear = true := by decide
  rcases mem_settings h with ⟨hname, hvalue⟩ | ⟨code, hcode, rfl⟩
  · rw [hvalue, hflags _ hname, htrue]
    rfl
  · have hword : Source.isWord "default" = true := by decide
    simp [Expr.isClear, hword, reads_defaultLiteral hcode]

theorem isClear_columnType (t : FieldType) : t.columnType.isClear = true := by
  cases t <;> decide

theorem names_columnType (t : FieldType) : t.columnType.names = [t.columnClass] := by
  cases t <;> decide

/-- The arguments of a field's column can be read, and refer to the type of the column. -/
private theorem column_clear (h : f.WellFormed) : (f.modelColumn.arguments "ForeignKey").isClear = true := by
  have hsettings : f.modelColumn.settings.all (fun p => Source.isWord p.1 && p.2.isClear) = true :=
    List.all_eq_true.2 fun p hp => isClear_settings hp
  have hexprs : (f.modelColumn.type.toList ++ f.modelColumn.foreignKey.toList.map (·.expr "ForeignKey")).all
      Expr.isClear = true := by
    refine List.all_eq_true.2 fun e he => ?_
    rcases List.mem_append.1 he with he | he
    · obtain rfl : f.type.columnType = e := Option.some.inj (Option.mem_toList.1 he)
      exact isClear_columnType f.type
    · obtain ⟨k, hk, rfl⟩ := List.mem_map.1 he
      exact isClear_foreignKey h (Option.mem_toList.1 hk)
  rw [Column.arguments, Arguments.isClear_append, Arguments.isClear_ofValues, Arguments.isClear_ofKeywords, hsettings,
    hexprs, Bool.and_self]

private theorem column_names (h : f.WellFormed) : (f.modelColumn.arguments "ForeignKey").names =
    f.type.columnClass :: if f.isForeignKey then ["ForeignKey"] else [] := by
  have hsettings : (f.modelColumn.settings.flatMap fun p => p.2.names) = [] :=
    List.flatMap_eq_nil_iff.2 fun p hp => names_settings hp
  have htype : f.modelColumn.type = some f.type.columnType := rfl
  have hkey : f.modelColumn.foreignKey = f.foreignKey? := rfl
  rw [Column.arguments, Arguments.names_append, Arguments.names_ofValues, Arguments.names_ofKeywords, hsettings, htype,
    hkey, foreignKey?, ← h.isSome_reference?]
  cases f.reference? <;> simp [names_columnType, names_foreignKey]

end Field

/-! ### The class of the model -/

namespace Request

variable {r : Request} {name : String}

/-- The attributes that the model has without any fields. -/
private def ownColumns (softDelete : Bool) : List ColumnAttribute :=
  modelColumns ⟨"", ⟨fun c => softDelete && c == .softDelete⟩, ⟨[]⟩, "", "", ""⟩

private theorem mem_modelColumns {a : ColumnAttribute} :
    a ∈ r.modelColumns ↔ a ∈ ownColumns r.softDelete ∨ ∃ f ∈ r.fields, ⟨f.hint, f.modelColumn⟩ = a := by
  have hsoft : ∀ b, softDelete ⟨"", ⟨fun c => b && c == .softDelete⟩, ⟨[]⟩, "", "", ""⟩ = b := by decide
  unfold ownColumns modelColumns
  rw [hsoft]
  simp only [List.cons_append, List.mem_cons, List.mem_append, List.mem_map, List.append_assoc, fields, List.map_nil,
    List.nil_append]
  rw [or_assoc]
  exact or_congr_right or_comm

private theorem references_ownColumns (softDelete : Bool) :
    (ownColumns softDelete).flatMap (fun a => a.member.lines.flatMap lineReferences) =
      ["Mapped", "int", "mapped_column", "Mapped", "dt", "mapped_column", "DateTime", "func", "Mapped", "dt",
        "mapped_column", "DateTime", "func", "func"] ++
      if softDelete then ["Mapped", "Optional", "dt", "mapped_column", "DateTime"] else [] := by
  cases softDelete <;> decide +kernel

/-- The attribute for a field refers to the field's type and to that of its column. -/
private theorem references_field {f : Field} (h : f.WellFormed) :
    (ColumnAttribute.member ⟨f.hint, f.modelColumn⟩).lines.flatMap lineReferences =
      "Mapped" :: f.hint.names ++ "mapped_column" :: f.type.columnClass ::
        if f.isForeignKey then ["ForeignKey"] else [] := by
  have hmapped : isReference "Mapped" = true ∧ headName "Mapped" = "Mapped" := by decide
  have hcolumn : isReference "mapped_column" = true ∧ headName "mapped_column" = "mapped_column" := by decide
  have hmember : ColumnAttribute.member ⟨f.hint, f.modelColumn⟩ = .attribute f.name (some (.of "Mapped" f.hint))
      (some (.call "mapped_column" (f.modelColumn.arguments "ForeignKey"))) := rfl
  rw [hmember, Member.references_attribute h.identifier (Or.inl (by simp))]
  · simp [Member.names, Source.clear_of hmapped, Source.clear_call hcolumn, Field.column_names h]
  · simp [Source.clear_of hmapped, Source.clear_call hcolumn, f.isClear_hint, Field.column_clear h]

/-- A relationship refers to nothing but what makes it one. -/
private theorem references_relationship {f : Field} (h : f.WellFormed) {model : String}
    (hmodel : f.relatedModel? = some model) :
    (Member.field f.relationName (.of "Mapped" (.quoted model))
      (.call "relationship" (.ofValues [.quoted model]))).lines.flatMap lineReferences = ["Mapped", "relationship"] := by
  have hmapped : isReference "Mapped" = true ∧ headName "Mapped" = "Mapped" := by decide
  have hrelationship : isReference "relationship" = true ∧ headName "relationship" = "relationship" := by decide
  have hnone : (Expr.quoted model).names = [] := rfl
  have hquoted : (Expr.quoted model).isClear = true := by
    obtain ⟨target, htarget, -⟩ := Option.map_eq_some_iff.1 hmodel
    rw [Field.relatedModel?_of_reference? htarget] at hmodel
    obtain rfl := Option.some.inj hmodel
    exact Source.isClear_quoted fun c hc => Or.inl (by simp [Text.isIdentChar, Naming.isAlphanum_of_mem_pascal hc])
  rw [Member.field, Member.references_attribute h.isIdentChars_relationName (Or.inl (by simp))]
  · simp [Member.names, Source.clear_of hmapped, Source.clear_call hrelationship, Arguments.names_ofValues, hnone]
  · simp [Source.clear_of hmapped, Source.clear_call hrelationship, Arguments.isClear_ofValues, hquoted]

/-- The text of a row refers to nothing but its own literal. -/
private theorem references_shown (hmodel : IsPlain r.model.toList) :
    lineReferences ("return f\"<" ++ r.model ++ " id=\x7bself.id!r\x7d>\"") = [] := by
  have htext : ("return f\"<" ++ r.model ++ " id=\x7bself.id!r\x7d>\"").toList = "return".toList ++
      (' ' :: ("f".toList ++ '"' :: ('<' :: r.model.toList ++ " id=\x7bself.id!r\x7d>".toList ++ ['"']))) := by
    simp
  have hinner : ∀ c ∈ '<' :: r.model.toList ++ " id=\x7bself.id!r\x7d>".toList, c ≠ '"' ∧ c ≠ '\\' := by
    have hend : (" id=\x7bself.id!r\x7d>".toList.all fun c => decide (c ≠ '"' ∧ c ≠ '\\')) = true := by decide
    intro c hc
    rw [List.cons_append, List.mem_cons, List.mem_append] at hc
    rcases hc with rfl | hc | hc
    · decide
    · constructor <;> rintro rfl <;> exact absurd (hmodel _ hc) (by decide)
    · exact of_decide_eq_true (List.all_eq_true.1 hend c hc)
  have hreturn : isIdentChars "return".toList = true := by decide
  have hformat : isIdentChars "f".toList = true := by decide
  have hblank : Source.isBreak ' ' = true ∧ Source.isWordPart ' ' = false := by decide
  have hliteral := Source.reads_text (Source.isWordPart_of_isIdentChars hformat) (by decide) hinner
  have hread := (by decide : Source.Reads "return".toList []).append (hliteral.cons hblank.1)
    (Source.isBroken_cons (by decide) _)
  rw [← htext] at hread
  rw [Source.lineReferences_of_word htext (Source.isWordPart_of_isIdentChars hreturn) (by simp [hblank.2]) (by simp)
    (by simp [List.isPrefixOf]) (by decide), hread.codeNames_eq, List.append_nil]

/-- The function that shows a row. -/
private def showFunction (r : Request) : Source.Function :=
  ⟨[], "__repr__", ["self"], false, some "str", [.code 0 ("return f\"<" ++ r.model ++ " id=\x7bself.id!r\x7d>\"")]⟩

private theorem references_showFunction (hmodel : IsPlain r.model.toList) :
    name ∈ (r.showFunction.lines 1).flatMap lineReferences ↔ name = "self" ∨ name = "str" := by
  have hname : isIdentChars "__repr__".toList = true := by decide
  have hself : Source.Reads (", ".intercalate ["self"]).toList ["self"] := by decide
  have hstr : Source.Reads "str".toList ["str"] := by decide
  have hline (text : String) : lineReferences ((Source.Statement.code 0 text).line 0) = lineReferences text := by
    rw [Source.Statement.line, Source.lineReferences_indented]
  refine (Source.Function.mem_references_iff (f := r.showFunction) rfl hname hself rfl hstr 1).trans ?_
  unfold showFunction
  simp only [List.flatMap_nil, List.mem_singleton, hline, references_shown hmodel, List.not_mem_nil, or_false, false_or,
    exists_eq_left]

private theorem members_modelClass (r : Request) : r.modelClass.groups.flatten =
    .value "__tablename__" (.quoted r.table) ::
      (r.modelColumns.map ColumnAttribute.member ++ (r.relationships ++ [.method r.showFunction])) := by
  unfold modelClass showFunction
  cases hempty : r.relationships.isEmpty with
  | true => simp [List.isEmpty_iff.1 hempty]
  | false => simp

private theorem references_tableName (r : Request) :
    (Member.value "__tablename__" (.quoted r.table)).lines.flatMap lineReferences = [] := by
  have htable : (Expr.quoted r.table).isClear = true := Source.isClear_quoted fun c hc =>
    Or.inl (Naming.isPlain_plural (Naming.isPlain_snake r.model) c hc)
  have hname : isIdentChars "__tablename__".toList = true := by decide
  rw [Member.value, Member.references_attribute hname (Or.inr (by simp))]
  · rfl
  · simpa using htable

private theorem mem_references_ownColumns {softDelete : Bool} :
    (∃ a ∈ ownColumns softDelete, name ∈ a.member.lines.flatMap lineReferences) ↔
      name = "int" ∨ name ∈ ["Mapped", "mapped_column", "dt", "DateTime", "func"] ∨
        softDelete = true ∧ name = "Optional" := by
  rw [← List.mem_flatMap, references_ownColumns]
  cases softDelete <;> simp <;> tauto

private theorem mem_references_relationships (hschema : r.schema.WellFormed) :
    (∃ m ∈ r.relationships, name ∈ m.lines.flatMap lineReferences) ↔
      ∃ f ∈ r.fields, f.isForeignKey = true ∧ name ∈ ["Mapped", "relationship"] := by
  constructor
  · rintro ⟨m, hm, hname⟩
    obtain ⟨f, hf, hm⟩ := List.mem_filterMap.1 hm
    obtain ⟨model, hrelated, rfl⟩ := Option.map_eq_some_iff.1 hm
    have hwell := hschema.fields f hf
    refine ⟨f, hf, ?_, ?_⟩
    · rw [← hwell.isSome_reference?, ← Option.isSome_map, ← Field.relatedModel?, hrelated, Option.isSome_some]
    · rw [← references_relationship hwell hrelated]
      exact hname
  · rintro ⟨f, hf, hkey, hname⟩
    have hwell := hschema.fields f hf
    obtain ⟨target, htarget⟩ := Option.isSome_iff_exists.1 (hwell.isSome_reference?.trans hkey)
    have hrelated := Field.relatedModel?_of_reference? htarget
    rw [← references_relationship hwell hrelated] at hname
    exact ⟨_, List.mem_filterMap.2 ⟨f, hf, by rw [hrelated]; rfl⟩, hname⟩

private theorem mem_references_members (hschema : r.schema.WellFormed) (hmodel : IsPlain r.model.toList) :
    name ∈ r.modelClass.references ↔
      ((∃ a ∈ ownColumns r.softDelete, name ∈ a.member.lines.flatMap lineReferences) ∨
        ∃ f ∈ r.fields, name ∈ "Mapped" :: f.hint.names ++ "mapped_column" :: f.type.columnClass ::
          if f.isForeignKey then ["ForeignKey"] else []) ∨
      (∃ f ∈ r.fields, f.isForeignKey = true ∧ name ∈ ["Mapped", "relationship"]) ∨ name = "self" ∨ name = "str" := by
  have hcolumns : (∃ f ∈ r.fields, name ∈ (ColumnAttribute.member ⟨f.hint, f.modelColumn⟩).lines.flatMap lineReferences) ↔
      ∃ f ∈ r.fields, name ∈ "Mapped" :: f.hint.names ++ "mapped_column" :: f.type.columnClass ::
        if f.isForeignKey then ["ForeignKey"] else [] :=
    exists_congr fun f => and_congr_right fun hf => by rw [references_field (hschema.fields f hf)]
  rw [← hcolumns, ← mem_references_relationships hschema, Source.ClassBody.mem_references_iff, members_modelClass,
    List.exists_mem_cons_iff, references_tableName]
  simp only [List.not_mem_nil, false_or, List.mem_append, List.mem_map, List.mem_singleton, or_and_right, exists_or,
    ↓existsAndEq, Member.lines, references_showFunction hmodel, mem_modelColumns, and_true, true_and]

/-- What the code of the model's class refers to, by what stands in it in any case, the fields, and the choices. -/
theorem mem_references_modelClass (hschema : r.schema.WellFormed) (hmodel : IsPlain r.model.toList) :
    name ∈ r.modelClass.references ↔
      name ∈ ["int", "str", "self"] ∨ name ∈ ["Mapped", "mapped_column", "dt", "DateTime", "func"] ∨
        (∃ f ∈ r.fields, name ∈ f.references) ∨ r.softDelete = true ∧ name = "Optional" := by
  have hreferences (f : Field) : name ∈ f.references ↔ name ∈ f.hint.names ∨ name = f.type.columnClass ∨
      f.isForeignKey = true ∧ (name = "ForeignKey" ∨ name = "relationship") := by
    unfold Field.references
    cases f.isForeignKey <;> simp
  have hcolumn (f : Field) : (name ∈ "Mapped" :: f.hint.names ++ "mapped_column" :: f.type.columnClass ::
      if f.isForeignKey then ["ForeignKey"] else []) ↔ name = "Mapped" ∨ name ∈ f.hint.names ∨ name = "mapped_column" ∨
        name = f.type.columnClass ∨ f.isForeignKey = true ∧ name = "ForeignKey" := by
    cases f.isForeignKey <;> simp
  rw [mem_references_members hschema hmodel, mem_references_ownColumns]
  simp only [hreferences, hcolumn]
  constructor
  · rintro (((h | h | h) | ⟨f, hf, h⟩) | ⟨f, hf, hkey, h⟩ | h)
    · exact Or.inl (by simp [h])
    · exact Or.inr (Or.inl h)
    · exact Or.inr (Or.inr (Or.inr h))
    · rcases h with rfl | h | rfl | h | ⟨hkey, h⟩
      · exact Or.inr (Or.inl (by decide))
      · exact Or.inr (Or.inr (Or.inl ⟨f, hf, Or.inl h⟩))
      · exact Or.inr (Or.inl (by decide))
      · exact Or.inr (Or.inr (Or.inl ⟨f, hf, Or.inr (Or.inl h)⟩))
      · exact Or.inr (Or.inr (Or.inl ⟨f, hf, Or.inr (Or.inr ⟨hkey, Or.inl h⟩)⟩))
    · rw [List.mem_cons, List.mem_singleton] at h
      rcases h with rfl | h
      · exact Or.inr (Or.inl (by decide))
      · exact Or.inr (Or.inr (Or.inl ⟨f, hf, Or.inr (Or.inr ⟨hkey, Or.inr h⟩)⟩))
    · refine Or.inl (List.mem_of_mem_tail ?_)
      simpa [or_comm] using h
  · rintro (h | h | ⟨f, hf, h | h | ⟨hkey, h | h⟩⟩ | h)
    · rcases List.mem_cons.1 h with h | h
      · exact Or.inl (Or.inl (Or.inl h))
      · exact Or.inr (Or.inr (by simpa [or_comm] using h))
    · exact Or.inl (Or.inl (Or.inr (Or.inl h)))
    · exact Or.inl (Or.inr ⟨f, hf, Or.inr (Or.inl h)⟩)
    · exact Or.inl (Or.inr ⟨f, hf, Or.inr (Or.inr (Or.inr (Or.inl h)))⟩)
    · exact Or.inl (Or.inr ⟨f, hf, Or.inr (Or.inr (Or.inr (Or.inr ⟨hkey, h⟩)))⟩)
    · exact Or.inr (Or.inl ⟨f, hf, hkey, by simp [h]⟩)
    · exact Or.inl (Or.inl (Or.inr (Or.inr h)))

/-! ### What the model's file imports -/

/-- The imports of fields on top of others. -/
private def withColumns (fields : List Field) (imports : Imports) : Imports :=
  fields.foldl (fun imports f =>
    let imports := imports.add "sqlalchemy" f.type.columnClass
    if f.isForeignKey then (imports.add "sqlalchemy" "ForeignKey").add "sqlalchemy.orm" "relationship" else imports)
    imports

/-- The imports of the model's file without those of columns. -/
private def fixedImports (r : Request) : Imports :=
  Source.typeImports false r.fields
    |>.set Source.timeModule []
    |>.set "sqlalchemy" ["DateTime", "func"]
    |>.set "sqlalchemy.orm" ["Mapped", "mapped_column"]
    |>.set r.databaseModule ["Base"]

private theorem modelImports_eq (r : Request) : r.modelImports = if r.softDelete then
    (withColumns r.fields r.fixedImports).add "typing" "Optional" else withColumns r.fields r.fixedImports :=
  rfl

/-- The modules of libraries that the model's file takes names from, or takes as a whole. -/
def modelLibraries : List String :=
  [Source.timeModule, "decimal", "uuid", "typing", "sqlalchemy", "sqlalchemy.orm"]

/-- The names that a model's file may take from libraries, with the modules. -/
def modelNames : List (String × String) :=
  [("dt", Source.timeModule), ("decimal", "decimal"), ("uuid", "uuid"), ("Optional", "typing"),
    ("ForeignKey", "sqlalchemy"), ("func", "sqlalchemy"), ("Mapped", "sqlalchemy.orm"),
    ("mapped_column", "sqlalchemy.orm"), ("relationship", "sqlalchemy.orm")] ++
  FieldType.all.map fun t => (t.columnClass, "sqlalchemy")

/-- The names that are there without being imported, as far as the code of the model refers to them. -/
def builtinNames : List String :=
  ["bool", "dict", "float", "int", "self", "str"]

/-- The names for the columns of every model, with their modules. -/
private def fixedRows : List (String × String) :=
  [("DateTime", "sqlalchemy"), ("func", "sqlalchemy"), ("Mapped", "sqlalchemy.orm"), ("mapped_column", "sqlalchemy.orm")]

/-- The modules of libraries that the model's file takes names from. -/
private def namedModules : List String :=
  ["typing", "sqlalchemy", "sqlalchemy.orm"]

end Request

namespace FieldType

/-- The names that a column of the type takes from modules; `nullable` and `key` say what is known of the field. -/
private def namedRows (t : FieldType) (nullable key : Bool) : List (String × String) :=
  (if nullable then [("Optional", "typing")] else []) ++ (t.columnClass, "sqlalchemy") ::
    if key then [("ForeignKey", "sqlalchemy"), ("relationship", "sqlalchemy.orm")] else []

/-- The name that the module of the type has, with the module. -/
private def moduleRow? (t : FieldType) : Option (String × String) :=
  (Source.typeModules.lookup t.valueType).map fun origin => (headName t.valueType, origin)

/-- They are names of libraries, and are given no other names. -/
private theorem of_mem_namedRows {t : FieldType} {nullable key : Bool} :
    ∀ row ∈ t.namedRows nullable key, row.2 ∈ Request.namedModules ∧ Source.Import.alias? row.1 = none := by
  cases t <;> cases nullable <;> cases key <;> decide

private theorem rows_subset_modelNames {t : FieldType} {nullable key : Bool} :
    ∀ row ∈ t.moduleRow?.toList ++ t.namedRows nullable key, row ∈ Request.modelNames := by
  cases t <;> cases nullable <;> cases key <;> decide

/-- The names that a type and its column refer to are those rows and, for some types, a built-in name. -/
private theorem perm_rows (t : FieldType) (nullable key : Bool) :
    (((if nullable then ["Optional"] else []) ++ [headName t.valueType] ++ t.columnClass ::
      if key then ["ForeignKey", "relationship"] else []).filter (· ∉ Request.builtinNames)).Perm
      ((t.moduleRow?.toList ++ t.namedRows nullable key).map Prod.fst) := by
  cases t <;> cases nullable <;> cases key <;> decide

end FieldType

namespace Field

private def namedRows (f : Field) : List (String × String) :=
  f.type.namedRows f.isNullable f.isForeignKey

/-- The module of a type is imported under the name that the type refers to. -/
theorem of_lookup_typeModules {t : FieldType} {origin : String}
    (h : Source.typeModules.lookup t.valueType = some origin) :
    (origin ∈ Request.modelLibraries ∧ origin ∉ Request.namedModules) ∧
      (Source.Import.mk origin []).binds = [headName t.valueType] := by
  have hmodules : (Source.typeModules.lookup t.valueType).all (fun origin =>
      decide ((origin ∈ Request.modelLibraries ∧ origin ∉ Request.namedModules) ∧
        (Source.Import.mk origin []).binds = [headName t.valueType])) = true := by
    cases t <;> decide
  rw [h] at hmodules
  exact of_decide_eq_true hmodules

end Field

namespace Request

variable {r : Request} {name origin : String} {imports : Imports} {fields : List Field}

private theorem mem_namesOf_withColumns : name ∈ (withColumns fields imports).namesOf origin ↔
    name ∈ imports.namesOf origin ∨ ∃ f ∈ fields, (name = f.type.columnClass ∧ origin = "sqlalchemy") ∨
      f.isForeignKey = true ∧ ((name, origin) = ("ForeignKey", "sqlalchemy") ∨
        (name, origin) = ("relationship", "sqlalchemy.orm")) := by
  refine Source.foldl_iff (P := fun imports => name ∈ Imports.namesOf origin imports) (fun imports f => ?_) fields imports
  dsimp only
  split
  · rename_i hkey
    simp only [Imports.mem_namesOf_add, hkey, Prod.mk.injEq, true_and, or_assoc, and_comm]
  · rename_i hkey
    simp only [Imports.mem_namesOf_add, hkey, Bool.false_eq_true, false_and, or_false, and_comm]

private theorem mem_keys_withColumns : origin ∈ (withColumns fields imports).keys ↔
    origin ∈ imports.keys ∨ ∃ f ∈ fields, origin = "sqlalchemy" ∨ f.isForeignKey = true ∧ origin = "sqlalchemy.orm" := by
  refine Source.foldl_iff (P := fun imports => origin ∈ Entries.keys imports) (fun imports f => ?_) fields imports
  dsimp only
  split
  · rename_i hkey
    simp only [Imports.mem_keys_add, hkey, true_and, or_assoc, or_self_left]
  · rename_i hkey
    simp only [Imports.mem_keys_add, hkey, Bool.false_eq_true, false_and, or_false]

private theorem mem_namesOf_fixedImports (h : origin ≠ r.databaseModule) : name ∈ r.fixedImports.namesOf origin ↔
    (name, origin) ∈ fixedRows ∨ ∃ f ∈ r.fields, f.isNullable = true ∧ (name, origin) = ("Optional", "typing") := by
  simp only [fixedImports, fixedRows, Imports.mem_namesOf_set, if_neg h, Source.Imports.mem_namesOf_typeImports,
    Bool.false_or]
  split
  · rename_i horigin
    subst horigin
    simp
  split
  · rename_i horigin
    subst horigin
    simp
  rename_i horm hcore
  have hrest : (∃ f ∈ r.fields, f.isNullable = true ∧ origin = "typing" ∧ name = "Optional") ↔
      ∃ f ∈ r.fields, f.isNullable = true ∧ (name, origin) = ("Optional", "typing") := by
    simp only [Prod.mk.injEq, and_comm]
  rw [← hrest]
  split
  · rename_i htime
    simp [htime, Source.timeModule]
  · simp [horm, hcore]

private theorem mem_keys_fixedImports : origin ∈ r.fixedImports.keys ↔
    (∃ f ∈ r.fields, Source.typeModules.lookup f.type.valueType = some origin ∨
        f.isNullable = true ∧ origin = "typing") ∨
      origin ∈ [Source.timeModule, "sqlalchemy", "sqlalchemy.orm", r.databaseModule] := by
  simp only [fixedImports, Imports.mem_keys_set, Source.Imports.mem_keys_typeImports, Bool.false_or, List.mem_cons,
    List.not_mem_nil, or_false, or_assoc]

private theorem mem_namesOf_modelImports (h : origin ≠ r.databaseModule) : name ∈ r.modelImports.namesOf origin ↔
    (name, origin) ∈ fixedRows ∨ (∃ f ∈ r.fields, (name, origin) ∈ f.namedRows) ∨
      r.softDelete = true ∧ (name, origin) = ("Optional", "typing") := by
  have hsoft : name ∈ r.modelImports.namesOf origin ↔ name ∈ (withColumns r.fields r.fixedImports).namesOf origin ∨
      r.softDelete = true ∧ (name, origin) = ("Optional", "typing") := by
    rw [modelImports_eq]
    cases r.softDelete <;> simp [Imports.mem_namesOf_add, and_comm]
  have hrows (f : Field) : (name, origin) ∈ f.namedRows ↔ f.isNullable = true ∧ (name, origin) = ("Optional", "typing") ∨
      (name = f.type.columnClass ∧ origin = "sqlalchemy") ∨
        f.isForeignKey = true ∧ ((name, origin) = ("ForeignKey", "sqlalchemy") ∨
          (name, origin) = ("relationship", "sqlalchemy.orm")) := by
    unfold Field.namedRows FieldType.namedRows
    cases f.isNullable <;> cases f.isForeignKey <;> simp
  rw [hsoft, mem_namesOf_withColumns, mem_namesOf_fixedImports h]
  simp only [hrows, and_or_left, exists_or, or_assoc]

private theorem mem_keys_modelImports (h : origin ∉ namedModules) : origin ∈ r.modelImports.keys ↔
    (∃ f ∈ r.fields, Source.typeModules.lookup f.type.valueType = some origin) ∨
      origin = Source.timeModule ∨ origin = r.databaseModule := by
  simp only [namedModules, List.mem_cons, List.not_mem_nil, or_false, not_or] at h
  have hsoft : origin ∈ r.modelImports.keys ↔ origin ∈ (withColumns r.fields r.fixedImports).keys := by
    rw [modelImports_eq]
    cases r.softDelete <;> simp [Imports.mem_keys_add, h]
  rw [hsoft, mem_keys_withColumns, mem_keys_fixedImports]
  simp only [h, List.mem_cons, List.not_mem_nil, and_false, false_or, or_false, exists_false]

private theorem namesOf_eq_nil (h : origin ≠ r.databaseModule) (hnamed : origin ∉ namedModules) :
    r.modelImports.namesOf origin = [] := by
  refine List.eq_nil_iff_forall_not_mem.2 fun name hname => hnamed ?_
  have hfixed : ∀ row ∈ fixedRows, row.2 ∈ namedModules := by decide
  rcases (mem_namesOf_modelImports h).1 hname with hrow | ⟨f, -, hrow⟩ | ⟨-, hrow⟩
  · exact hfixed _ hrow
  · exact (FieldType.of_mem_namedRows _ hrow).1
  · rw [(Prod.mk.inj hrow).2]
    decide

private theorem unnamed_namesOf (h : origin ≠ r.databaseModule) :
    ∀ other ∈ r.modelImports.namesOf origin, Source.Import.alias? other = none := by
  have hfixed : ∀ row ∈ fixedRows, Source.Import.alias? row.1 = none := by decide
  intro other hother
  rcases (mem_namesOf_modelImports h).1 hother with hrow | ⟨f, -, hrow⟩ | ⟨-, hrow⟩
  · exact hfixed _ hrow
  · exact (FieldType.of_mem_namedRows _ hrow).2
  · rw [(Prod.mk.inj hrow).1]
    decide

/-- A module of which names are taken is never taken as a whole. -/
private theorem not_named_of_whole (h : origin ≠ r.databaseModule) (hbinds : r.modelImports.Binds origin name)
    (hnone : r.modelImports.namesOf origin = []) (hname : name ∈ (Source.Import.mk origin []).binds) :
    origin ∉ namedModules := by
  -- the table of all rows has the modules with names, but none of them under its own name
  have htable : ∀ origin ∈ namedModules, ∀ name ∈ (Source.Import.mk origin []).binds,
      (name, origin) ∉ libraryRows := by decide
  intro hnamed
  obtain ⟨names, hnames, -⟩ := hbinds
  obtain rfl : [] = names := by rw [← hnone, Imports.namesOf, hnames, Option.getD_some]
  have hrow : (name, origin) ∈ r.rows [] :=
    ((within_modelImports r).entries (origin, []) (Entries.mem_of_get?_eq_some hnames)).rows name hname
  simp only [rows, foreignRows, List.flatMap_nil, List.append_nil, List.mem_cons, Prod.mk.injEq, h, and_false,
    false_or] at hrow
  exact htable origin hnamed name hname hrow

/-- What the model's file takes from libraries: the names for the columns, and the modules of the fields' types. -/
theorem binds_modelImports_iff (h : origin ≠ r.databaseModule) : r.modelImports.Binds origin name ↔
    (name, origin) = ("dt", Source.timeModule) ∨ (name, origin) ∈ fixedRows ∨
      (∃ f ∈ r.fields, f.type.moduleRow? = some (name, origin) ∨ (name, origin) ∈ f.namedRows) ∨
        r.softDelete = true ∧ (name, origin) = ("Optional", "typing") := by
  have htime : Source.timeModule ∉ namedModules ∧ (Source.Import.mk Source.timeModule []).binds = ["dt"] := by decide
  constructor
  · intro hbinds
    rcases hbinds.cases (unnamed_namesOf h) with hname | ⟨hkey, hnone, hname⟩
    · rcases (mem_namesOf_modelImports h).1 hname with hrow | ⟨f, hf, hrow⟩ | hrow
      · exact Or.inr (Or.inl hrow)
      · exact Or.inr (Or.inr (Or.inl ⟨f, hf, Or.inr hrow⟩))
      · exact Or.inr (Or.inr (Or.inr hrow))
    · have hnamed := not_named_of_whole h hbinds hnone hname
      rcases (mem_keys_modelImports hnamed).1 hkey with ⟨f, hf, hlookup⟩ | rfl | hdatabase
      · obtain ⟨-, hmodule⟩ := Field.of_lookup_typeModules hlookup
        rw [hmodule, List.mem_singleton] at hname
        exact Or.inr (Or.inr (Or.inl ⟨f, hf, Or.inl (by rw [FieldType.moduleRow?, hlookup, hname]; rfl)⟩))
      · rw [htime.2, List.mem_singleton] at hname
        exact Or.inl (by rw [hname])
      · exact absurd hdatabase h
  · have hwhole (hnamed : origin ∉ namedModules) (hkey : origin ∈ r.modelImports.keys)
        (hname : name ∈ (Source.Import.mk origin []).binds) : r.modelImports.Binds origin name :=
      Imports.binds_of_mem_keys hkey (namesOf_eq_nil h hnamed) hname
    have hnames (hname : name ∈ r.modelImports.namesOf origin) : r.modelImports.Binds origin name :=
      Imports.binds_of_mem_namesOf hname (unnamed_namesOf h name hname)
    rintro (hrow | hrow | ⟨f, hf, hrow | hrow⟩ | hrow)
    · obtain ⟨rfl, rfl⟩ := Prod.mk.inj hrow
      exact hwhole htime.1 ((mem_keys_modelImports htime.1).2 (Or.inr (Or.inl rfl))) (by rw [htime.2]; simp)
    · exact hnames ((mem_namesOf_modelImports h).2 (Or.inl hrow))
    · obtain ⟨other, hlookup, hpair⟩ := Option.map_eq_some_iff.1 hrow
      obtain ⟨rfl, rfl⟩ := Prod.mk.inj hpair
      obtain ⟨⟨-, hnamed⟩, hmodule⟩ := Field.of_lookup_typeModules hlookup
      exact hwhole hnamed ((mem_keys_modelImports hnamed).2 (Or.inl ⟨f, hf, hlookup⟩)) (by rw [hmodule]; simp)
    · exact hnames ((mem_namesOf_modelImports h).2 (Or.inr (Or.inl ⟨f, hf, hrow⟩)))
    · exact hnames ((mem_namesOf_modelImports h).2 (Or.inr (Or.inr hrow)))

/-- A field refers to what is imported for it, and to types that need no import. -/
private theorem mem_references_field_iff {f : Field} : name ∈ f.references ∧ name ∉ builtinNames ↔
    ∃ origin, f.type.moduleRow? = some (name, origin) ∨ (name, origin) ∈ f.namedRows := by
  have hnames := (f.type.perm_rows f.isNullable f.isForeignKey).mem_iff (a := name)
  rw [← Field.names_hint, List.mem_filter, decide_eq_true_eq] at hnames
  refine hnames.trans ?_
  rw [List.mem_map]
  constructor
  · rintro ⟨row, hrow, rfl⟩
    exact ⟨row.2, (List.mem_append.1 hrow).imp_left Option.mem_toList.1⟩
  · rintro ⟨origin, hrow⟩
    exact ⟨(name, origin), List.mem_append.2 (hrow.imp_left Option.mem_toList.2), rfl⟩

private theorem ne_of_mem_modelLibraries (h : origin ∈ modelLibraries) :
    origin ≠ "__future__" ∧ origin ≠ r.databaseModule := by
  have hlibrary : ∀ m ∈ modelLibraries, m ≠ "__future__" ∧ m ∈ libraryModules := by decide
  refine ⟨(hlibrary origin h).1, ?_⟩
  rintro rfl
  exact r.databaseModule_not_mem_libraryModules (hlibrary _ h).2

/-- What the libraries are asked for is what the class refers to, without what is there anyway. -/
private theorem binds_iff_references (hschema : r.schema.WellFormed) (hmodel : IsPlain r.model.toList) :
    (∃ origin ∈ modelLibraries, r.modelImports.Binds origin name) ↔
      name ∈ r.modelClass.references ∧ name ∉ builtinNames := by
  have hfixed : ∀ row ∈ ("dt", Source.timeModule) :: fixedRows,
      row.1 ∈ ["Mapped", "mapped_column", "dt", "DateTime", "func"] ∧ row.1 ∉ builtinNames := by decide
  have hrows : ∀ name ∈ ["Mapped", "mapped_column", "dt", "DateTime", "func"],
      ∃ row ∈ ("dt", Source.timeModule) :: fixedRows, row.1 = name ∧ row.2 ∈ modelLibraries := by decide
  rw [mem_references_modelClass hschema hmodel]
  constructor
  · rintro ⟨origin, horigin, hbinds⟩
    rcases (binds_modelImports_iff (ne_of_mem_modelLibraries horigin).2).1 hbinds with
      hrow | hrow | ⟨f, hf, hrow⟩ | ⟨hsoft, hrow⟩
    · have hcommon := hfixed (name, origin) (List.mem_cons.2 (Or.inl hrow))
      exact ⟨Or.inr (Or.inl hcommon.1), hcommon.2⟩
    · have hcommon := hfixed _ (List.mem_cons_of_mem _ hrow)
      exact ⟨Or.inr (Or.inl hcommon.1), hcommon.2⟩
    · obtain ⟨hname, hbuiltin⟩ := mem_references_field_iff.2 ⟨origin, hrow⟩
      exact ⟨Or.inr (Or.inr (Or.inl ⟨f, hf, hname⟩)), hbuiltin⟩
    · obtain rfl := (Prod.mk.inj hrow).1
      exact ⟨Or.inr (Or.inr (Or.inr ⟨hsoft, rfl⟩)), by decide⟩
  · have hbinds {origin : String} (horigin : origin ∈ modelLibraries)
        (hrow : (name, origin) = ("dt", Source.timeModule) ∨ (name, origin) ∈ fixedRows ∨
          (∃ f ∈ r.fields, f.type.moduleRow? = some (name, origin) ∨ (name, origin) ∈ f.namedRows) ∨
            r.softDelete = true ∧ (name, origin) = ("Optional", "typing")) :
        ∃ origin ∈ modelLibraries, r.modelImports.Binds origin name :=
      ⟨origin, horigin, (binds_modelImports_iff (ne_of_mem_modelLibraries horigin).2).2 hrow⟩
    rintro ⟨hname | hname | ⟨f, hf, hname⟩ | ⟨hsoft, rfl⟩, hbuiltin⟩
    · have hnone : ∀ name ∈ ["int", "str", "self"], name ∈ builtinNames := by decide
      exact absurd (hnone name hname) hbuiltin
    · obtain ⟨⟨other, origin⟩, hrow, rfl, horigin⟩ := hrows name hname
      exact hbinds horigin ((List.mem_cons.1 hrow).imp_right Or.inl)
    · obtain ⟨origin, hrow⟩ := mem_references_field_iff.1 ⟨hname, hbuiltin⟩
      have horigin : origin ∈ modelLibraries := by
        rcases hrow with hrow | hrow
        · obtain ⟨other, hlookup, hpair⟩ := Option.map_eq_some_iff.1 hrow
          exact (Prod.mk.inj hpair).2 ▸ (Field.of_lookup_typeModules hlookup).1.1
        · have hnamed : ∀ m ∈ namedModules, m ∈ modelLibraries := by decide
          exact hnamed _ (FieldType.of_mem_namedRows _ hrow).1
      exact hbinds horigin (Or.inr (Or.inr (Or.inl ⟨f, hf, hrow⟩)))
    · exact hbinds (by decide) (Or.inr (Or.inr (Or.inr ⟨hsoft, rfl⟩)))

/-- The model's file takes from libraries the names that its class refers to, apart from the built-in ones. -/
theorem takes_model_iff (hschema : r.schema.WellFormed) (hmodel : IsPlain r.model.toList) :
    (∃ origin ∈ modelLibraries, (Artifact.model r).source.Takes origin name) ↔
      name ∈ r.modelClass.references ∧ name ∉ builtinNames := by
  rw [← binds_iff_references hschema hmodel]
  refine exists_congr fun origin => and_congr_right fun horigin => ?_
  rw [Source.SourceFile.takes_iff (r := r) rfl (within_modelImports r).keys]
  exact or_iff_right fun hfuture => (ne_of_mem_modelLibraries (r := r) horigin).1 hfuture.1

/-- It takes nothing else, but what puts off the evaluation of type hints and what it has from the database's module. -/
theorem mem_modelNames_of_takes (h : (Artifact.model r).source.Takes origin name) :
    (name, origin) ∈ modelNames ∨ origin = "__future__" ∨ origin = r.databaseModule := by
  rw [Source.SourceFile.takes_iff (r := r) rfl (within_modelImports r).keys] at h
  rcases h with ⟨hfuture, -⟩ | hbinds
  · exact Or.inr (Or.inl hfuture)
  by_cases horigin : origin = r.databaseModule
  · exact Or.inr (Or.inr horigin)
  left
  have hfixed : ∀ row ∈ ("dt", Source.timeModule) :: fixedRows, row ∈ modelNames := by decide
  rcases (binds_modelImports_iff horigin).1 hbinds with hrow | hrow | ⟨f, hf, hrow⟩ | ⟨-, hrow⟩
  · exact hfixed _ (List.mem_cons.2 (Or.inl hrow))
  · exact hfixed _ (List.mem_cons_of_mem _ hrow)
  · exact FieldType.rows_subset_modelNames _ (List.mem_append.2 (hrow.imp_left Option.mem_toList.2))
  · rw [hrow]
    decide

end Request

end CrudScaffold
