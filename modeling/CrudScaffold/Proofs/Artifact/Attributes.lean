import CrudScaffold.Proofs.Artifact.Columns

/-!
# Attributes of generated classes

The parser keeps the fields of a schema apart from each other and from the columns that every model has.  It does not
look at the relationships, which are named after fields and tables, nor at the names that a class sets for its own
use.  So a class declares an attribute twice exactly when a field or a relationship takes one of these names
(`declaresOnce_iff`), and such schemas are read without a complaint (`not_declaresOnce`).

Names are compared as they are written.  Under which names a class keeps them, so that two of them may meet that are
written differently, is told in `CrudScaffold.Proofs.Source.Scope`.
-/

namespace CrudScaffold

open Source (Member)

/-- No class in a file of this kind declares an attribute twice, by the names that are written. -/
def ArtifactKind.DeclaresOnce (k : ArtifactKind) (stamp : String) (r : Request) : Prop :=
  ∀ c, .classBody c ∈ (k.artifact stamp r).source.definitions → c.attributes.Nodup

namespace Request

variable {r : Request}

/-- The relationships of the model's class by name. -/
def relationNames (r : Request) : List String :=
  r.schema.foreignKeys.map Field.relationName

/-- Fields keep clear of what the model's class sets for itself, and relationships of everything in it. -/
structure AttributesApart (r : Request) : Prop where
  fields : "__tablename__" ∉ r.schema.names ∧ "__repr__" ∉ r.schema.names
  relations : r.relationNames.Nodup
  clear : ∀ name ∈ r.relationNames, name ∉ "__tablename__" :: "__repr__" :: r.columnNames

/-! ### The attributes of each class -/

private theorem fields_names {member : Field → Member} (h : ∀ f, (member f).name? = some f.name) :
    (r.fields.map member).filterMap Member.name? = r.schema.names := by
  rw [List.filterMap_map, Schema.names, ← List.filterMap_eq_map]
  exact List.filterMap_congr fun f _ => h f

theorem modelColumns_names (r : Request) :
    (r.modelColumns.map ColumnAttribute.member).filterMap Member.name? = r.columnNames := by
  have hfields : ((r.fields.map fun f => (⟨f.hint, f.modelColumn⟩ : ColumnAttribute)).map
      ColumnAttribute.member).filterMap Member.name? = r.schema.names := by
    rw [List.map_map]
    exact fields_names fun _ => rfl
  rw [modelColumns, List.append_assoc, List.cons_append, List.map_cons, List.map_append, List.filterMap_cons,
    List.filterMap_append, hfields]
  unfold columnNames
  cases r.softDelete <;> rfl

/-- There is a relationship for every reference. -/
theorem relationships_names (h : r.schema.WellFormed) :
    r.relationships.filterMap Member.name? = r.relationNames := by
  unfold relationships relationNames Schema.foreignKeys
  rw [List.filterMap_filterMap, ← List.filterMap_eq_map, List.filterMap_filter]
  refine List.filterMap_congr fun f hf => ?_
  -- a relationship is left out when there is no class to refer to, which a well-formed reference always has
  have hmodel : f.relatedModel?.isSome = f.isForeignKey := by
    rw [← (h.fields f hf).isSome_reference?, Field.relatedModel?, Option.isSome_map]
  cases hrelated : f.relatedModel? with
  | none => simp [← hmodel, hrelated]
  | some model =>
    simp only [← hmodel, hrelated]
    rfl

theorem modelClass_attributes (h : r.schema.WellFormed) :
    r.modelClass.attributes = "__tablename__" :: (r.columnNames ++ (r.relationNames ++ ["__repr__"])) := by
  obtain ⟨f, hf, hmembers⟩ := r.modelClass_members
  have hrest : ([.method f] : List Member).filterMap Member.name? = ["__repr__"] := by
    rw [← hf]
    rfl
  have hfirst : (Member.value "__tablename__" (.quoted r.table)).name? = some "__tablename__" := rfl
  rw [Source.ClassBody.attributes, hmembers, List.filterMap_cons_some hfirst, List.filterMap_append,
    List.filterMap_append, modelColumns_names, relationships_names h, hrest]

theorem bodyClass_attributes (r : Request) (action : BodyAction) :
    (r.bodyClass action).attributes = "model_config" :: r.schema.names := by
  have hmembers : (r.bodyClass action).groups.flatten.tail = r.fields.map (·.bodyMember action) := by
    unfold bodyClass
    cases hempty : r.fields.isEmpty with
    | true => simp [List.isEmpty_iff.1 hempty]
    | false => simp
  have hfields : (r.fields.map (·.bodyMember action)).filterMap Member.name? = r.schema.names :=
    fields_names fun f => by cases action <;> rfl
  rw [← hfields, ← hmembers]
  rfl

theorem resourceClass_attributes (r : Request) : r.resourceClass.attributes = "model_config" :: r.columnNames := by
  have hfields : (r.fields.map fun f => Member.typed f.name f.hint).filterMap Member.name? = r.schema.names :=
    fields_names fun _ => rfl
  unfold Source.ClassBody.attributes resourceClass columnNames
  rw [List.flatten_cons, List.flatten_singleton, List.filterMap_append, List.filterMap_append,
    List.filterMap_append, List.filterMap_append, hfields, List.append_assoc]
  cases r.softDelete <;> rfl

/-! ### When they are distinct -/

private theorem not_mem_implicitColumns (h : r.schema.WellFormed) {name : String} (hname : name ∈ r.schema.names) :
    name ∉ Schema.implicitColumns := by
  have hlower : ∀ column ∈ Schema.implicitColumns, Text.lowercase column = column := by decide +kernel
  obtain ⟨f, hf, rfl⟩ := List.mem_map.1 hname
  intro himplicit
  exact (h.fields f hf).explicit ((hlower f.name himplicit).symm ▸ himplicit)

theorem nodup_columnNames (h : r.schema.WellFormed) : r.columnNames.Nodup := by
  have hother := fun name (hname : name ∈ r.schema.names) => not_mem_implicitColumns h hname
  obtain ⟨times, htimes⟩ : ∃ times, times = ["created_at", "updated_at"] ++
      if r.softDelete then ["deleted_at"] else [] := ⟨_, rfl⟩
  have hdistinct : ("id" :: times).Nodup ∧ ∀ name ∈ "id" :: times, name ∈ Schema.implicitColumns := by
    rw [htimes]
    cases r.softDelete <;> decide
  obtain ⟨hnodup, himplicit⟩ := hdistinct
  rw [columnNames, ← htimes, List.nodup_cons, List.mem_append, not_or, List.nodup_append]
  refine ⟨⟨fun hid => hother _ hid (himplicit _ (by simp)), (List.nodup_cons.1 hnodup).1⟩, h.names,
    (List.nodup_cons.1 hnodup).2, ?_⟩
  rintro name hname _ htime rfl
  exact hother name hname (himplicit name (by simp [htime]))

theorem mem_columnNames_iff {name : String} (h : name ∉ Schema.implicitColumns) :
    name ∈ r.columnNames ↔ name ∈ r.schema.names := by
  simp only [Schema.implicitColumns, List.mem_cons, List.not_mem_nil, or_false, not_or] at h
  unfold columnNames
  cases r.softDelete <;> simp [h]

theorem nodup_modelClass_iff (h : r.schema.WellFormed) :
    r.modelClass.attributes.Nodup ↔ r.AttributesApart := by
  have htable : "__tablename__" ∈ r.columnNames ↔ "__tablename__" ∈ r.schema.names :=
    mem_columnNames_iff (by decide)
  have htext : "__repr__" ∈ r.columnNames ↔ "__repr__" ∈ r.schema.names := mem_columnNames_iff (by decide)
  -- `__tablename__` stands in front of everything and `__repr__` behind it, with the columns and relationships between
  rw [modelClass_attributes h, List.nodup_cons, List.nodup_append, List.nodup_append]
  constructor
  · rintro ⟨hfirst, -, ⟨hrelations, -, hlast⟩, hclear⟩
    simp only [List.mem_append, List.mem_singleton, not_or] at hfirst hlast hclear
    refine ⟨⟨mt htable.2 hfirst.1, fun hmem => hclear _ (htext.2 hmem) _ (Or.inr rfl) rfl⟩, hrelations, ?_⟩
    intro name hname
    simp only [List.mem_cons, not_or]
    refine ⟨?_, fun heq => hlast name hname _ rfl heq, fun hmem => hclear name hmem name (Or.inl hname) rfl⟩
    rintro rfl
    exact hfirst.2.1 hname
  · rintro ⟨⟨htable', htext'⟩, hrelations, hclear⟩
    simp only [List.mem_cons, not_or] at hclear
    simp only [List.mem_append, List.mem_singleton, not_or]
    refine ⟨⟨mt htable.1 htable', fun hmem => (hclear _ hmem).1 rfl, by decide⟩, nodup_columnNames h,
      ⟨hrelations, by simp, ?_⟩, ?_⟩
    · rintro name hname _ rfl rfl
      exact (hclear _ hname).2.1 rfl
    · rintro name hname _ (hmem | rfl) rfl
      · exact (hclear name hmem).2.2 hname
      · exact htext' (htext.1 hname)

theorem nodup_bodyClass_iff (h : r.schema.WellFormed) (action : BodyAction) :
    (r.bodyClass action).attributes.Nodup ↔ "model_config" ∉ r.schema.names := by
  rw [bodyClass_attributes, List.nodup_cons]
  exact and_iff_left h.names

theorem nodup_resourceClass_iff (h : r.schema.WellFormed) :
    r.resourceClass.attributes.Nodup ↔ "model_config" ∉ r.schema.names := by
  rw [resourceClass_attributes, List.nodup_cons, mem_columnNames_iff (by decide)]
  exact and_iff_left (nodup_columnNames h)

end Request

/-! ### Files -/

/-- Of a schema that is read, the model declares every attribute once exactly when the relationships and its own names
are kept apart from the fields, and the bodies and the resource exactly when no field is called `model_config`. -/
theorem declaresOnce_iff {raw : Option String} {r : Request} (h : Schema.parse raw = .ok r.schema) (stamp : String) :
    (ArtifactKind.model.DeclaresOnce stamp r ↔ r.AttributesApart) ∧
      ∀ k ∈ [ArtifactKind.createRequest, .updateRequest, .resource],
        k.DeclaresOnce stamp r ↔ "model_config" ∉ r.schema.names := by
  have hwell := wellFormed_of_parse h
  have hbody (action : BodyAction) :
      (∀ c, .classBody c ∈ (Artifact.body action r).source.definitions → c.attributes.Nodup) ↔
        "model_config" ∉ r.schema.names := by
    rw [← Request.nodup_bodyClass_iff hwell action]
    simp [Artifact.body]
  refine ⟨?_, ?_⟩
  · rw [← Request.nodup_modelClass_iff hwell]
    simp [ArtifactKind.DeclaresOnce, ArtifactKind.artifact, Artifact.model]
  · intro k hk
    simp only [List.mem_cons, List.not_mem_nil, or_false] at hk
    rcases hk with rfl | rfl | rfl
    · exact hbody .create
    · exact hbody .update
    · have hpage : r.collectionClass.attributes.Nodup := by
        have hnames : r.collectionClass.attributes = ["items", "total"] := rfl
        rw [hnames]
        decide
      rw [← Request.nodup_resourceClass_iff hwell]
      simp [ArtifactKind.DeclaresOnce, ArtifactKind.artifact, Artifact.resource, hpage]

theorem declaresOnce_of_owner :
    let r : Request := ⟨"Post", ⟨fun _ => true⟩, ⟨[⟨"user_id", .foreignId, []⟩, ⟨"title", .string, []⟩]⟩, "default",
      "out", "app"⟩
    Schema.parse (some "user_id:foreign_id,title:string") = .ok r.schema ∧
      ∀ k ∈ [ArtifactKind.model, .createRequest, .updateRequest, .resource], k.DeclaresOnce "2024_05_01_123045" r := by
  intro r
  have hparse : Schema.parse (some "user_id:foreign_id,title:string") = .ok r.schema := by decide +kernel
  have hapart : r.AttributesApart := ⟨by decide +kernel, by decide +kernel, by decide +kernel⟩
  obtain ⟨hmodel, hrest⟩ := declaresOnce_iff hparse "2024_05_01_123045"
  refine ⟨hparse, fun k hk => ?_⟩
  rcases List.mem_cons.1 hk with rfl | hk
  · exact hmodel.2 hapart
  · exact (hrest k hk).2 (by decide +kernel)

/-- A relationship may take the name of a column, and a field that of the setting of a body or of the resource. -/
theorem not_declaresOnce :
    let owned : Request := ⟨"Post", ⟨fun _ => false⟩, ⟨[⟨"user_id", .foreignId, []⟩, ⟨"user", .string, []⟩]⟩,
      "default", "out", "app"⟩
    let configured : Request := ⟨"Post", ⟨fun _ => false⟩, ⟨[⟨"model_config", .string, []⟩]⟩, "default", "out",
      "app"⟩
    (Schema.parse (some "user_id:foreign_id,user:string") = .ok owned.schema ∧
        ¬ ArtifactKind.model.DeclaresOnce "2024_05_01_123045" owned) ∧
      Schema.parse (some "model_config:string") = .ok configured.schema ∧
        ∀ k ∈ [ArtifactKind.createRequest, .updateRequest, .resource],
          ¬ k.DeclaresOnce "2024_05_01_123045" configured := by
  intro owned configured
  have hmodel : ¬ owned.modelClass.attributes.Nodup := by decide +kernel
  have hbody (action : BodyAction) : ¬ (configured.bodyClass action).attributes.Nodup := by
    cases action <;> decide +kernel
  have hresource : ¬ configured.resourceClass.attributes.Nodup := by decide +kernel
  refine ⟨⟨by decide +kernel, fun h => hmodel (h _ List.mem_cons_self)⟩, by decide +kernel, fun k hk h => ?_⟩
  simp only [List.mem_cons, List.not_mem_nil, or_false] at hk
  rcases hk with rfl | rfl | rfl
  · exact hbody .create (h _ List.mem_cons_self)
  · exact hbody .update (h _ List.mem_cons_self)
  · exact hresource (h _ List.mem_cons_self)

end CrudScaffold
