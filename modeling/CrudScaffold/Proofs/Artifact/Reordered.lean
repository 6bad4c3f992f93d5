import CrudScaffold.Artifact.Kind
import CrudScaffold.Proofs.Schema.Reordered
import CrudScaffold.Proofs.Schema.WellFormed

/-!
# Files and the order of modifiers

A file asks a field for its name, its type and its modifier of some kind, and for what follows from these.  So every
file stays the same when the modifiers of all fields are put in the order of their kinds (`Field.canonical`,
`ArtifactKind.artifact_canonical`), and there the order that they had before is lost
(`Field.canonical_eq_of_reordered`).
-/

namespace CrudScaffold

open Source (Statement ClassBody Definition)

/-! ### Fields -/

namespace Field

/-- The field with its modifiers in the order of their kinds. -/
def canonical (f : Field) : Field :=
  { f with modifiers := ModifierKind.all.filterMap f.modifier? }

variable (f : Field)

@[simp] theorem name_canonical : f.canonical.name = f.name := rfl

@[simp] theorem type_canonical : f.canonical.type = f.type := rfl

/-- Every modifier is found where it was. -/
@[simp] theorem modifier?_canonical (kind : ModifierKind) : f.canonical.modifier? kind = f.modifier? kind := by
  have hone : (fun k => (f.modifier? k).any fun m => decide (m.kind = kind)) =
      fun k => decide (k = kind) && (f.modifier? kind).isSome := by
    funext k
    cases hk : f.modifier? k with
    | none => by_cases hkind : k = kind <;> simp_all
    | some m =>
      have hm : m.kind = k := (mem_of_modifier? hk).2
      by_cases hkind : k = kind
      · subst hkind
        simp [hm, hk]
      · simp [hm, hkind]
  have hall : ModifierKind.all.find? (fun k => decide (k = kind)) = some kind := by cases kind <;> rfl
  change (ModifierKind.all.filterMap f.modifier?).find? (fun m => decide (m.kind = kind)) = f.modifier? kind
  rw [List.find?_filterMap, hone]
  cases hkind : f.modifier? kind with
  | none =>
    have hnone : ModifierKind.all.find? (fun k => decide (k = kind) && false) = none := List.find?_eq_none.2 (by simp)
    simp only [Option.isSome_none, hnone, Option.bind_none]
  | some m => simp only [Option.isSome_some, Bool.and_true, hall, Option.bind_some, hkind]

@[simp] theorem has_canonical (kind : ModifierKind) : f.canonical.has kind = f.has kind := by
  simp only [has, modifier?_canonical]

@[simp] theorem isNullable_canonical : f.canonical.isNullable = f.isNullable := by
  simp only [isNullable, has_canonical]

@[simp] theorem isIndexed_canonical : f.canonical.isIndexed = f.isIndexed := by
  simp only [isIndexed, has_canonical]

@[simp] theorem isForeignKey_canonical : f.canonical.isForeignKey = f.isForeignKey := by
  simp only [isForeignKey, type_canonical, has_canonical]

@[simp] theorem hint_canonical : f.canonical.hint = f.hint := by
  simp only [hint, isNullable_canonical, type_canonical]

@[simp] theorem reference?_canonical : f.canonical.reference? = f.reference? := by
  simp only [reference?, modifier?_canonical]
  rfl

@[simp] theorem relationName_canonical : f.canonical.relationName = f.relationName := by
  simp only [relationName, stem?, reference?_canonical, name_canonical]

@[simp] theorem relatedModel?_canonical : f.canonical.relatedModel? = f.relatedModel? := by
  simp only [relatedModel?, stem?, reference?_canonical, name_canonical]

@[simp] theorem foreignKey?_canonical : f.canonical.foreignKey? = f.foreignKey? := by
  simp only [foreignKey?, knownAction?, onDelete, modifier?_canonical, reference?_canonical]

@[simp] theorem defaultLiteral?_canonical : f.canonical.defaultLiteral? = f.defaultLiteral? := by
  simp only [defaultLiteral?, default?, modifier?_canonical]
  rfl

@[simp] theorem modelColumn_canonical : f.canonical.modelColumn = f.modelColumn := by
  simp only [modelColumn, isUnique, name_canonical, type_canonical, foreignKey?_canonical, isNullable_canonical,
    has_canonical, isIndexed_canonical, defaultLiteral?_canonical]

@[simp] theorem migrationColumn_canonical : f.canonical.migrationColumn = f.migrationColumn := by
  simp only [migrationColumn, isUnique, name_canonical, type_canonical, foreignKey?_canonical, isNullable_canonical,
    has_canonical, defaultLiteral?_canonical]

@[simp] theorem bodyMember_canonical (action : BodyAction) : f.canonical.bodyMember action = f.bodyMember action := by
  cases action <;>
    simp only [bodyMember, rules, createDefault?, has_canonical, hint_canonical, isNullable_canonical,
      defaultLiteral?_canonical] <;>
    rfl

@[simp] theorem fakeValue_canonical : f.canonical.fakeValue = f.fakeValue := rfl

variable {f}

/-- The order of the modifiers is lost. -/
theorem canonical_eq_of_reordered {f' : Field} (h : f.Reordered f') (hkinds : (f.modifiers.map Modifier.kind).Nodup) :
    f.canonical = f'.canonical := by
  have hkinds' : (f'.modifiers.map Modifier.kind).Nodup := (h.modifiers.map Modifier.kind).nodup_iff.1 hkinds
  have hsame : f.modifier? = f'.modifier? := by
    funext kind
    ext m
    rw [modifier?_eq_some_iff hkinds, modifier?_eq_some_iff hkinds', h.modifiers.mem_iff]
  unfold canonical
  rw [hsame, h.name, h.type]

end Field

/-! ### Lists of fields -/

section Lists

variable {α β : Type} {g : Field → α} {p : Field → Bool} (fields : List Field)

private theorem map_canonical (hg : ∀ f, g f.canonical = g f) :
    (fields.map Field.canonical).map g = fields.map g := by
  rw [List.map_map]
  exact List.map_congr_left fun f _ => hg f

private theorem map_filter_canonical (hp : ∀ f, p f.canonical = p f) (hg : ∀ f, g f.canonical = g f) :
    ((fields.map Field.canonical).filter p).map g = (fields.filter p).map g := by
  have hfilter : p ∘ Field.canonical = p := funext hp
  rw [List.filter_map, hfilter, map_canonical _ hg]

private theorem filterMap_canonical {g : Field → Option α} (hg : ∀ f, g f.canonical = g f) :
    (fields.map Field.canonical).filterMap g = fields.filterMap g := by
  rw [List.filterMap_map]
  exact List.filterMap_congr fun f _ => hg f

private theorem foldl_canonical {step : β → Field → β} (hstep : ∀ b f, step b f.canonical = step b f) (start : β) :
    (fields.map Field.canonical).foldl step start = fields.foldl step start := by
  rw [List.foldl_map]
  simp only [hstep]

private theorem any_canonical (hp : ∀ f, p f.canonical = p f) : (fields.map Field.canonical).any p = fields.any p := by
  rw [List.any_map]
  exact congrArg fields.any (funext hp)

theorem typeImports_canonical (everyOptional : Bool) :
    Source.typeImports everyOptional (fields.map Field.canonical) = Source.typeImports everyOptional fields :=
  foldl_canonical fields (fun imports f => by rw [f.isNullable_canonical]; rfl) []

/-- Lists of fields that are the same up to the order of modifiers. -/
theorem map_canonical_of_reordered {fs fs' : List Field} (h : List.Forall₂ Field.Reordered fs fs')
    (hkinds : ∀ f ∈ fs, (f.modifiers.map Modifier.kind).Nodup) :
    fs.map Field.canonical = fs'.map Field.canonical := by
  induction h with
  | nil => rfl
  | cons hf _ ih =>
    rw [List.map_cons, List.map_cons, Field.canonical_eq_of_reordered hf (hkinds _ List.mem_cons_self),
      ih fun f hmem => hkinds f (List.mem_cons_of_mem _ hmem)]

end Lists

/-! ### Files -/

namespace Request

/-- The request with the modifiers of every field in the order of their kinds. -/
def canonical (r : Request) : Request :=
  { r with schema := ⟨r.fields.map Field.canonical⟩ }

variable (r : Request)

theorem fields_canonical : r.canonical.fields = r.fields.map Field.canonical := rfl

theorem modelColumns_canonical : r.canonical.modelColumns = r.modelColumns := by
  have hfields := map_canonical (g := fun f => (⟨f.hint, f.modelColumn⟩ : ColumnAttribute)) r.fields (by simp)
  unfold modelColumns
  rw [fields_canonical, hfields]
  rfl

theorem relationships_canonical : r.canonical.relationships = r.relationships :=
  filterMap_canonical r.fields (fun f => by simp)

theorem modelImports_canonical : r.canonical.modelImports = r.modelImports := by
  unfold modelImports
  dsimp only
  rw [fields_canonical, typeImports_canonical, foldl_canonical]
  · rfl
  · intro imports f
    change (if f.canonical.isForeignKey = true then _ else _) = (if f.isForeignKey = true then _ else _)
    rw [f.isForeignKey_canonical]
    rfl

theorem modelClass_canonical : r.canonical.modelClass = r.modelClass := by
  unfold modelClass
  rw [modelColumns_canonical, relationships_canonical]
  rfl

theorem migrationColumns_canonical : r.canonical.migrationColumns = r.migrationColumns := by
  unfold migrationColumns
  rw [fields_canonical, map_canonical _ Field.migrationColumn_canonical]
  rfl

theorem indexedColumns_canonical : r.canonical.indexedColumns = r.indexedColumns := by
  unfold indexedColumns
  rw [fields_canonical, map_filter_canonical _ (by simp) (by simp)]
  rfl

theorem migrationDefinitions_canonical : r.canonical.migrationDefinitions = r.migrationDefinitions := by
  change [Definition.function ⟨_, _, _, _, _, _ ++ r.canonical.migrationColumns.map _ ++ _ ++
    r.canonical.indexedColumns.map _⟩, _] = _
  rw [migrationColumns_canonical, indexedColumns_canonical]
  rfl

theorem factoryClass_canonical : r.canonical.factoryClass = r.factoryClass := by
  have hentries := map_canonical (g := fun f => (f.name, f.fakeValue)) r.fields (by simp)
  change ClassBody.mk _ _ [_, _, [.method ⟨_, _, _, _, _, Statement.mapping _ (r.canonical.fields.map _)⟩], _, _] = _
  rw [fields_canonical, hentries]
  rfl

theorem factoryImports_canonical : r.canonical.factoryImports = r.factoryImports := by
  have htimezone : r.canonical.needsTimezone = r.needsTimezone := any_canonical r.fields fun _ => rfl
  unfold factoryImports
  rw [htimezone]
  rfl

theorem filterClass_canonical : r.canonical.filterClass = r.filterClass := by
  have hnames (p : Field → Bool) (hp : ∀ f, p f.canonical = p f) :
      (r.canonical.fields.filter p).map Field.name = (r.fields.filter p).map Field.name :=
    map_filter_canonical r.fields hp Field.name_canonical
  have hfilter : r.canonical.filterNames = r.filterNames :=
    congrArg ("id" :: ·) (hnames (fun f => decide (f.type ≠ .json ∧ f.type ≠ .text)) fun _ => rfl)
  have hsort : r.canonical.sortNames = r.sortNames :=
    congrArg ("id" :: · ++ ["created_at", "updated_at"]) (hnames (fun f => decide (f.type ≠ .json)) fun _ => rfl)
  have hinclude : r.canonical.includeNames = r.includeNames :=
    map_filter_canonical r.fields Field.isForeignKey_canonical Field.relationName_canonical
  have hsearch : r.canonical.searchNames = r.searchNames := hnames _ fun _ => rfl
  unfold filterClass
  rw [hfilter, hsort, hinclude, hsearch]
  rfl

theorem resourceClass_canonical : r.canonical.resourceClass = r.resourceClass := by
  have hfields := map_canonical (g := fun f => Source.Member.typed f.name f.hint) r.fields (by simp)
  unfold resourceClass
  rw [fields_canonical, hfields]
  rfl

theorem resourceImports_canonical : r.canonical.resourceImports = r.resourceImports := by
  unfold resourceImports
  rw [fields_canonical, typeImports_canonical]
  rfl

theorem bodyClass_canonical (action : BodyAction) : r.canonical.bodyClass action = r.bodyClass action := by
  unfold bodyClass
  rw [fields_canonical, map_canonical _ fun f => f.bodyMember_canonical action, List.isEmpty_map]
  rfl

theorem bodyImports_canonical (action : BodyAction) : r.canonical.bodyImports action = r.bodyImports action := by
  unfold bodyImports
  rw [fields_canonical, typeImports_canonical]

theorem testFunctions_canonical : r.canonical.testFunctions = r.testFunctions := by
  have hpayload := map_canonical (g := fun f => (f.name, f.type.sampleValue)) r.fields (by simp)
  have hechoed := map_filter_canonical (p := fun f => f.type.isEchoed)
    (g := fun f => Statement.code 0 ("assert created[\"" ++ f.name ++ "\"] == payload[\"" ++ f.name ++ "\"]"))
    r.fields (by simp) (by simp)
  have hchanges := filterMap_canonical
    (g := fun f => f.type.changedValue?.map fun value => (f.name, value)) r.fields (by simp)
  change ([⟨_, _, _, _, _, Statement.mapping _ (r.canonical.fields.map _)⟩, _,
    ⟨_, _, _, _, _, _ ++ (r.canonical.fields.filter _).map _⟩, _, _, _,
    ⟨_, _, _, _, _, _ ++ Statement.mapping (if (r.canonical.fields.filterMap _).isEmpty then _ else _)
      (r.canonical.fields.filterMap _) ++ _⟩, _] : List Source.Function) ++ _ = _
  rw [fields_canonical, hpayload, hechoed, hchanges]
  rfl

end Request

/-- No file depends on the order of the modifiers. -/
theorem ArtifactKind.artifact_canonical (k : ArtifactKind) (stamp : String) (r : Request) :
    k.artifact stamp r.canonical = k.artifact stamp r := by
  have hbody (action : BodyAction) : Artifact.body action r.canonical = Artifact.body action r := by
    unfold Artifact.body
    rw [r.bodyClass_canonical, r.bodyImports_canonical]
    rfl
  cases k with
  | model =>
    change Artifact.model r.canonical = Artifact.model r
    unfold Artifact.model
    rw [r.modelClass_canonical, r.modelImports_canonical]
    rfl
  | controller => rfl
  | resource =>
    change Artifact.resource r.canonical = Artifact.resource r
    unfold Artifact.resource
    rw [r.resourceClass_canonical, r.resourceImports_canonical]
    rfl
  | factory =>
    change Artifact.factory r.canonical = Artifact.factory r
    unfold Artifact.factory
    rw [r.factoryClass_canonical, r.factoryImports_canonical]
    rfl
  | filter =>
    change Artifact.filter r.canonical = Artifact.filter r
    unfold Artifact.filter
    rw [r.filterClass_canonical]
    rfl
  | test =>
    change Artifact.featureTest r.canonical = Artifact.featureTest r
    unfold Artifact.featureTest
    rw [r.testFunctions_canonical]
    rfl
  | migration =>
    change Artifact.migration stamp r.canonical = Artifact.migration stamp r
    unfold Artifact.migration
    rw [r.migrationDefinitions_canonical]
    rfl
  | seeder => rfl
  | createRequest => exact hbody .create
  | updateRequest => exact hbody .update
  | routes => rfl

end CrudScaffold
