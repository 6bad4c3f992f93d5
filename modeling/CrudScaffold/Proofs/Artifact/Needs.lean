import CrudScaffold.Proofs.Artifact.Imports
import CrudScaffold.Proofs.Source.Collected

/-!
# What files take from modules

The files of a request take names from a fixed set of modules, from the module of the database, and from some of the
other files.  One table has all of these names with their modules (`Request.rows`), and whatever a file imports is
within its part for the kinds of files that it needs (`ArtifactKind.within_imports`).
-/

namespace CrudScaffold

open Source (Import Imports)
open Source.Imports (Within)

/-! ### The table -/

/-- The names that generated files take from libraries, with the libraries' modules. -/
def libraryRows : List (String × String) :=
  [("Any", "typing"), ("Dict", "typing"), ("List", "typing"), ("Optional", "typing"), ("dt", Source.timeModule),
    ("decimal", "decimal"), ("uuid", "uuid"), ("datetime", "datetime"), ("timezone", "datetime"),
    ("BigInteger", "sqlalchemy"), ("Boolean", "sqlalchemy"), ("Date", "sqlalchemy"), ("DateTime", "sqlalchemy"),
    ("Float", "sqlalchemy"), ("ForeignKey", "sqlalchemy"), ("Integer", "sqlalchemy"), ("JSON", "sqlalchemy"),
    ("Numeric", "sqlalchemy"), ("Select", "sqlalchemy"), ("SmallInteger", "sqlalchemy"), ("String", "sqlalchemy"),
    ("Text", "sqlalchemy"), ("Time", "sqlalchemy"), ("Uuid", "sqlalchemy"), ("func", "sqlalchemy"),
    ("or_", "sqlalchemy"), ("select", "sqlalchemy"), ("sa", "sqlalchemy as sa"), ("Mapped", "sqlalchemy.orm"),
    ("Session", "sqlalchemy.orm"), ("mapped_column", "sqlalchemy.orm"), ("relationship", "sqlalchemy.orm"),
    ("op", "alembic"), ("BaseModel", "pydantic"), ("ConfigDict", "pydantic"), ("Field", "pydantic"),
    ("APIRouter", "fastapi"), ("Body", "fastapi"), ("Depends", "fastapi"), ("HTTPException", "fastapi"),
    ("Query", "fastapi"), ("Faker", "faker"), ("pytest", "pytest")]

namespace Request

/-- The names that other files take from the file of a kind. -/
def exports (r : Request) : ArtifactKind → List String
  | .model => [r.model]
  | .factory => [r.className "" "Factory"]
  | .filter => [r.filterName]
  | .createRequest => [r.bodyName .create]
  | .updateRequest => [r.bodyName .update]
  | .resource => [r.collectionName, r.resourceName]
  | .controller => ["router"]
  | _ => []

/-- The line that imports the file of a kind. -/
def lineOf (r : Request) (k : ArtifactKind) : Import :=
  ⟨r.modulePath (k.artifact "" r).place, r.exports k⟩

@[simp] theorem origin_lineOf (r : Request) (k : ArtifactKind) :
    (r.lineOf k).origin = r.modulePath (k.artifact "" r).place := by
  simp only [lineOf]

/-- The names of a file with its module. -/
def rowsOf (r : Request) (k : ArtifactKind) : List (String × String) :=
  (r.exports k).map fun name => (name, r.modulePath (k.artifact "" r).place)

/-- The names that files take from modules which no request writes, apart from the first line of a file. -/
def foreignRows (r : Request) : List (String × String) :=
  ("Base", r.databaseModule) :: ("get_db", r.databaseModule) :: libraryRows

/-- The names that a file may take which needs files of these kinds. -/
def rows (r : Request) (kinds : List ArtifactKind) : List (String × String) :=
  r.foreignRows ++ kinds.flatMap r.rowsOf

end Request

/-- The kinds of files that a file of this kind imports. -/
def ArtifactKind.needs (r : Request) : ArtifactKind → List ArtifactKind
  | controller =>
    [model] ++ (if r.usesBodies then [createRequest, updateRequest] else []) ++
      (if r.usesResource then [resource] else []) ++ if r.usesFilter then [filter] else []
  | factory | filter => [model]
  | seeder => [factory]
  | routes => [controller]
  | model | createRequest | updateRequest | resource | test | migration => []

/-! ### Names as they are asked for -/

/-- Names of a library that may be asked for together. -/
def IsLibraryLine (origin : String) (names : List String) : Prop :=
  names ≠ [] ∧ names.Nodup ∧ ∀ name ∈ names, Import.alias? name = none ∧ (name, origin) ∈ libraryRows

instance (origin : String) (names : List String) : Decidable (IsLibraryLine origin names) :=
  inferInstanceAs (Decidable (_ ∧ _ ∧ _))

/-- A name without blanks is given no other name. -/
theorem alias?_eq_none {name : String} (h : ' ' ∉ name.toList) : Import.alias? name = none := by
  have hnone : Text.occursIn " as " name = false := by
    rw [Bool.eq_false_iff, Ne, Text.occursIn_iff]
    exact fun hpart => h (hpart.subset (by decide))
  rw [Text.occursIn, Option.isSome_eq_false_iff, Option.isNone_iff_eq_none] at hnone
  rw [Import.alias?, hnone]
  rfl

namespace Request

variable {r : Request} {kinds : List ArtifactKind} {row : String × String}

theorem mem_rows_of_library (h : row ∈ libraryRows) : row ∈ r.rows kinds :=
  List.mem_append_left _ (List.mem_cons_of_mem _ (List.mem_cons_of_mem _ h))

theorem mem_rows_of_needed {k : ArtifactKind} {name : String} (hk : k ∈ kinds) (hname : name ∈ r.exports k) :
    (name, r.modulePath (k.artifact "" r).place) ∈ r.rows kinds :=
  List.mem_append_right _ (List.mem_flatMap.2 ⟨k, hk, List.mem_map_of_mem hname⟩)

theorem typeRows_subset_rows : Source.Imports.typeRows ⊆ r.rows kinds := by
  have hlibrary : ∀ row ∈ Source.Imports.typeRows, row ∈ libraryRows := by decide
  exact fun row hrow => mem_rows_of_library (hlibrary row hrow)

theorem within_library {origin : String} {names : List String} (h : IsLibraryLine origin names) :
    Import.Within (r.rows kinds) ⟨origin, names⟩ :=
  Import.within_of_names h.1 h.2.1 fun name hname => ⟨(h.2.2 name hname).1, mem_rows_of_library (h.2.2 name hname).2⟩

/-! ### Imports that are collected -/

private theorem within_time : Import.Within (r.rows kinds) ⟨Source.timeModule, []⟩ := by
  have hbinds : (⟨Source.timeModule, []⟩ : Import).binds = ["dt"] := by decide
  refine ⟨List.nodup_nil, by simp, ?_⟩
  rw [hbinds, List.forall_mem_singleton]
  exact mem_rows_of_library (by decide)

/-- Asking for names of a library stays within the table. -/
private theorem setLibrary {imports : Imports} (h : imports.Within (r.rows kinds)) (origin : String)
    (names : List String) (hline : IsLibraryLine origin names) : (imports.set origin names).Within (r.rows kinds) :=
  h.set hline.1 hline.2.1 fun name hname => ⟨(hline.2.2 name hname).1, mem_rows_of_library (hline.2.2 name hname).2⟩

private theorem addLibrary {imports : Imports} (h : imports.Within (r.rows kinds)) (origin name : String)
    (hline : IsLibraryLine origin [name]) : (imports.add origin name).Within (r.rows kinds) := by
  obtain ⟨hunnamed, hrow⟩ := hline.2.2 name (by simp)
  exact h.add hunnamed (mem_rows_of_library hrow)

private theorem within_typeImports (everyOptional : Bool) (fields : List Field) :
    (Source.typeImports everyOptional fields).Within (r.rows kinds) :=
  Source.Imports.within_typeImports typeRows_subset_rows everyOptional fields

/-- A name of the database's module. -/
private theorem database_row {name : String} (h : name = "Base" ∨ name = "get_db") :
    Import.alias? name = none ∧ (name, r.databaseModule) ∈ r.rows kinds := by
  rcases h with rfl | rfl
  · exact ⟨by decide, List.mem_append_left _ List.mem_cons_self⟩
  · exact ⟨by decide, List.mem_append_left _ (List.mem_cons_of_mem _ List.mem_cons_self)⟩

theorem within_modelImports (r : Request) : r.modelImports.Within (r.rows []) := by
  have hcolumn (t : FieldType) : IsLibraryLine "sqlalchemy" [t.columnClass] := by
    cases t <;> decide
  have hcolumns {imports : Imports} (h : imports.Within (r.rows [])) (f : Field) :
      Within (r.rows []) (let imports := imports.add "sqlalchemy" f.type.columnClass
        if f.isForeignKey then (imports.add "sqlalchemy" "ForeignKey").add "sqlalchemy.orm" "relationship"
        else imports) := by
    have htype := addLibrary h "sqlalchemy" f.type.columnClass (hcolumn f.type)
    have hkey := addLibrary htype "sqlalchemy" "ForeignKey" (by decide)
    exact Within.ite (fun _ => addLibrary hkey "sqlalchemy.orm" "relationship" (by decide)) fun _ => htype
  have htypes : Within (r.rows []) (Source.typeImports false r.fields) := within_typeImports false r.fields
  have htime : Within (r.rows []) (Imports.set Source.timeModule [] (Source.typeImports false r.fields)) :=
    htypes.put within_time
  have hcore := setLibrary htime "sqlalchemy" ["DateTime", "func"] (by decide)
  have horm := setLibrary hcore "sqlalchemy.orm" ["Mapped", "mapped_column"] (by decide)
  have hbase : ∀ name ∈ ["Base"], Import.alias? name = none ∧ (name, r.databaseModule) ∈ r.rows [] :=
    List.forall_mem_singleton.2 (database_row (Or.inl rfl))
  have hfixed := horm.set (by simp) (by simp) hbase
  have hfields := List.foldlRecOn (motive := fun imports => Within (r.rows []) imports) r.fields _ hfixed
    fun imports h f _ => hcolumns h f
  exact Within.ite (fun _ => addLibrary hfields "typing" "Optional" (by decide)) fun _ => hfields

theorem within_bodyImports (r : Request) (action : BodyAction) :
    (r.bodyImports action).Within (r.rows []) :=
  setLibrary (within_typeImports _ r.fields) "pydantic" ["BaseModel", "ConfigDict", "Field"] (by decide)

theorem within_resourceImports (r : Request) : r.resourceImports.Within (r.rows []) := by
  have htypes : Within (r.rows []) (Source.typeImports false r.fields) := within_typeImports false r.fields
  have htime : Within (r.rows []) (Imports.set Source.timeModule [] (Source.typeImports false r.fields)) :=
    htypes.put within_time
  have hlist := addLibrary htime "typing" "List" (by decide)
  have hoptional := Within.ite (p := r.softDelete = true)
    (fun _ => addLibrary hlist "typing" "Optional" (by decide)) fun _ => hlist
  exact setLibrary hoptional "pydantic" ["BaseModel", "ConfigDict", "Field"] (by decide)

/-! ### The controller -/

section Files

variable (hblank : ' ' ∉ r.model.toList)

include hblank

theorem unnamed_className {before after : String} (hwords : (' ' ∉ before.toList) ∧ ' ' ∉ after.toList) :
    Import.alias? (r.className before after) = none := by
  refine alias?_eq_none ?_
  simp [className, hwords, hblank]

theorem unnamed_exports (k : ArtifactKind) : ∀ name ∈ r.exports k, Import.alias? name = none := by
  cases k with
  | model => exact List.forall_mem_singleton.2 (alias?_eq_none hblank)
  | factory | filter | createRequest | updateRequest =>
    exact List.forall_mem_singleton.2 (unnamed_className hblank (by decide))
  | resource =>
    refine List.forall_mem_cons.2 ⟨unnamed_className hblank (by decide), ?_⟩
    exact List.forall_mem_singleton.2 (unnamed_className hblank (by decide))
  | controller => exact List.forall_mem_singleton.2 (by decide)
  | test | migration | seeder | routes => simp [exports]

/-- The names of a needed file may be taken from its module. -/
theorem needed_rows {k : ArtifactKind} (hk : k ∈ kinds) : ∀ name ∈ r.exports k,
    Import.alias? name = none ∧ (name, r.modulePath (k.artifact "" r).place) ∈ r.rows kinds :=
  fun name hname => ⟨unnamed_exports hblank k name hname, mem_rows_of_needed hk hname⟩

omit hblank in
private theorem nodup_exports (r : Request) (k : ArtifactKind) : (r.exports k).Nodup := by
  cases k with
  | resource =>
    have hends : r.collectionName ≠ r.resourceName := Text.append_ne_of_ends (by decide) (by decide) _ _
    simp [exports, hends]
  | _ => simp [exports]

private theorem setNeeded {imports : Imports} (h : imports.Within (r.rows kinds)) (k : ArtifactKind) (hk : k ∈ kinds)
    (hne : r.exports k ≠ []) :
    (imports.set (r.modulePath (k.artifact "" r).place) (r.exports k)).Within (r.rows kinds) :=
  h.set hne (nodup_exports r k) (needed_rows hblank hk)

private theorem within_controllerImports :
    r.controllerImports.Within (r.rows (ArtifactKind.controller.needs r)) := by
  have hmodel : .model ∈ ArtifactKind.controller.needs r := by simp [ArtifactKind.needs]
  have hfixed : Within (r.rows (ArtifactKind.controller.needs r)) (Entries.ofList
      [("fastapi", ["APIRouter", "Depends", "HTTPException", "Query"]), ("sqlalchemy", ["func", "select"]),
        ("sqlalchemy.orm", ["Session"]), (r.databaseModule, ["get_db"]),
        (r.modulePath r.modelPlace, [r.model])]) := by
    refine Source.Imports.within_ofList fun e he => ?_
    simp only [List.mem_cons, List.not_mem_nil, or_false] at he
    rcases he with rfl | rfl | rfl | rfl | rfl <;> dsimp only
    · exact within_library (by decide)
    · exact within_library (by decide)
    · exact within_library (by decide)
    · exact Import.within_of_names (by simp) (by simp) (List.forall_mem_singleton.2 (database_row (Or.inr rfl)))
    · exact Import.within_of_names (by simp) (by simp) (needed_rows hblank hmodel)
  -- one step for every condition under which the controller asks for more
  have htypingLine : ∀ b c : Bool, ((if b then [] else ["Any", "Dict"]) ++ if c then ["Optional"] else []).isEmpty = true ∨
      IsLibraryLine "typing" ((if b then [] else ["Any", "Dict"]) ++ if c then ["Optional"] else []) := by
    decide
  have htyping := Within.ite (fun _ => hfixed) fun hsome => setLibrary hfixed "typing" _
    ((htypingLine (r.usesBodies && r.usesResource) r.usesFilter).resolve_left hsome)
  have htime := Within.ite (p := r.softDelete = true)
    (fun _ => setLibrary htyping "datetime" ["datetime", "timezone"] (by decide)) fun _ => htyping
  have hbodies := Within.ite (p := r.usesBodies = true)
    (fun hchosen =>
      have hcreate := setNeeded hblank htime .createRequest (by simp [ArtifactKind.needs, hchosen]) (by simp [exports])
      setNeeded hblank hcreate .updateRequest (by simp [ArtifactKind.needs, hchosen]) (by simp [exports]))
    fun _ => addLibrary htime "fastapi" "Body" (by decide)
  have hresource := Within.ite (p := r.usesResource = true)
    (fun hchosen => setNeeded hblank hbodies .resource (by simp [ArtifactKind.needs, hchosen]) (by simp [exports]))
    fun _ => hbodies
  exact Within.ite
    (fun hchosen => setNeeded hblank hresource .filter (by simp [ArtifactKind.needs, hchosen]) (by simp [exports]))
    fun _ => hresource

end Files

/-! ### Modules -/

/-- No library has a module that ends like the one of the database. -/
theorem databaseModule_not_mem_libraryModules (r : Request) : r.databaseModule ∉ libraryModules := by
  have hends : ∀ m ∈ libraryModules, Text.endsWith "database" m = false := by decide
  intro hmem
  have hend : Text.endsWith "database" r.databaseModule = true := by
    rw [Text.endsWith_iff, databaseModule_eq, String.toList_append]
    exact List.suffix_append _ _
  rw [hends _ hmem] at hend
  cases hend

/-- The names of the table are taken from modules that no request writes, or from those of the needed files. -/
theorem origin_of_mem_rows (h : row ∈ r.rows kinds) :
    (row.2 ∈ r.foreignModules ∧ row.2 ≠ "__future__") ∨
      ∃ k ∈ kinds, row.1 ∈ r.exports k ∧ row.2 = r.modulePath (k.artifact "" r).place := by
  have hlibrary : ∀ row ∈ libraryRows, row.2 ∈ libraryModules ∧ row.2 ≠ "__future__" := by decide
  have hdatabase : r.databaseModule ≠ "__future__" := fun h =>
    r.databaseModule_not_mem_libraryModules (h ▸ by decide)
  have hown : r.databaseModule ∈ r.foreignModules ∧ r.databaseModule ≠ "__future__" :=
    ⟨List.mem_cons_self, hdatabase⟩
  rw [rows, foreignRows, List.mem_append, List.mem_cons, List.mem_cons, List.mem_flatMap] at h
  obtain (h | h | h) | ⟨k, hk, h⟩ := h
  · have horigin : row.2 = r.databaseModule := by rw [h]
    rw [horigin]
    exact Or.inl hown
  · have horigin : row.2 = r.databaseModule := by rw [h]
    rw [horigin]
    exact Or.inl hown
  · obtain ⟨hmodule, hother⟩ := hlibrary row h
    exact Or.inl ⟨List.mem_cons_of_mem _ hmodule, hother⟩
  · obtain ⟨name, hname, rfl⟩ := List.mem_map.1 h
    right
    dsimp only
    exact ⟨k, hk, hname, rfl⟩

end Request

namespace ArtifactKind

open Request (within_library needed_rows)

variable {stamp : String} {r : Request}

/-- The module of a needed file is none that no request writes. -/
theorem needed_not_foreign (hsnake : r.snake ≠ "") (k : ArtifactKind) :
    r.modulePath (k.artifact "" r).place ∉ r.foreignModules :=
  k.modulePath_not_foreign hsnake

private theorem future_not_mem (hsnake : r.snake ≠ "") (kinds : List ArtifactKind) :
    "__future__" ∉ (r.rows kinds).map Prod.snd := by
  intro hmem
  obtain ⟨row, hrow, hfuture⟩ := List.mem_map.1 hmem
  rcases Request.origin_of_mem_rows hrow with ⟨-, hother⟩ | ⟨k, -, -, horigin⟩
  · exact hother hfuture
  · have hforeign : row.2 ∈ r.foreignModules := hfuture ▸ List.mem_cons_of_mem _ (by decide)
    rw [horigin] at hforeign
    exact needed_not_foreign hsnake k hforeign

/-- Lines that are written as they stand: those of libraries, and at most one for another file. -/
private theorem within_lines (hblank : ' ' ∉ r.model.toList) (hsnake : r.snake ≠ "") (libraries : List Import)
    (needed : Option ArtifactKind) (horigins : (libraries.map Import.origin).Nodup)
    (hlibraries : ∀ i ∈ libraries, i.origin ∈ libraryModules ∧ i.Within (("annotations", "__future__") :: libraryRows))
    (hsome : ∀ k ∈ needed, r.exports k ≠ []) :
    ((libraries ++ needed.toList.map r.lineOf).map Import.origin).Nodup ∧
      ∀ i ∈ libraries ++ needed.toList.map r.lineOf,
        i.Within (("annotations", "__future__") :: r.rows needed.toList) := by
  have hrows : ("annotations", "__future__") :: libraryRows ⊆ ("annotations", "__future__") :: r.rows needed.toList :=
    List.cons_subset_cons _ fun _ => Request.mem_rows_of_library
  constructor
  · rw [List.map_append, List.nodup_append]
    refine ⟨horigins, by cases needed <;> simp, fun origin hlibrary other hfile heq => ?_⟩
    obtain ⟨i, hi, rfl⟩ := List.mem_map.1 hlibrary
    obtain ⟨j, hj, rfl⟩ := List.mem_map.1 hfile
    obtain ⟨k, -, rfl⟩ := List.mem_map.1 hj
    have hforeign : i.origin ∈ r.foreignModules := List.mem_cons_of_mem _ (hlibraries i hi).1
    rw [heq, Request.origin_lineOf] at hforeign
    exact needed_not_foreign hsnake k hforeign
  · intro i hi
    rcases List.mem_append.1 hi with hi | hi
    · exact (hlibraries i hi).2.mono hrows
    · obtain ⟨k, hk, rfl⟩ := List.mem_map.1 hi
      have hline := Import.within_of_names (hsome k (by simpa using hk)) (Request.nodup_exports r k) (needed_rows hblank hk)
      exact hline.mono (List.subset_cons_self _ _)

/-- Whatever a file imports is within the table for the files that it needs, and a module is imported by one line. -/
theorem within_imports (hblank : ' ' ∉ r.model.toList) (hsnake : r.snake ≠ "") (k : ArtifactKind) (stamp : String) :
    ((k.artifact stamp r).source.imports.flatten.map Import.origin).Nodup ∧
      ∀ i ∈ (k.artifact stamp r).source.imports.flatten,
        i.Within (("annotations", "__future__") :: r.rows (k.needs r)) := by
  cases k with
  | model => exact (Request.within_modelImports r).sections (future_not_mem hsnake _) r
  | controller => exact (Request.within_controllerImports hblank).sections (future_not_mem hsnake _) r
  | resource => exact (Request.within_resourceImports r).sections (future_not_mem hsnake _) r
  | createRequest => exact (Request.within_bodyImports r .create).sections (future_not_mem hsnake _) r
  | updateRequest => exact (Request.within_bodyImports r .update).sections (future_not_mem hsnake _) r
  | factory =>
    have hlines : (Artifact.factory r).source.imports.flatten =
        (⟨"__future__", ["annotations"]⟩ :: (if r.needsTimezone then [⟨"datetime", ["timezone"]⟩] else []) ++
          [⟨"typing", ["Any", "Dict", "List"]⟩, ⟨"faker", ["Faker"]⟩]) ++ [r.lineOf .model] := by
      simp [Artifact.factory, Request.factoryImports, Source.deferredHints, Request.lineOf, Request.modelImport,
        Request.exports, artifact, Artifact.model]
    rw [artifact, hlines]
    cases r.needsTimezone <;>
      exact within_lines hblank hsnake _ (some .model) (by decide) (by decide) (by simp [Request.exports])
  | filter =>
    exact within_lines hblank hsnake (Source.deferredHints ++
      [⟨"typing", ["Any", "Dict", "List", "Optional"]⟩, ⟨"sqlalchemy", ["Select", "or_"]⟩]) (some .model)
      (by decide) (by decide) (by simp [Request.exports])
  | seeder =>
    exact within_lines hblank hsnake (Source.deferredHints ++ [⟨"sqlalchemy.orm", ["Session"]⟩]) (some .factory)
      (by decide) (by decide) (by simp [Request.exports])
  | test =>
    exact within_lines hblank hsnake (Source.deferredHints ++ [⟨"typing", ["Any", "Dict"]⟩, ⟨"pytest", []⟩]) none
      (by decide) (by decide) (by simp)
  | migration =>
    exact within_lines hblank hsnake [⟨"sqlalchemy as sa", []⟩, ⟨"alembic", ["op"]⟩] none
      (by decide) (by decide) (by simp)
  | routes =>
    obtain ⟨horigins, hwithin⟩ := within_lines hblank hsnake [⟨"fastapi", ["APIRouter"]⟩] none
      (by decide) (by decide) (by simp)
    -- what is registered is imported by lines of its own
    refine ⟨horigins, fun i hi => (hwithin i hi).mono (List.cons_subset_cons _ ?_)⟩
    exact List.append_subset.2 ⟨List.subset_append_left _ _, by simp⟩

/-- What a file takes from another file is what that file is needed for. -/
theorem exists_needed_of_binds (hblank : ' ' ∉ r.model.toList) (hsnake : r.snake ≠ "") {k : ArtifactKind} {i : Import}
    (hi : i ∈ (k.artifact stamp r).source.imports.flatten) (horigin : i.origin ∉ r.foreignModules) {name : String}
    (hname : name ∈ i.binds) :
    ∃ k' ∈ k.needs r, name ∈ r.exports k' ∧ i.origin = r.modulePath (k'.artifact "" r).place := by
  have hrow := ((k.within_imports hblank hsnake stamp).2 i hi).rows name hname
  rcases List.mem_cons.1 hrow with hfuture | hrow
  · rw [(Prod.mk.inj hfuture).2] at horigin
    exact absurd (List.mem_cons_of_mem _ (by decide)) horigin
  · exact (Request.origin_of_mem_rows hrow).resolve_left fun h => horigin h.1

/-- Every import that is not from a module which no request writes is from a needed file. -/
theorem exists_needed (hblank : ' ' ∉ r.model.toList) (hsnake : r.snake ≠ "") {k : ArtifactKind} {i : Import}
    (hi : i ∈ k.imports stamp r) (horigin : i.origin ∉ r.foreignModules) :
    ∃ k' ∈ k.needs r, i.origin = r.modulePath (k'.artifact "" r).place := by
  rcases List.mem_append.1 hi with hi | hi
  · obtain ⟨name, hname⟩ := List.exists_mem_of_ne_nil _ i.binds_ne_nil
    obtain ⟨k', hk', -, hmodule⟩ := exists_needed_of_binds hblank hsnake hi horigin hname
    exact ⟨k', hk', hmodule⟩
  · split at hi
    · rename_i hroutes
      have hplace : (controller.artifact "" r).place = r.controllerPlace := rfl
      refine ⟨controller, by simp [hroutes, needs], ?_⟩
      rw [List.mem_singleton.1 hi, hplace]
      simp only [Request.routerImport]
    · cases hi

end ArtifactKind

end CrudScaffold
