import CrudScaffold.Artifact.Kind
import CrudScaffold.Proofs.Request
import CrudScaffold.Proofs.Text.Affix

/-!
# Imports of generated files

The files of a request import from libraries, from the application's database module, and from each other.  What
they import from each other is there: the module is that of a file of the same request, and the file defines every
name that is taken from it (`imports_resolve`).
-/

namespace CrudScaffold

open Naming (IsPlain)
open Source (ClassBody Import Imports SourceFile)

/-! ### What a file defines -/

namespace Source

/-- A name in an import line without the other name that it is given. -/
def takenName (name : String) : String :=
  .ofList (name.toList.takeWhile (· != ' '))

/-- The names that the file gives to its own values, functions and classes. -/
def SourceFile.defined (f : SourceFile) : List String :=
  f.assignments.map Prod.fst ++ f.definitions.map Definition.name

/-- How a line begins that gives a name to a class, a function or a value. -/
def definitionHeads (name : String) : List String :=
  ["class " ++ name ++ ":", "class " ++ name ++ "(", "def " ++ name ++ "(", name ++ " = "]

/-- A line of the text defines the name, from the first column on. -/
def DefinesAtTop (text name : String) : Prop :=
  ∃ line ∈ Text.splitOn '\n' text.toList, ∃ head ∈ definitionHeads name, head.toList <+: line

private theorem toList_front (s t : String) : s.toList <+: (s ++ t).toList := by
  rw [String.toList_append]
  exact List.prefix_append _ _

private theorem toList_indented_zero (text : String) : (indented 0 text).toList = text.toList := by
  simp [indented]

/-- Some line of a function or a class begins with its name. -/
private theorem Definition.exists_head (d : Definition) :
    ∃ line ∈ d.lines, ∃ head ∈ definitionHeads d.name, head.toList <+: line.toList := by
  cases d with
  | function f =>
    have hhead : "def " ++ f.name ++ "(" ∈ definitionHeads f.name := by simp [definitionHeads]
    cases hspread : f.spread with
    | true =>
      refine ⟨indented 0 ("def " ++ f.name ++ "("), ?_, _, hhead, ?_⟩
      · simp [Definition.lines, Function.lines, hspread]
      · simp only [toList_indented_zero, List.prefix_rfl]
    | false =>
      obtain ⟨rest, hline⟩ : ∃ rest, indented 0 ("def " ++ f.name ++ "(" ++ rest) ∈ f.lines 0 := by
        cases hresult : f.result with
        | none =>
          refine ⟨", ".intercalate f.parameters ++ (")" ++ ":"), ?_⟩
          simp [Function.lines, hspread, hresult, String.append_assoc]
        | some type =>
          refine ⟨", ".intercalate f.parameters ++ (")" ++ (" -> " ++ type ++ ":")), ?_⟩
          simp [Function.lines, hspread, hresult, String.append_assoc]
      refine ⟨_, hline, _, hhead, ?_⟩
      rw [toList_indented_zero]
      exact toList_front _ _
  | classBody c =>
    cases hbase : c.base with
    | none =>
      refine ⟨"class " ++ c.name ++ ":", ?_, "class " ++ c.name ++ ":", by simp [definitionHeads, Definition.name],
        List.prefix_rfl⟩
      simp [Definition.lines, ClassBody.lines, hbase]
    | some base =>
      refine ⟨"class " ++ c.name ++ "(" ++ (base ++ ")" ++ ":"), ?_, "class " ++ c.name ++ "(",
        by simp [definitionHeads, Definition.name], toList_front _ _⟩
      simp [Definition.lines, ClassBody.lines, hbase, String.append_assoc]

private theorem SourceFile.exists_head {f : SourceFile} {name : String} (h : name ∈ f.defined) :
    ∃ line ∈ f.lines, ∃ head ∈ definitionHeads name, head.toList <+: line.toList := by
  rcases List.mem_append.1 h with h | h
  · obtain ⟨⟨name, e⟩, he, rfl⟩ := List.mem_map.1 h
    have hne : f.assignments.isEmpty = false := by
      rw [List.isEmpty_eq_false_iff]
      exact List.ne_nil_of_mem he
    refine ⟨name ++ " = " ++ e.render, ?_, name ++ " = ", by simp [definitionHeads], toList_front _ _⟩
    simp only [SourceFile.lines, hne, Bool.false_eq_true, if_false, List.mem_append]
    exact Or.inl (Or.inl (Or.inr (List.mem_cons_of_mem _ (List.mem_map_of_mem he))))
  · obtain ⟨d, hd, rfl⟩ := List.mem_map.1 h
    obtain ⟨line, hline, hhead⟩ := d.exists_head
    refine ⟨line, ?_, hhead⟩
    simp only [SourceFile.lines, List.mem_append, List.mem_flatMap]
    exact Or.inl (Or.inr ⟨d, hd, by simp [hline]⟩)

/-- What a file defines is defined by a line of its text. -/
theorem SourceFile.definesAtTop {f : SourceFile} {name : String} (h : name ∈ f.defined) (hname : IsPlain name.toList) :
    DefinesAtTop f.render name := by
  obtain ⟨line, hline, head, hhead, hfront⟩ := SourceFile.exists_head h
  -- other lines may have line breaks in them; the front of this one has none, and so it is the front of a line
  have hbreak : '\n' ∉ head.toList := by
    have hplain : '\n' ∉ name.toList := fun hmem => absurd (hname _ hmem) (by decide)
    simp only [definitionHeads, List.mem_cons, List.not_mem_nil, or_false] at hhead
    rcases hhead with rfl | rfl | rfl | rfl <;> simp [hplain]
  have htext : f.render.toList = ['\n'].intercalate (f.lines.map String.toList) := String.toList_intercalate
  obtain ⟨piece, hpiece, hstart⟩ :=
    Text.exists_prefix_splitOn_intercalate (List.mem_map_of_mem (f := String.toList) hline) hfront hbreak
  exact ⟨piece, htext ▸ hpiece, head, hhead, hstart⟩

end Source

/-! ### Imports that resolve -/

/-- The libraries' modules that generated files import. -/
def libraryModules : List String :=
  ["__future__", "typing", "datetime", Source.timeModule, "decimal", "uuid", "sqlalchemy", "sqlalchemy as sa",
    "sqlalchemy.orm", "alembic", "pydantic", "fastapi", "faker", "pytest"]

/-- The modules that no request writes: those of libraries and the one of the database connection. -/
def Request.foreignModules (r : Request) : List String :=
  r.databaseModule :: libraryModules

/-- Everything that a file of this kind imports.  What is registered in the routes is imported there. -/
def ArtifactKind.imports (k : ArtifactKind) (stamp : String) (r : Request) : List Import :=
  (k.artifact stamp r).source.imports.flatten ++ if k = .routes then [r.routerImport] else []

namespace Source.Import

/-- The module is that of a file of the request, and the file defines every name that is taken from it. -/
def Resolves (i : Import) (stamp : String) (r : Request) : Prop :=
  ∃ (k : ArtifactKind) (parts : List String), i.origin = r.modulePath parts ∧
    k.outputPath stamp r = r.outputPath (Artifact.segments parts) ∧
    ∀ name ∈ i.names.map takenName,
      name ∈ (k.artifact stamp r).source.defined ∧ DefinesAtTop (k.render stamp r) name

/-- From a module that no request writes, or from a file that is there. -/
def IsKnown (i : Import) (stamp : String) (r : Request) : Prop :=
  i.origin ∈ r.foreignModules ∨ i.Resolves stamp r

variable {stamp : String} {r : Request}

/-- An import of fewer names resolves as well. -/
theorem IsKnown.of_subset {origin : String} {names others : List String}
    (h : (⟨origin, names⟩ : Import).IsKnown stamp r) (hsub : others ⊆ names) :
    (⟨origin, others⟩ : Import).IsKnown stamp r := by
  refine h.imp_right ?_
  rintro ⟨k, parts, horigin, hpath, hnames⟩
  exact ⟨k, parts, horigin, hpath, fun name hname => hnames name (List.map_subset takenName hsub hname)⟩

theorem isKnown_library {origin : String} (h : origin ∈ libraryModules) (names : List String) :
    (⟨origin, names⟩ : Import).IsKnown stamp r :=
  Or.inl (List.mem_cons_of_mem _ h)

theorem isKnown_database (names : List String) : (⟨r.databaseModule, names⟩ : Import).IsKnown stamp r := by
  left
  simp only [Request.foreignModules, List.mem_cons, true_or]

/-! #### Imports from files -/

private theorem takenName_of_isPlain {name : String} (h : IsPlain name.toList) : takenName name = name := by
  have htake : name.toList.takeWhile (· != ' ') = name.toList := by
    refine List.takeWhile_eq_self_iff.2 fun c hc => ?_
    rw [bne_iff_ne]
    rintro rfl
    exact absurd (h _ hc) (by decide)
  rw [takenName, htake, String.ofList_toList]

/-- Names that a file defines can be taken from its module. -/
private theorem isKnown_of_defined {k : ArtifactKind} {names : List String}
    (h : ∀ name ∈ names, name ∈ (k.artifact stamp r).source.defined ∧ IsPlain name.toList) :
    (⟨r.modulePath (k.artifact stamp r).place, names⟩ : Import).IsKnown stamp r := by
  refine Or.inr ⟨k, (k.artifact stamp r).place, by dsimp only, by rw [ArtifactKind.outputPath], ?_⟩
  intro _ htaken
  obtain ⟨name, hname, rfl⟩ := List.mem_map.1 htaken
  obtain ⟨hdefined, hplain⟩ := h name hname
  rw [takenName_of_isPlain hplain]
  exact ⟨hdefined, SourceFile.definesAtTop hdefined hplain⟩

section Files

variable (hmodel : IsPlain r.model.toList)

include hmodel

private theorem isPlain_className {before after : String}
    (h : (before.toList ++ after.toList).all Text.isIdentChar = true) :
    IsPlain (r.className before after).toList := by
  have hwords := Naming.isPlain_of_all h
  rw [Request.className, String.toList_append, String.toList_append]
  refine IsPlain.append (IsPlain.append ?_ hmodel) ?_
  · exact fun c hc => hwords c (List.mem_append_left _ hc)
  · exact fun c hc => hwords c (List.mem_append_right _ hc)

theorem isKnown_model : (⟨r.modulePath r.modelPlace, [r.model]⟩ : Import).IsKnown stamp r := by
  refine isKnown_of_defined (k := .model) fun name hname => ?_
  rw [List.mem_singleton.1 hname]
  exact ⟨List.mem_cons_self, hmodel⟩

theorem isKnown_factory :
    (⟨r.modulePath r.factoryPlace, [r.className "" "Factory"]⟩ : Import).IsKnown stamp r := by
  refine isKnown_of_defined (k := .factory) fun name hname => ?_
  rw [List.mem_singleton.1 hname]
  exact ⟨List.mem_cons_of_mem _ List.mem_cons_self, isPlain_className hmodel (by decide)⟩

theorem isKnown_filter : (⟨r.modulePath r.filterPlace, [r.filterName]⟩ : Import).IsKnown stamp r := by
  refine isKnown_of_defined (k := .filter) fun name hname => ?_
  rw [List.mem_singleton.1 hname]
  exact ⟨List.mem_cons_self, isPlain_className hmodel (by decide)⟩

theorem isKnown_body (action : BodyAction) :
    (⟨r.modulePath (r.bodyPlace action.word), [r.bodyName action]⟩ : Import).IsKnown stamp r := by
  have hplain : IsPlain (r.bodyName action).toList := by
    cases action <;> exact isPlain_className hmodel (by decide)
  cases action with
  | create =>
    refine isKnown_of_defined (k := .createRequest) fun name hname => ?_
    rw [List.mem_singleton.1 hname]
    exact ⟨List.mem_cons_self, hplain⟩
  | update =>
    refine isKnown_of_defined (k := .updateRequest) fun name hname => ?_
    rw [List.mem_singleton.1 hname]
    exact ⟨List.mem_cons_self, hplain⟩

theorem isKnown_resource :
    (⟨r.modulePath r.resourcePlace, [r.collectionName, r.resourceName]⟩ : Import).IsKnown stamp r := by
  refine isKnown_of_defined (k := .resource) fun name hname => ?_
  simp only [List.mem_cons, List.not_mem_nil, or_false] at hname
  rcases hname with rfl | rfl
  · exact ⟨List.mem_cons_of_mem _ List.mem_cons_self, isPlain_className hmodel (by decide)⟩
  · exact ⟨List.mem_cons_self, isPlain_className hmodel (by decide)⟩

end Files

theorem isKnown_router : r.routerImport.IsKnown stamp r := by
  have htaken : takenName ("router as " ++ r.routerAlias) = "router" := by
    have hfront : "router as ".toList = "router".toList ++ ' ' :: "as ".toList := by decide
    rw [takenName, String.toList_append, hfront]
    simp
  refine Or.inr ⟨.controller, (ArtifactKind.controller.artifact stamp r).place, by dsimp only [Request.routerImport]; rfl,
    by rw [ArtifactKind.outputPath], ?_⟩
  intro name hname
  obtain rfl : name = "router" := (List.mem_singleton.1 hname).trans htaken
  have hdefined : "router" ∈ (ArtifactKind.controller.artifact stamp r).source.defined := List.mem_cons_self
  exact ⟨hdefined, SourceFile.definesAtTop hdefined (Naming.isPlain_of_all (by decide))⟩

end Source.Import

/-! ### Modules of files -/

namespace Request

variable {r : Request}

/-- The directories of generated files. -/
def directories : List String :=
  ["models", "controllers", "resources", "factories", "filters", "tests", "migrations", "seeders", "requests",
    "routes"]

/-- What the modules of the application begin with. -/
def lead (r : Request) : String :=
  if r.namespaceModule = "" then "" else r.namespaceModule ++ "."

theorem modulePath_cons {first : String} (h : first ≠ "") (rest : List String) :
    r.modulePath (first :: rest) = r.lead ++ ".".intercalate (first :: rest.filter (· ≠ "")) := by
  unfold modulePath lead
  by_cases hempty : r.namespaceModule = ""
  · simp [hempty, h]
  · simp [hempty, h, String.intercalate_cons_cons]

theorem databaseModule_eq (r : Request) : r.databaseModule = r.lead ++ "database" := by
  rw [databaseModule, modulePath_cons (by decide)]
  simp

private theorem exists_modulePath_eq {directory name : String} (hdirectory : directory ∈ directories) (hname : name ≠ "")
    (rest : List String) : ∃ tail, r.modulePath (directory :: name :: rest) = r.lead ++ (directory ++ "." ++ tail) := by
  have hne : directory ≠ "" := by
    rintro rfl
    exact absurd hdirectory (by decide)
  rw [modulePath_cons hne, List.filter_cons_of_pos (by simpa using hname), String.intercalate_cons_cons]
  exact ⟨_, rfl⟩

/-- Files in different directories have different modules. -/
theorem modulePath_ne {directory other name name' : String} (hdirectory : directory ∈ directories)
    (hother : other ∈ directories) (hne : directory ≠ other) (hname : name ≠ "") (hname' : name' ≠ "")
    (rest rest' : List String) : r.modulePath (directory :: name :: rest) ≠ r.modulePath (other :: name' :: rest') := by
  have hpoint : ∀ d ∈ directories, '.' ∉ d.toList := by decide +kernel
  obtain ⟨tail, hpath⟩ := r.exists_modulePath_eq hdirectory hname rest
  obtain ⟨tail', hpath'⟩ := r.exists_modulePath_eq hother hname' rest'
  rw [hpath, hpath']
  intro h
  have hchars := congrArg String.toList h
  rw [@String.toList_append r.lead, @String.toList_append r.lead] at hchars
  have hrest := List.append_cancel_left hchars
  have hone : ".".toList = ['.'] := rfl
  simp only [String.toList_append, hone, List.append_assoc, List.singleton_append] at hrest
  have hfront : directory.toList ++ ['.'] <+: other.toList ++ '.' :: tail'.toList :=
    hrest ▸ ⟨tail.toList, by simp⟩
  have hsame := (Text.append_singleton_prefix_iff (hpoint _ hdirectory) (hpoint _ hother)).1 hfront
  exact hne (String.toList_inj.1 hsame)

/-- The module of a file is none that no request writes. -/
theorem modulePath_not_mem_foreignModules {directory name : String} (hdirectory : directory ∈ directories)
    (hname : name ≠ "") (rest : List String) :
    r.modulePath (directory :: name :: rest) ∉ r.foreignModules := by
  obtain ⟨tail, hpath⟩ := r.exists_modulePath_eq hdirectory hname rest
  rw [hpath, foreignModules, databaseModule_eq, List.mem_cons, not_or]
  constructor
  · intro h
    have htext := congrArg String.toList h
    rw [@String.toList_append r.lead, @String.toList_append r.lead] at htext
    have hpoint : '.' ∈ (directory ++ "." ++ tail).toList := by simp
    rw [List.append_cancel_left htext] at hpoint
    exact absurd hpoint (by decide)
  · intro h
    unfold lead at h
    split at h
    · -- one library has a point in its name, and it is not named like a directory
      have hlibraries : ∀ m ∈ libraryModules, '.' ∈ m.toList → m = "sqlalchemy.orm" := by decide +kernel
      have hdirectories : ∀ d ∈ directories, ¬ d.toList <+: "sqlalchemy.orm".toList := by decide +kernel
      refine hdirectories directory hdirectory ?_
      rw [← hlibraries _ h (by simp)]
      simp [List.append_assoc]
    · -- no name of a library has two points
      have hlibraries : ∀ m ∈ libraryModules, m.toList.count '.' ≤ 1 := by decide +kernel
      have hcount := hlibraries _ h
      have hpoint : ".".toList.count '.' = 1 := by decide
      simp only [String.toList_append, List.count_append, hpoint] at hcount
      omega

end Request

/-! ### Collected imports -/

namespace Source.Imports

/-- Everything that is collected is known. -/
def AllKnown (imports : Imports) (stamp : String) (r : Request) : Prop :=
  ∀ e ∈ imports, (⟨e.1, e.2⟩ : Import).IsKnown stamp r

variable {stamp : String} {r : Request} {imports : Imports}

theorem AllKnown.put (h : imports.AllKnown stamp r) {origin : String} {names : List String}
    (hnew : (⟨origin, names⟩ : Import).IsKnown stamp r) : AllKnown (imports.put origin names) stamp r := by
  intro e he
  rcases Entries.mem_put he with rfl | he
  · exact hnew
  · exact h e he

theorem AllKnown.set (h : imports.AllKnown stamp r) {origin : String} {names : List String}
    (hnew : (⟨origin, names⟩ : Import).IsKnown stamp r) : (imports.set origin names).AllKnown stamp r :=
  h.put (hnew.of_subset fun _ hname => List.mem_eraseDups.1 hname)

theorem AllKnown.setLibrary (h : imports.AllKnown stamp r) (origin : String) (horigin : origin ∈ libraryModules)
    (names : List String) : (imports.set origin names).AllKnown stamp r :=
  h.put (Import.isKnown_library horigin _)

theorem AllKnown.whole (h : imports.AllKnown stamp r) {origin : String} (horigin : origin ∈ libraryModules) :
    (imports.whole origin).AllKnown stamp r :=
  h.put (Import.isKnown_library horigin _)

theorem AllKnown.add (h : imports.AllKnown stamp r) (origin : String) (horigin : origin ∈ libraryModules)
    (name : String) : (imports.add origin name).AllKnown stamp r :=
  h.put (Import.isKnown_library horigin _)

/-- Whether the condition holds or not. -/
theorem AllKnown.ite {others : Imports} (h : imports.AllKnown stamp r) (hothers : others.AllKnown stamp r)
    (p : Prop) [Decidable p] : AllKnown (if p then imports else others) stamp r := by
  split
  · exact h
  · exact hothers

theorem allKnown_nil : AllKnown [] stamp r := fun _ he => absurd he List.not_mem_nil

theorem allKnown_ofList {writes : List (String × List String)}
    (h : ∀ e ∈ writes, (⟨e.1, e.2⟩ : Import).IsKnown stamp r) : AllKnown (Entries.ofList writes) stamp r :=
  fun e he => h e (Entries.mem_ofList he)

theorem AllKnown.forType (h : imports.AllKnown stamp r) (hint : String) : (imports.forType hint).AllKnown stamp r := by
  have hmodules : ∀ e ∈ typeModules, e.2 ∈ libraryModules := by decide
  unfold Imports.forType
  split
  · rename_i origin horigin
    obtain ⟨before, after, he, -⟩ := List.lookup_eq_some_iff.1 horigin
    exact h.whole (hmodules (hint, origin) (by simp [he]))
  · exact h

theorem allKnown_typeImports (everyOptional : Bool) (fields : List Field) :
    (typeImports everyOptional fields).AllKnown stamp r := by
  unfold typeImports
  refine List.foldlRecOn (motive := fun imports => AllKnown imports stamp r) fields _ allKnown_nil ?_
  intro imports h f _
  exact ((h.forType _).add "typing" (by decide) _).ite (h.forType _) _

/-- The sections of a file have nothing but what was collected. -/
theorem AllKnown.sections (h : imports.AllKnown stamp r) :
    ∀ i ∈ (importSections r imports).flatten, i.IsKnown stamp r := by
  intro i hi
  obtain ⟨part, hpart, hi⟩ := List.mem_flatten.1 hi
  rcases List.mem_cons.1 hpart with rfl | hpart
  · rw [List.mem_singleton.1 hi]
    exact Import.isKnown_library (by decide) _
  · obtain ⟨s, -, rfl⟩ := List.mem_map.1 (List.mem_filter.1 hpart).1
    have hline := (List.mem_filter.1 hi).1
    rw [Imports.toLines, List.mem_mergeSort] at hline
    obtain ⟨e, he, rfl⟩ := List.mem_map.1 hline
    exact (h e he).of_subset fun name hname => (List.mem_mergeSort).1 hname

end Source.Imports

namespace Request

open Source.Imports (AllKnown allKnown_ofList allKnown_typeImports)

variable {stamp : String} {r : Request}

private theorem allKnown_modelImports (r : Request) : r.modelImports.AllKnown stamp r := by
  have hcolumns {imports : Imports} (h : imports.AllKnown stamp r) (f : Field) :
      AllKnown (let imports := imports.add "sqlalchemy" f.type.columnClass
        if f.isForeignKey then (imports.add "sqlalchemy" "ForeignKey").add "sqlalchemy.orm" "relationship"
        else imports) stamp r := by
    have htype := h.add "sqlalchemy" (by decide) f.type.columnClass
    exact ((htype.add "sqlalchemy" (by decide) _).add "sqlalchemy.orm" (by decide) _).ite htype _
  have htypes : AllKnown (Source.typeImports false r.fields) stamp r := allKnown_typeImports false r.fields
  have hfixed := (((htypes.setLibrary Source.timeModule (by decide) []).setLibrary "sqlalchemy" (by decide)
    ["DateTime", "func"]).setLibrary "sqlalchemy.orm" (by decide) ["Mapped", "mapped_column"]).set
    (Import.isKnown_database ["Base"])
  have hfields := List.foldlRecOn (motive := fun imports => AllKnown imports stamp r) r.fields _ hfixed
    fun imports h f _ => hcolumns h f
  exact (hfields.add "typing" (by decide) "Optional").ite hfields _

private theorem allKnown_bodyImports (r : Request) (action : BodyAction) : (r.bodyImports action).AllKnown stamp r :=
  (allKnown_typeImports _ r.fields).setLibrary "pydantic" (by decide) _

private theorem allKnown_resourceImports (r : Request) : r.resourceImports.AllKnown stamp r := by
  have htypes : AllKnown (Source.typeImports false r.fields) stamp r := allKnown_typeImports false r.fields
  have hlist := (htypes.setLibrary Source.timeModule (by decide) []).add "typing" (by decide) "List"
  exact ((hlist.add "typing" (by decide) "Optional").ite hlist _).setLibrary "pydantic" (by decide) _

private theorem allKnown_controllerImports (hmodel : IsPlain r.model.toList) :
    r.controllerImports.AllKnown stamp r := by
  -- one step for every condition under which the controller asks for more
  have hfixed : AllKnown (Entries.ofList
      [("fastapi", ["APIRouter", "Depends", "HTTPException", "Query"]), ("sqlalchemy", ["func", "select"]),
        ("sqlalchemy.orm", ["Session"]), (r.databaseModule, ["get_db"]),
        (r.modulePath r.modelPlace, [r.model])]) stamp r := by
    refine allKnown_ofList fun e he => ?_
    simp only [List.mem_cons, List.not_mem_nil, or_false] at he
    rcases he with rfl | rfl | rfl | rfl | rfl <;> dsimp only
    · exact Import.isKnown_library (by decide) _
    · exact Import.isKnown_library (by decide) _
    · exact Import.isKnown_library (by decide) _
    · exact Import.isKnown_database _
    · exact Import.isKnown_model hmodel
  have htyping := hfixed.ite (hfixed.setLibrary "typing" (by decide)
    ((if r.usesBodies && r.usesResource then [] else ["Any", "Dict"]) ++ if r.usesFilter then ["Optional"] else []))
    (((if r.usesBodies && r.usesResource then [] else ["Any", "Dict"]) ++
      if r.usesFilter then ["Optional"] else []).isEmpty = true)
  have htime := (htyping.setLibrary "datetime" (by decide) ["datetime", "timezone"]).ite htyping (r.softDelete = true)
  have hbodies := ((htime.set (Import.isKnown_body hmodel .create)).set (Import.isKnown_body hmodel .update)).ite
    (htime.add "fastapi" (by decide) "Body") (r.usesBodies = true)
  have hresource := (hbodies.set (Import.isKnown_resource hmodel)).ite hbodies (r.usesResource = true)
  exact (hresource.set (Import.isKnown_filter hmodel)).ite hresource _

end Request

namespace ArtifactKind

open Source.Import (isKnown_library)

variable {stamp : String} {r : Request}

/-- Whatever a file imports is known. -/
theorem isKnown_of_mem_imports (hmodel : IsPlain r.model.toList) (k : ArtifactKind) :
    ∀ i ∈ k.imports stamp r, i.IsKnown stamp r := by
  have hlibrary {i : Import} (h : i.origin ∈ libraryModules) : i.IsKnown stamp r := isKnown_library h i.names
  intro i hi
  rcases List.mem_append.1 hi with hi | hi
  · cases k with
    | model => exact (Request.allKnown_modelImports r).sections i hi
    | controller => exact (Request.allKnown_controllerImports hmodel).sections i hi
    | resource => exact (Request.allKnown_resourceImports r).sections i hi
    | createRequest => exact (Request.allKnown_bodyImports r .create).sections i hi
    | updateRequest => exact (Request.allKnown_bodyImports r .update).sections i hi
    | factory =>
      have hdate : ∀ i ∈ (if r.needsTimezone then [⟨"datetime", ["timezone"]⟩] else [] : List Import),
          i.origin ∈ libraryModules := by
        split <;> decide
      simp only [artifact, Artifact.factory, Request.factoryImports, Source.deferredHints, List.flatten_cons,
        List.flatten_nil, List.mem_append, List.mem_cons, List.not_mem_nil, or_false] at hi
      rcases hi with rfl | (hi | rfl) | rfl | rfl
      · exact hlibrary (by decide)
      · exact hlibrary (hdate i hi)
      · exact hlibrary (by decide)
      · exact hlibrary (by decide)
      · exact Source.Import.isKnown_model hmodel
    | filter =>
      simp only [artifact, Artifact.filter, Source.deferredHints, List.flatten_cons, List.flatten_nil,
        List.mem_append, List.mem_cons, List.not_mem_nil, or_false] at hi
      rcases hi with rfl | rfl | rfl | rfl
      · exact hlibrary (by decide)
      · exact hlibrary (by decide)
      · exact hlibrary (by decide)
      · exact Source.Import.isKnown_model hmodel
    | seeder =>
      simp only [artifact, Artifact.seeder, Source.deferredHints, List.flatten_cons, List.flatten_nil,
        List.mem_append, List.mem_cons, List.not_mem_nil, or_false] at hi
      rcases hi with rfl | rfl | rfl
      · exact hlibrary (by decide)
      · exact hlibrary (by decide)
      · exact Source.Import.isKnown_factory hmodel
    | test =>
      have hall : ∀ i ∈ ([Source.deferredHints, [⟨"typing", ["Any", "Dict"]⟩], [⟨"pytest", []⟩]] : List (List Import)).flatten,
          i.origin ∈ libraryModules := by
        decide
      exact hlibrary (hall i hi)
    | migration =>
      have hall : ∀ i ∈ ([[⟨"sqlalchemy as sa", []⟩, ⟨"alembic", ["op"]⟩]] : List (List Import)).flatten,
          i.origin ∈ libraryModules := by
        decide
      exact hlibrary (hall i hi)
    | routes =>
      have hall : ∀ i ∈ ([[⟨"fastapi", ["APIRouter"]⟩]] : List (List Import)).flatten,
          i.origin ∈ libraryModules := by
        decide
      exact hlibrary (hall i hi)
  · split at hi
    · rw [List.mem_singleton.1 hi]
      exact Source.Import.isKnown_router
    · cases hi

/-- The module of a file of the request is neither a library nor the module of the database. -/
theorem modulePath_not_foreign (hsnake : r.snake ≠ "") (k : ArtifactKind) :
    r.modulePath (k.artifact stamp r).place ∉ r.foreignModules := by
  have hafter (word : String) : r.snake ++ word ≠ "" := by simp [hsnake]
  cases k with
  | model => exact Request.modulePath_not_mem_foreignModules (by decide) hsnake _
  | controller | factory | filter | seeder =>
    exact Request.modulePath_not_mem_foreignModules (by decide) (hafter _) _
  | resource | createRequest | updateRequest =>
    exact Request.modulePath_not_mem_foreignModules (by decide) hsnake _
  | test | migration | routes => exact Request.modulePath_not_mem_foreignModules (by decide) (by decide) _

/-- Every import of a file is from a library, from the module of the database, or from a file of the same request
that defines every name that is taken from it. -/
theorem imports_resolve {c : Command} {a : Arguments} {r : Request} (h : c.request a = .ok r)
    (hname : '\n' ∉ a.model.toList) (k : ArtifactKind) (stamp : String) :
    (∀ i ∈ k.imports stamp r, i.origin ∈ r.foreignModules ∨ i.Resolves stamp r) ∧
      r.modulePath (k.artifact stamp r).place ∉ r.foreignModules := by
  have hmodel := Command.model_of_request h
  exact ⟨k.isKnown_of_mem_imports (isPlain_of_modelName hmodel hname), k.modulePath_not_foreign (snake_ne_empty hmodel)⟩

theorem imports_resolve_of_post :
    let c : Command := ⟨.fallback, .standard, reservedWords⟩
    let a : Arguments := ⟨"blogPost2", none, [("controller", true), ("resource", true)], none, .text "out", .absent⟩
    '\n' ∉ a.model.toList ∧ ∃ r, c.request a = .ok r ∧ ∀ i ∈ controller.imports "2024_05_01_123045" r,
      i.origin ∈ r.foreignModules ∨ i.Resolves "2024_05_01_123045" r := by
  intro c a
  have hname : '\n' ∉ a.model.toList := by decide
  have hok : (c.request a).isOk = true := by decide +kernel
  cases hrequest : c.request a with
  | error failure =>
    rw [hrequest] at hok
    cases hok
  | ok r => exact ⟨hname, r, rfl, (imports_resolve hrequest hname controller _).1⟩

end ArtifactKind

end CrudScaffold
