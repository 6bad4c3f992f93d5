import CrudScaffold.Proofs.Artifact.Needs
import CrudScaffold.Proofs.Run.Routers
import Mathlib.Data.List.Flatten
import Mathlib.Data.List.Perm.Subperm

/-!
# Names that a file binds

At the top level a file binds names that it takes from modules which no request writes, and names of its own: those that
it takes from other files, and those that it defines.  The names of one sort are distinct.  A name of the first sort is
bound again if the model's class has it, or if the function that shows a row does (`nodup_bindings_iff`).  The routes file
is written with the block of a controller, which may bind the name of the application's router again.
-/

namespace CrudScaffold

open Source (Import)

/-! ### Names of classes -/

namespace Request

/-- What stands before and after the model's name in the names of classes. -/
def classWords : List (String × String) :=
  [("", ""), ("Create", "Request"), ("Update", "Request"), ("", "Collection"), ("", "Resource"), ("", "Filters"),
    ("", "Factory"), ("", "Seeder")]

variable {r : Request}

theorem className_empty (r : Request) : r.className "" "" = r.model := by
  simp [className]

/-- Classes with different words have different names. -/
theorem className_inj {words words' : String × String} (hwords : words ∈ classWords) (hwords' : words' ∈ classWords)
    (h : r.className words.1 words.2 = r.className words'.1 words'.2) : words = words' := by
  have hdiffer : ∀ p ∈ classWords, ∀ q ∈ classWords, p = q ∨
      (Text.startsWith p.1 q.1 = false ∧ Text.startsWith q.1 p.1 = false) ∨
      (Text.endsWith p.2 q.2 = false ∧ Text.endsWith q.2 p.2 = false) ∨
      p.1.length + p.2.length ≠ q.1.length + q.2.length := by
    decide
  obtain hsame | ⟨hfront, hfront'⟩ | ⟨hend, hend'⟩ | hlength := hdiffer words hwords words' hwords'
  · exact hsame
  · rw [className, className, String.append_assoc, String.append_assoc] at h
    exact absurd h (Text.append_ne_of_fronts hfront hfront' _ _)
  · exact absurd h (Text.append_ne_of_ends hend hend' _ _)
  · have hlengths := congrArg String.length h
    simp only [className, String.length_append] at hlengths
    omega

/-- The names of classes begin with capital letters. -/
theorem isUpper_head_className (hupper : r.model.toList.head?.any Char.isUpper = true) {words : String × String}
    (hwords : words ∈ classWords) : (r.className words.1 words.2).toList.head?.any Char.isUpper = true := by
  have hfronts : ∀ words ∈ classWords, words.1 = "" ∨ words.1.toList.head?.any Char.isUpper = true := by decide
  unfold className
  rcases hfronts words hwords with hempty | hfront
  · rw [hempty, String.empty_append]
    exact Text.any_head_append hupper _
  · exact Text.any_head_append (Text.any_head_append hfront _) _

end Request

namespace ArtifactKind

variable {stamp : String} {r : Request} {k : ArtifactKind} {name : String}

/-! ### The two sorts of names -/

/-- The names that a file takes from modules which no request writes. -/
def foreignNames (k : ArtifactKind) (stamp : String) (r : Request) : List String :=
  ((k.artifact stamp r).source.imports.flatten.filter fun i => i.origin ∈ r.foreignModules).flatMap Import.binds

/-- The names that a file takes from other files, and those that it defines. -/
def ownNames (k : ArtifactKind) (stamp : String) (r : Request) : List String :=
  ((k.artifact stamp r).source.imports.flatten.filter fun i => !decide (i.origin ∈ r.foreignModules)).flatMap
    Import.binds ++ (k.artifact stamp r).source.defined

theorem perm_bindings (k : ArtifactKind) (stamp : String) (r : Request) :
    (k.artifact stamp r).source.bindings.Perm (k.foreignNames stamp r ++ k.ownNames stamp r) := by
  unfold foreignNames ownNames Source.SourceFile.bindings Source.SourceFile.defined
  rw [← List.append_assoc, ← List.append_assoc, ← List.flatMap_append]
  exact (((List.filter_append_perm _ _).symm.flatMap_right _).append_right _).append_right _

/-! ### Names of libraries -/

/-- All names that files take from modules which no request writes. -/
def libraryNames : List String :=
  "annotations" :: "Base" :: "get_db" :: libraryRows.map Prod.fst

private theorem within_foreignRows (hblank : ' ' ∉ r.model.toList) (hsnake : r.snake ≠ "") {i : Import}
    (hi : i ∈ (k.artifact stamp r).source.imports.flatten) (horigin : i.origin ∈ r.foreignModules) :
    i.Within (("annotations", "__future__") :: r.foreignRows) := by
  have hwithin := (k.within_imports hblank hsnake stamp).2 i hi
  refine ⟨hwithin.nodup, hwithin.unnamed, fun name hname => ?_⟩
  rcases List.mem_cons.1 (hwithin.rows name hname) with hfuture | hrow
  · rw [hfuture]
    exact List.mem_cons_self
  · rcases List.mem_append.1 hrow with hrow | hrow
    · exact List.mem_cons_of_mem _ hrow
    · obtain ⟨k', -, hrow⟩ := List.mem_flatMap.1 hrow
      obtain ⟨_, -, hrow⟩ := List.mem_map.1 hrow
      rw [← (Prod.mk.inj hrow).2] at horigin
      exact absurd horigin (needed_not_foreign hsnake k')

theorem nodup_foreignNames (hblank : ' ' ∉ r.model.toList) (hsnake : r.snake ≠ "") (k : ArtifactKind)
    (stamp : String) : (k.foreignNames stamp r).Nodup := by
  have hnames : libraryNames.Nodup := by decide
  have htable : ((("annotations", "__future__") :: r.foreignRows).map Prod.fst).Nodup := hnames
  have horigins := (k.within_imports hblank hsnake stamp).1
  refine Source.nodup_flatMap_binds htable ?_ fun i hi => ?_
  · exact horigins.sublist (List.filter_sublist.map _)
  · obtain ⟨hmem, horigin⟩ := List.mem_filter.1 hi
    exact within_foreignRows hblank hsnake hmem (of_decide_eq_true horigin)

theorem foreignNames_subset (hblank : ' ' ∉ r.model.toList) (hsnake : r.snake ≠ "") (k : ArtifactKind)
    (stamp : String) : k.foreignNames stamp r ⊆ libraryNames := by
  intro name hname
  obtain ⟨i, hi, hname⟩ := List.mem_flatMap.1 hname
  obtain ⟨hmem, horigin⟩ := List.mem_filter.1 hi
  have hrow := (within_foreignRows hblank hsnake hmem (of_decide_eq_true horigin)).rows name hname
  exact List.mem_map_of_mem (f := Prod.fst) hrow

/-! ### Own names -/

/-- The classes that a file may take from other files or define, by the words around the model's name. -/
private def classes : ArtifactKind → List (String × String)
  | model => [("", "")]
  | controller =>
    [("", ""), ("Create", "Request"), ("Update", "Request"), ("", "Collection"), ("", "Resource"), ("", "Filters")]
  | resource => [("", "Resource"), ("", "Collection")]
  | createRequest => [("Create", "Request")]
  | updateRequest => [("Update", "Request")]
  | factory => [("", ""), ("", "Factory")]
  | filter => [("", ""), ("", "Filters")]
  | seeder => [("", "Factory"), ("", "Seeder")]
  | test | migration | routes => []

/-- The other names of its own that a file may have, each with its front apart. -/
private def values (r : Request) : ArtifactKind → List (String × String)
  | controller =>
    [("router", ""), ("_serialize", ""), ("_find_or_404", ""), ("list_", r.plural), ("get_", r.snake),
      ("create_", r.snake), ("update_", r.snake), ("delete_", r.snake)]
  | factory => [("fake", "")]
  | test =>
    [("URL", ""), ("payload", ""), ("_create", ""), ("test_create_", r.snake), ("test_list_", r.plural),
      ("test_show_", r.snake), ("test_show_missing_", r.snake ++ "_returns_404"), ("test_update_", r.snake),
      ("test_delete_", r.snake), ("test_deleted_", r.snake ++ "_is_hidden_from_list")]
  | migration =>
    [("revision", ""), ("down_revision", ""), ("branch_labels", ""), ("depends_on", ""), ("upgrade", ""),
      ("downgrade", "")]
  | routes => [("router", ""), ("api_router", "")]
  | model | resource | createRequest | updateRequest | filter | seeder => []

/-- What the other names begin with, whatever the request is. -/
private def fronts (k : ArtifactKind) : List String :=
  (values ⟨"", ⟨fun _ => false⟩, ⟨[]⟩, "", "", ""⟩ k).map Prod.fst

private theorem map_fst_values (r : Request) (k : ArtifactKind) : (values r k).map Prod.fst = k.fronts := by
  cases k <;> simp only [values, fronts, List.map_cons, List.map_nil]

/-- All names of its own that a file may have. -/
private def allNames (r : Request) (k : ArtifactKind) : List String :=
  k.classes.map (fun words => r.className words.1 words.2) ++ (values r k).map fun p => p.1 ++ p.2

private theorem classes_subset (k : ArtifactKind) : k.classes ⊆ Request.classWords := by
  cases k <;> decide

private theorem defined_controller (r : Request) : (Artifact.controller r).source.defined =
    "router" :: (r.controllerFunctions.map .function).map Source.Definition.name :=
  rfl

/-- The names that a file takes from other files and those that it defines are among them, each counted once. -/
private theorem subperm_allNames (k : ArtifactKind) (stamp : String) (r : Request) :
    ((k.needs r).flatMap r.exports ++ (k.artifact stamp r).source.defined).Subperm (allNames r k) := by
  have hmodel := r.className_empty
  cases k with
  | model =>
    have hall : allNames r model = [r.className "" ""] := rfl
    rw [hall, hmodel]
    exact List.Subperm.refl _
  | controller =>
    have hall : allNames r controller = [r.className "" "", r.bodyName .create, r.bodyName .update, r.collectionName,
        r.resourceName, r.filterName] ++ (values r controller).map fun p => p.1 ++ p.2 := rfl
    have hneeds : (controller.needs r).Sublist [model, createRequest, updateRequest, resource, filter] := by
      unfold needs
      cases r.usesBodies <;> cases r.usesResource <;> cases r.usesFilter <;> decide
    have hfunctions : (Artifact.controller r).source.defined.Sublist
        ((values r controller).map fun p => p.1 ++ p.2) := by
      simp only [values, List.map_cons, List.map_nil, String.append_empty]
      rw [defined_controller, Request.controllerFunctions]
      refine List.Sublist.cons_cons _ ?_
      split
      · exact List.sublist_cons_self _ _
      · exact List.Sublist.refl _
    rw [hall, hmodel]
    exact ((hneeds.flatMap r.exports).append hfunctions).subperm
  | factory =>
    have hall : allNames r factory = [r.className "" "", r.className "" "Factory"] ++ ["fake" ++ ""] := rfl
    rw [hall, hmodel, String.append_empty]
    exact ((List.Perm.swap _ _ _).cons _).subperm
  | filter =>
    have hall : allNames r filter = [r.className "" "", r.className "" "Filters"] := rfl
    rw [hall, hmodel]
    exact List.Subperm.refl _
  | test =>
    have hdefined : (Artifact.featureTest r).source.defined =
        "URL" :: (r.testFunctions.map .function).map Source.Definition.name := rfl
    have hfunctions : (Artifact.featureTest r).source.defined.Sublist ((values r test).map fun p => p.1 ++ p.2) := by
      simp only [values, List.map_cons, List.map_nil, String.append_empty, ← String.append_assoc]
      rw [hdefined, Request.testFunctions]
      refine List.Sublist.cons_cons _ ?_
      split
      · exact List.Sublist.refl _
      · exact List.sublist_append_left [_, _, _, _, _, _, _, _] [_]
    exact hfunctions.subperm
  | migration | routes =>
    simp only [allNames, classes, values, List.map_nil, List.map_cons, List.nil_append, String.append_empty]
    exact List.Subperm.refl _
  | resource | createRequest | updateRequest | seeder => exact List.Subperm.refl _

private theorem nodup_values (r : Request) (k : ArtifactKind) : ((values r k).map fun p => p.1 ++ p.2).Nodup := by
  cases k with
  | test =>
    -- one front is the front of another one; the two names differ in length
    have hmove : (values r test).Perm (("test_show_missing_", r.snake ++ "_returns_404") :: ("test_show_", r.snake) ::
        [("URL", ""), ("payload", ""), ("_create", ""), ("test_create_", r.snake), ("test_list_", r.plural),
          ("test_update_", r.snake), ("test_delete_", r.snake),
          ("test_deleted_", r.snake ++ "_is_hidden_from_list")]) :=
      (@List.perm_middle _ _ [_, _, _, _, _, _] _).trans ((@List.perm_middle _ _ [_, _, _, _, _] _).cons _)
    rw [(hmove.map _).nodup_iff, List.map_cons, List.nodup_cons]
    constructor
    · have hfronts : ∀ front ∈ ["URL", "payload", "_create", "test_create_", "test_list_", "test_update_",
          "test_delete_", "test_deleted_"], Text.startsWith front "test_show_missing_" = false ∧
            Text.startsWith "test_show_missing_" front = false := by
        decide
      intro hmem
      obtain ⟨p, hp, hsame⟩ := List.mem_map.1 hmem
      rcases List.mem_cons.1 hp with rfl | hp
      · have hlengths := congrArg String.length hsame
        simp only [String.length_append] at hlengths
        have hwords : "test_show_".length < "test_show_missing_".length := by decide
        omega
      · obtain ⟨hfront, hfront'⟩ := hfronts p.1 (List.mem_map_of_mem (f := Prod.fst) hp)
        exact Text.append_ne_of_fronts hfront hfront' _ _ hsame
    · refine Text.nodup_of_fronts ?_
      have hfronts : ["test_show_", "URL", "payload", "_create", "test_create_", "test_list_", "test_update_",
          "test_delete_", "test_deleted_"].Pairwise fun a b => Text.startsWith a b = false ∧
            Text.startsWith b a = false := by
        decide
      exact hfronts
  | _ =>
    refine Text.nodup_of_fronts ?_
    rw [map_fst_values]
    decide

/-- No other name of a file with classes begins with a capital letter. -/
private theorem head_fronts {words : String × String} (hwords : words ∈ k.classes) {front : String}
    (hfront : front ∈ k.fronts) : front.toList.head?.any (fun c => !c.isUpper) = true := by
  have hall : k.classes = [] ∨ ∀ front ∈ k.fronts, front.toList.head?.any (fun c => !c.isUpper) = true := by
    cases k <;> decide
  exact hall.resolve_left (List.ne_nil_of_mem hwords) front hfront

private theorem nodup_allNames (hupper : r.model.toList.head?.any Char.isUpper = true) (k : ArtifactKind) :
    (allNames r k).Nodup := by
  refine List.nodup_append.2 ⟨?_, nodup_values r k, ?_⟩
  · have hwords : k.classes.Nodup := by
      cases k <;> decide
    exact hwords.map_on fun words hw words' hw' h =>
      Request.className_inj (k.classes_subset hw) (k.classes_subset hw') h
  · intro name hname other hother heq
    obtain ⟨words, hwords, rfl⟩ := List.mem_map.1 hname
    obtain ⟨p, hp, rfl⟩ := List.mem_map.1 hother
    have hcapital := Request.isUpper_head_className hupper (k.classes_subset hwords)
    have hsmall := Text.any_head_append (head_fronts hwords (map_fst_values r k ▸ List.mem_map_of_mem hp)) p.2
    rw [heq] at hcapital
    rw [Option.any_eq_true] at hcapital hsmall
    obtain ⟨c, hc, hupper⟩ := hcapital
    obtain ⟨d, hd, hlower⟩ := hsmall
    rw [Option.some.inj (hc.symm.trans hd)] at hupper
    simp [hupper] at hlower

section Files

variable (hblank : ' ' ∉ r.model.toList) (hsnake : r.snake ≠ "")

include hblank hsnake

/-- The lines for other files are within the table of the needed files, and bind names that are needed. -/
private theorem fileLines (k : ArtifactKind) (stamp : String) :
    let lines := (k.artifact stamp r).source.imports.flatten.filter fun i => !decide (i.origin ∈ r.foreignModules)
    lines.flatMap Import.binds ⊆ (k.needs r).flatMap r.exports ∧
      (((k.needs r).flatMap r.exports).Nodup → (lines.flatMap Import.binds).Nodup) := by
  intro lines
  have hlines : ∀ i ∈ lines, i ∈ (k.artifact stamp r).source.imports.flatten ∧ i.origin ∉ r.foreignModules := by
    intro i hi
    obtain ⟨hmem, horigin⟩ := List.mem_filter.1 hi
    rw [Bool.not_eq_true', decide_eq_false_iff_not] at horigin
    exact ⟨hmem, horigin⟩
  constructor
  · intro name hname
    obtain ⟨i, hi, hname⟩ := List.mem_flatMap.1 hname
    obtain ⟨k', hk', hexport, -⟩ := exists_needed_of_binds hblank hsnake (hlines i hi).1 (hlines i hi).2 hname
    exact List.mem_flatMap.2 ⟨k', hk', hexport⟩
  · intro hnodup
    have hrows (k' : ArtifactKind) : (r.rowsOf k').map Prod.fst = r.exports k' := by
      simp [Request.rowsOf, Function.comp_def]
    have hnames : ((k.needs r).flatMap r.rowsOf).map Prod.fst = (k.needs r).flatMap r.exports := by
      simp only [List.map_flatMap, hrows]
    refine Source.nodup_flatMap_binds (hnames ▸ hnodup) ?_ fun i hi => ?_
    · exact (k.within_imports hblank hsnake stamp).1.sublist (List.filter_sublist.map _)
    · obtain ⟨hmem, horigin⟩ := hlines i hi
      have hwithin := (k.within_imports hblank hsnake stamp).2 i hmem
      refine ⟨hwithin.nodup, hwithin.unnamed, fun name hname => ?_⟩
      obtain ⟨k', hk', hexport, hmodule⟩ := exists_needed_of_binds hblank hsnake hmem horigin hname
      exact List.mem_flatMap.2 ⟨k', hk', List.mem_map.2 ⟨name, hexport, by rw [hmodule]⟩⟩

private theorem ownNames_subset (k : ArtifactKind) (stamp : String) : k.ownNames stamp r ⊆ allNames r k := by
  refine List.Subset.trans ?_ (subperm_allNames k stamp r).subset
  have hfiles := (fileLines hblank hsnake k stamp).1
  exact List.append_subset.2 ⟨List.subset_append_of_subset_left _ hfiles, List.subset_append_right _ _⟩

private theorem nodup_ownNames (hupper : r.model.toList.head?.any Char.isUpper = true) (k : ArtifactKind)
    (stamp : String) : (k.ownNames stamp r).Nodup := by
  obtain ⟨own, hperm, hsub⟩ := subperm_allNames k stamp r
  obtain ⟨hsubset, hnodup⟩ := fileLines hblank hsnake k stamp
  have hall := hperm.nodup_iff.1 ((nodup_allNames hupper k).sublist hsub)
  obtain ⟨hneeded, hdefined, hapart⟩ := List.nodup_append.1 hall
  exact List.nodup_append.2 ⟨hnodup hneeded, hdefined, fun name hname => hapart name (hsubset hname)⟩

end Files

/-! ### Names of both sorts -/

private theorem get_eq_get_db_iff {s : String} : "get_" ++ s = "get_db" ↔ s = "db" := by
  have hname : "get_" ++ "db" = "get_db" := by decide
  rw [← hname]
  refine ⟨fun h => ?_, fun h => h ▸ rfl⟩
  have hchars := congrArg String.toList h
  rw [String.toList_append, String.toList_append] at hchars
  exact String.toList_inj.1 (List.append_cancel_left hchars)

/-- Of the names of its own, a file shares none with a library but the model's, and the controller the one of the
function that shows a row. -/
private theorem eq_of_mem_libraryNames (hname : name ∈ allNames r k) (hlibrary : name ∈ libraryNames) :
    (name = r.model ∧ ("", "") ∈ k.classes) ∨ (name = "get_db" ∧ k = controller ∧ r.snake = "db") := by
  rcases List.mem_append.1 hname with hname | hname
  · have hends : ∀ words ∈ Request.classWords, words = ("", "") ∨
        ∀ name ∈ libraryNames, Text.endsWith words.2 name = false := by
      decide
    obtain ⟨words, hwords, rfl⟩ := List.mem_map.1 hname
    rcases hends words (k.classes_subset hwords) with rfl | hends
    · exact Or.inl ⟨r.className_empty, hwords⟩
    · have hend : Text.endsWith words.2 (r.className words.1 words.2) = true := by
        rw [Text.endsWith_iff, Request.className, String.toList_append]
        exact List.suffix_append _ _
      rw [hends _ hlibrary] at hend
      cases hend
  · have hfronts : ∀ front ∈ k.fronts, ∀ name ∈ libraryNames, Text.startsWith front name = true →
        k = controller ∧ front = "get_" ∧ name = "get_db" := by
      cases k <;> decide
    obtain ⟨p, hp, rfl⟩ := List.mem_map.1 hname
    have hstart : Text.startsWith p.1 (p.1 ++ p.2) = true := by
      rw [Text.startsWith_iff, String.toList_append]
      exact List.prefix_append _ _
    have hfront : p.1 ∈ k.fronts := map_fst_values r k ▸ List.mem_map_of_mem hp
    obtain ⟨rfl, hget, hdb⟩ := hfronts p.1 hfront _ hlibrary hstart
    have hrest : p.2 = r.snake := by
      simp only [values, List.mem_cons, List.not_mem_nil, or_false] at hp
      rcases hp with rfl | rfl | rfl | rfl | rfl | rfl | rfl | rfl
      case inr.inr.inr.inr.inl => rfl
      all_goals simp at hget
    rw [hget, hrest] at hdb
    exact Or.inr ⟨by rw [hget, hrest, hdb], rfl, get_eq_get_db_iff.1 hdb⟩

/-! ### Lines that are always there -/

/-- What the controller asks for at first is not asked for again if its module is another one. -/
private theorem mem_controllerImports {origin : String} {names : List String} (hlibrary : origin ∉ libraryModules)
    (hfile : ∀ k ∈ [createRequest, updateRequest, resource, filter], origin ≠ r.modulePath (k.artifact "" r).place)
    (hfixed : (origin, names) ∈ (Entries.ofList
      [("fastapi", ["APIRouter", "Depends", "HTTPException", "Query"]), ("sqlalchemy", ["func", "select"]),
        ("sqlalchemy.orm", ["Session"]), (r.databaseModule, ["get_db"]),
        (r.modulePath r.modelPlace, [r.model])] : Source.Imports)) :
    (origin, names) ∈ r.controllerImports := by
  -- one step for every condition under which the controller asks for more
  have hset {imports : Source.Imports} (h : (origin, names) ∈ imports) (library : String)
      (hmem : library ∈ libraryModules) (others : List String) : (origin, names) ∈ imports.set library others :=
    Entries.mem_put_of_ne h (ne_of_mem_of_not_mem hmem hlibrary).symm
  have hneed {imports : Source.Imports} (h : (origin, names) ∈ imports) (k : ArtifactKind)
      (hk : k ∈ [createRequest, updateRequest, resource, filter]) :
      (origin, names) ∈ imports.set (r.modulePath (k.artifact "" r).place) (r.exports k) :=
    Entries.mem_put_of_ne h (hfile k hk)
  have hite {imports others : Source.Imports} (h : (origin, names) ∈ imports) (h' : (origin, names) ∈ others) (p : Prop)
      [Decidable p] : (origin, names) ∈ if p then imports else others := by
    split
    · exact h
    · exact h'
  have htyping := hite hfixed (hset hfixed "typing" (by decide)
    ((if r.usesBodies && r.usesResource then [] else ["Any", "Dict"]) ++ if r.usesFilter then ["Optional"] else []))
    (((if r.usesBodies && r.usesResource then [] else ["Any", "Dict"]) ++
      if r.usesFilter then ["Optional"] else []).isEmpty = true)
  have htime := hite (hset htyping "datetime" (by decide) ["datetime", "timezone"]) htyping (r.softDelete = true)
  have hbody : (origin, names) ∈ Source.Imports.add "fastapi" "Body" _ :=
    Entries.mem_put_of_ne htime (ne_of_mem_of_not_mem (by decide : "fastapi" ∈ libraryModules) hlibrary).symm
  have hbodies := hite (hneed (hneed htime createRequest (by decide)) updateRequest (by decide)) hbody
    (r.usesBodies = true)
  have hresource := hite (hneed hbodies resource (by decide)) hbodies (r.usesResource = true)
  exact hite (hneed hresource filter (by decide)) hresource (r.usesFilter = true)

private theorem model_mem_controllerImports (hsnake : r.snake ≠ "") :
    (r.modulePath r.modelPlace, [r.model]) ∈ r.controllerImports := by
  refine mem_controllerImports (fun hmem => ?_) (fun k hk => ?_) ?_
  · exact needed_not_foreign hsnake model (List.mem_cons_of_mem _ hmem)
  · have hafter : r.snake ++ "_filters" ≠ "" := by simp
    simp only [List.mem_cons, List.not_mem_nil, or_false] at hk
    rcases hk with rfl | rfl | rfl | rfl
    · exact Request.modulePath_ne (by decide) (by decide) (by decide) hsnake hsnake _ _
    · exact Request.modulePath_ne (by decide) (by decide) (by decide) hsnake hsnake _ _
    · exact Request.modulePath_ne (by decide) (by decide) (by decide) hsnake hsnake _ _
    · exact Request.modulePath_ne (by decide) (by decide) (by decide) hsnake hafter _ _
  · simp only [Entries.ofList, List.foldl_cons, List.foldl_nil]
    exact Entries.mem_put_self _ _ _

private theorem database_mem_controllerImports (hsnake : r.snake ≠ "") :
    (r.databaseModule, ["get_db"]) ∈ r.controllerImports := by
  have hfile (k : ArtifactKind) : r.databaseModule ≠ r.modulePath (k.artifact "" r).place := fun heq =>
    needed_not_foreign hsnake k (heq ▸ List.mem_cons_self)
  refine mem_controllerImports r.databaseModule_not_mem_libraryModules (fun k _ => hfile k) ?_
  simp only [Entries.ofList, List.foldl_cons, List.foldl_nil]
  refine Entries.mem_put_of_ne (Entries.mem_put_self _ _ _) ?_
  dsimp only
  exact hfile model

/-- A line for a single name stays as it was asked for. -/
private theorem line_of_controllerImports {origin name : String} (h : (origin, [name]) ∈ r.controllerImports) :
    ⟨origin, [name]⟩ ∈ (Artifact.controller r).source.imports.flatten := by
  refine (Source.perm_importSections r r.controllerImports).symm.subset (List.mem_cons_of_mem _ ?_)
  have hsorted : Source.sortTexts [name] = [name] := List.mergeSort_singleton name
  exact List.mem_map.2 ⟨(origin, [name]), h, by rw [hsorted]⟩

section Files

variable (hblank : ' ' ∉ r.model.toList) (hsnake : r.snake ≠ "")

include hblank hsnake

private theorem model_mem_ownNames (hclass : ("", "") ∈ k.classes) (stamp : String) :
    r.model ∈ k.ownNames stamp r := by
  have hline : k = model ∨ ⟨r.modulePath r.modelPlace, [r.model]⟩ ∈ (k.artifact stamp r).source.imports.flatten := by
    cases k with
    | model => exact Or.inl rfl
    | controller => exact Or.inr (line_of_controllerImports (model_mem_controllerImports hsnake))
    | factory | filter => simp [artifact, Artifact.factory, Artifact.filter, Request.factoryImports, Request.modelImport]
    | _ => exact absurd hclass (by decide)
  rcases hline with rfl | hline
  · exact List.mem_append_right _ List.mem_cons_self
  · refine List.mem_append_left _ (List.mem_flatMap.2 ⟨_, List.mem_filter.2 ⟨hline, ?_⟩, ?_⟩)
    · have horigin : r.modulePath r.modelPlace ∉ r.foreignModules := needed_not_foreign hsnake model
      simpa using horigin
    · have hunnamed : ∀ name ∈ [r.model], Import.alias? name = none := Request.unnamed_exports hblank model
      rw [Import.binds_of_names (by simp) hunnamed]
      exact List.mem_singleton_self _

omit hblank in
private theorem get_db_mem_foreignNames (stamp : String) : "get_db" ∈ controller.foreignNames stamp r := by
  have hline := line_of_controllerImports (database_mem_controllerImports hsnake)
  refine List.mem_flatMap.2 ⟨_, List.mem_filter.2 ⟨hline, ?_⟩, ?_⟩
  · have horigin : r.databaseModule ∈ r.foreignModules := List.mem_cons_self
    simpa using horigin
  · have hunnamed : ∀ name ∈ ["get_db"], Import.alias? name = none := by decide
    rw [Import.binds_of_names (by simp) hunnamed]
    exact List.mem_singleton_self _

end Files

/-! ### Names that are bound once -/

/-- The words alone around the model's name are those of its own class. -/
private theorem mem_classes_iff (k : ArtifactKind) : ("", "") ∈ k.classes ↔ k ∈ [model, controller, factory, filter] := by
  cases k <;> decide

/-- The routes file that a first registration writes binds no name twice, unless the model is named `api`. -/
private theorem nodup_boundNames_registered (r : Request) : ∃ text, r.registered? "" = some text ∧
    ((Source.boundNames text).Nodup ↔ r.snake ≠ "api") := by
  refine ⟨_, r.registered?_empty, ?_⟩
  have honce := @Request.nodup_boundNames_iff [r]
  rw [List.map_singleton, List.mem_singleton] at honce
  exact honce.trans (not_congr eq_comm)

/-- Every name that a file takes from a module which no request writes is one of a fixed list.  A file binds no name
twice exactly if none of these is the name of the model, where the class of the model is used or defined, and if the
function of the controller that shows a row is not named like the connection to the database.  What is rendered of the
routes file is without controllers; with the block of the first one it binds no name twice exactly if the model is not
named `api`. -/
theorem nodup_bindings_iff {c : Command} {a : Arguments} {r : Request} (h : c.request a = .ok r) (k : ArtifactKind)
    (stamp : String) :
    k.foreignNames stamp r ⊆ libraryNames ∧
      ((k.artifact stamp r).source.bindings.Nodup ↔
        (k ∈ [model, controller, factory, filter] → r.model ∉ k.foreignNames stamp r) ∧
          (k = controller → r.snake ≠ "db")) ∧
      (k = routes → ∃ text, r.registered? "" = some text ∧ ((Source.boundNames text).Nodup ↔ r.snake ≠ "api")) := by
  have hmodel := Command.model_of_request h
  have hblank := blank_not_mem_of_modelName hmodel
  have hsnake := snake_ne_empty hmodel
  have hforeign := foreignNames_subset hblank hsnake k stamp
  have hown := nodup_ownNames hblank hsnake (isUpper_head_of_modelName hmodel) k stamp
  refine ⟨hforeign, ?_, fun _ => nodup_boundNames_registered r⟩
  rw [(perm_bindings k stamp r).nodup_iff, List.nodup_append]
  constructor
  · rintro ⟨-, -, hapart⟩
    constructor
    · intro hk hmem
      have hname := model_mem_ownNames hblank hsnake ((mem_classes_iff k).2 hk) stamp
      exact hapart r.model hmem r.model hname rfl
    · rintro rfl hdb
      have hname : "get_" ++ r.snake ∈ (Artifact.controller r).source.defined := by
        rw [defined_controller, Request.controllerFunctions]
        split
        · exact List.mem_of_getElem? (i := 3) rfl
        · exact List.mem_of_getElem? (i := 4) rfl
      exact hapart "get_db" (get_db_mem_foreignNames hsnake stamp) _ (List.mem_append_right _ hname)
        (get_eq_get_db_iff.2 hdb).symm
  · rintro ⟨hclass, hshow⟩
    refine ⟨nodup_foreignNames hblank hsnake k stamp, hown, fun name hname other hother heq => ?_⟩
    rw [← heq] at hother
    rcases eq_of_mem_libraryNames (ownNames_subset hblank hsnake k stamp hother) (hforeign hname) with
      ⟨rfl, hwords⟩ | ⟨-, rfl, hdb⟩
    · exact hclass ((mem_classes_iff k).1 hwords) hname
    · exact hshow rfl hdb

theorem nodup_bindings_of_post :
    let c : Command := ⟨.fallback, .standard, reservedWords⟩
    let a : Arguments := ⟨"Post", none, [("controller", true), ("filter", true)], none, .text "out", .absent⟩
    ∃ r, c.request a = .ok r ∧ (controller.artifact "2024_05_01_123045" r).source.bindings.Nodup := by
  intro c a
  have hnames : (c.request a).toOption.map (fun r => (r.model, r.snake)) = some ("Post", "post") := by decide
  cases hrequest : c.request a with
  | error failure => simp [hrequest, Except.toOption] at hnames
  | ok r =>
    simp only [hrequest, Except.toOption, Option.map_some, Option.some.injEq, Prod.mk.injEq] at hnames
    have hother : "Post" ∉ libraryNames ∧ "post" ≠ "db" := by decide
    obtain ⟨hforeign, hnodup, -⟩ := nodup_bindings_iff hrequest controller "2024_05_01_123045"
    refine ⟨r, rfl, hnodup.2 ⟨fun _ hmem => hother.1 ?_, fun _ hdb => hother.2 ?_⟩⟩
    · exact hnames.1 ▸ hforeign hmem
    · exact hnames.2 ▸ hdb

/-- A model with the name of a class that the controller takes from a library. -/
theorem not_nodup_bindings_of_query :
    let c : Command := ⟨.fallback, .standard, reservedWords⟩
    let a : Arguments := ⟨"Query", none, [("controller", true)], none, .text "out", .absent⟩
    ∃ r, c.request a = .ok r ∧ ¬ (controller.artifact "2024_05_01_123045" r).source.bindings.Nodup := by
  intro c a
  have hbinds : (c.request a).toOption.map (fun r => decide
      ("annotations" :: r.controllerImports.flatMap fun e => (Import.mk e.1 e.2).binds).Nodup) = some false := by
    decide
  cases hrequest : c.request a with
  | error failure => simp [hrequest, Except.toOption] at hbinds
  | ok r =>
    simp only [hrequest, Except.toOption, Option.map_some, Option.some.injEq, decide_eq_false_iff_not] at hbinds
    refine ⟨r, rfl, fun hnodup => hbinds ?_⟩
    have himports : ((Artifact.controller r).source.imports.flatten.flatMap Import.binds).Nodup :=
      hnodup.sublist (by simp [Source.SourceFile.bindings, artifact])
    exact (Source.perm_binds_importSections r r.controllerImports).nodup_iff.1 himports

end ArtifactKind

end CrudScaffold
