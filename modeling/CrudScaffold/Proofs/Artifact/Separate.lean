import CrudScaffold.Proofs.Storage.Below

/-!
# The files of different requests

Every file of a request is the file of a module below the root (`isModuleBelow_outputPath`), also if the name of the
model has no letter or digit, so that its snake-case name is empty.  Files at the same place are of the same kind, and
unless they are the routes they are of requests with the same snake-case name or, for migrations, with the same table
(`same_of_resolve`).  Of models with different snake-case names it is known which modules they share (`place_eq_iff`).
-/

namespace CrudScaffold

open Naming (IsPlain)

namespace Path

/-- Empty names lead nowhere. -/
theorem joinAll_eq_under {p : Path} {names : List String} (h : ∀ name ∈ names, name = "" ∨ IsName name) :
    p.joinAll names = p.under (names.filter (· ≠ "")) := by
  induction names generalizing p with
  | nil => simp [joinAll, under]
  | cons name names ih =>
    have hrest (p : Path) := @ih p fun n hn => h n (by simp [hn])
    unfold joinAll at hrest ⊢
    rw [List.foldl_cons, hrest]
    rcases h name (by simp) with rfl | hname
    · have hempty : p.join (ofText "") = p := by
        simp [join, show ofText "" = ⟨.here, []⟩ from rfl]
      simp [hempty]
    · rw [ofText_of_isName hname, List.filter_cons_of_pos (by simpa using hname.nonempty)]
      simp [join, under]

end Path

namespace ArtifactKind

variable {k k' : ArtifactKind} {stamp stamp' : String} {r r' : Request}

/-- A stamp is made of digits and underscores. -/
def IsStamp (stamp : String) : Prop := ∀ c ∈ stamp.toList, c.isDigit = true ∨ c = '_'

theorem isStamp_stamp (m : Moment) : IsStamp m.stamp := by
  have hpadded {width n : Nat} {c : Char} (h : c ∈ (Text.padded width n).toList) : c.isDigit = true ∨ c = '_' :=
    Or.inl (Text.isDigit_of_mem_padded h)
  have hbreak {c : Char} (h : c ∈ "_".toList) : c.isDigit = true ∨ c = '_' := Or.inr (List.mem_singleton.1 h)
  intro c hc
  simp only [Moment.stamp, String.toList_append, List.mem_append] at hc
  rcases hc with (((((((h | h) | h) | h) | h) | h) | h) | h) | h
  exacts [hpadded h, hbreak h, hpadded h, hbreak h, hpadded h, hbreak h, hpadded h, hpadded h, hpadded h]

theorem IsStamp.isPlain (h : IsStamp stamp) : IsPlain stamp.toList := by
  intro c hc
  rcases h c hc with hdigit | rfl
  · simp [Text.isIdentChar, Char.isAlphanum, hdigit]
  · decide

/-! ### The parts of a path -/

/-- What stands around the name of the model in the last part of a module's path. -/
private def around : ArtifactKind → String × String
  | model => ("", "")
  | controller => ("", "_controller")
  | resource => ("", "_resource")
  | factory => ("", "_factory")
  | filter => ("", "_filters")
  | test => ("test_", "")
  | migration => ("", "_table")
  | seeder => ("", "_seeder")
  | createRequest => ("create_", "_request")
  | updateRequest => ("update_", "_request")
  | routes => ("api", "")

/-- What the last part of a module's path is made of. -/
private def core (k : ArtifactKind) (stamp : String) (r : Request) : String :=
  if k = .migration then r.revision stamp else if k = .routes then "" else r.snake

/-- The parts of a module's path before the last one. -/
private def directories (k : ArtifactKind) (r : Request) : List String :=
  match k with
  | resource | createRequest | updateRequest => [k.directoryName, r.snake]
  | test => [k.directoryName, "feature"]
  | migration => [k.directoryName, "versions"]
  | _ => [k.directoryName]

private theorem place_eq (k : ArtifactKind) (stamp : String) (r : Request) :
    (k.artifact stamp r).place = k.directories r ++ [k.around.1 ++ k.core stamp r ++ k.around.2] := by
  have hempty (s : String) : "" ++ s = s := String.empty_append
  cases k with
  | model => simp [directories, around, core, artifact, Artifact.model, Request.modelPlace, directoryName]
  | createRequest | updateRequest =>
    simp [directories, around, core, artifact, Artifact.body, Request.bodyPlace, directoryName, BodyAction.word]
  | test =>
    simp [directories, around, core, artifact, Artifact.featureTest, Request.testPlace, directoryName]
  | routes =>
    change ["routes", "api"] = ["routes"] ++ ["api" ++ "" ++ ""]
    decide
  | _ =>
    simp only [around, core, reduceCtorEq, if_true, if_false, hempty]
    rfl

private theorem isPlain_parts (hstamp : IsStamp stamp) (k : ArtifactKind) (r : Request) :
    (∀ name ∈ k.directories r, IsPlain name.toList) ∧
      IsPlain (k.around.1 ++ k.core stamp r ++ k.around.2).toList := by
  have hword {word : String} (h : word.toList.all Text.isIdentChar = true) : IsPlain word.toList :=
    Naming.isPlain_of_all h
  have hsnake : IsPlain r.snake.toList := Naming.isPlain_snake r.model
  have hdirectory : IsPlain k.directoryName.toList := by cases k <;> exact hword (by decide)
  have one : ∀ name ∈ [k.directoryName], IsPlain name.toList := by simpa using hdirectory
  have two {part : String} (hpart : IsPlain part.toList) : ∀ name ∈ [k.directoryName, part], IsPlain name.toList := by
    simpa using ⟨hdirectory, hpart⟩
  constructor
  · cases k with
    | resource | createRequest | updateRequest => exact two hsnake
    | test | migration => exact two (hword (by decide))
    | _ => exact one
  · have hcore : IsPlain (k.core stamp r).toList := by
      unfold core
      split
      · rw [Request.revision, String.toList_append, String.toList_append]
        exact (hstamp.isPlain.append (hword (by decide))).append (Naming.isPlain_plural hsnake)
      · split
        · exact hword (by decide)
        · exact hsnake
    have haround : IsPlain k.around.1.toList ∧ IsPlain k.around.2.toList := by
      cases k <;> exact ⟨hword (by decide), hword (by decide)⟩
    rw [String.toList_append, String.toList_append]
    exact (haround.1.append hcore).append haround.2

/-- The name of a file without its ending. -/
private def base (k : ArtifactKind) (stamp : String) (r : Request) : String :=
  k.around.1 ++ k.core stamp r ++ k.around.2

private theorem outputPath_eq (hstamp : IsStamp stamp) (k : ArtifactKind) (r : Request) :
    k.outputPath stamp r =
      (Path.ofText r.root).under ((k.directories r).filter (· ≠ "") ++ [k.base stamp r ++ ".py"]) := by
  obtain ⟨hdirectories, hbase⟩ := isPlain_parts hstamp k r
  have hfile := FileTree.isName_module hbase
  have hnames : k.names stamp r = k.directories r ++ [k.base stamp r ++ ".py"] := by
    rw [names, place_eq]
    simp [Artifact.segments, base]
  have hparts : ∀ name ∈ k.names stamp r, name = "" ∨ Path.IsName name := by
    intro name hname
    rw [hnames] at hname
    rcases List.mem_append.1 hname with hname | hname
    · by_cases hempty : name = ""
      · exact Or.inl hempty
      · have := Artifact.isName_of_isModuleName ⟨hdirectories name hname, hempty⟩ "" (by simp)
        exact Or.inr (by simpa using this)
    · rw [List.mem_singleton.1 hname]
      exact Or.inr hfile
  have hlast : [k.base stamp r ++ ".py"].filter (· ≠ "") = [k.base stamp r ++ ".py"] :=
    List.filter_eq_self.2 (by simp)
  rw [← hlast, ← List.filter_append, ← hnames]
  exact Path.joinAll_eq_under hparts

private theorem isModuleName_directories (hstamp : IsStamp stamp) (k : ArtifactKind) (r : Request) :
    ∀ name ∈ (k.directories r).filter (· ≠ ""), Artifact.IsModuleName name := by
  intro name hname
  obtain ⟨hname, hne⟩ := List.mem_filter.1 hname
  exact ⟨(isPlain_parts hstamp k r).1 name hname, by simpa using hne⟩

theorem isModuleBelow_outputPath (hstamp : IsStamp stamp) (k : ArtifactKind) (r : Request) :
    (Path.ofText r.root).IsModuleBelow (k.outputPath stamp r) :=
  ⟨_, _, isModuleName_directories hstamp k r, (isPlain_parts hstamp k r).2, outputPath_eq hstamp k r⟩

/-! ### Files at one place -/

private theorem exists_directories (k : ArtifactKind) (r : Request) :
    ∃ later, k.directories r = k.directoryName :: later := by
  cases k <;> exact ⟨_, rfl⟩

private theorem head?_directories (k : ArtifactKind) (r : Request) :
    ((k.directories r).filter (· ≠ "")).head? = some k.directoryName := by
  have hne : k.directoryName ≠ "" := by cases k <;> decide
  obtain ⟨later, hlater⟩ := exists_directories k r
  rw [hlater, List.filter_cons_of_pos (by simpa using hne), List.head?_cons]

/-- The stamp has no letter, so that the table is what follows the first one. -/
private theorem revision_injective (hstamp : IsStamp stamp) (hstamp' : IsStamp stamp')
    (h : r.revision stamp = r'.revision stamp') : r.table = r'.table ∧ stamp = stamp' := by
  have hletter {stamp : String} (hstamp : IsStamp stamp) : 'c' ∉ stamp.toList ++ ['_'] := by
    intro hmem
    rcases List.mem_append.1 hmem with hmem | hmem
    · exact absurd (hstamp 'c' hmem) (by decide)
    · exact absurd (List.mem_singleton.1 hmem) (by decide)
  have hword : "_create_".toList = '_' :: 'c' :: "reate_".toList := rfl
  have heq := congrArg String.toList h
  simp only [Request.revision, String.toList_append, hword, List.append_assoc, List.cons_append] at heq
  rw [List.append_cons stamp.toList, List.append_cons stamp'.toList] at heq
  have hbefore : stamp.toList ++ ['_'] ++ ['c'] <+:
      stamp'.toList ++ ['_'] ++ 'c' :: ("reate_".toList ++ r'.table.toList) :=
    ⟨"reate_".toList ++ r.table.toList, by rw [← heq, List.append_assoc, List.singleton_append]⟩
  have hfront := (Text.append_singleton_prefix_iff (hletter hstamp) (hletter hstamp')).1 hbefore
  rw [hfront, List.append_cancel_left_eq, List.cons.injEq] at heq
  exact ⟨String.toList_inj.1 (List.append_cancel_left heq.2), String.toList_inj.1 (List.append_cancel_right hfront)⟩

private theorem core_of_base (h : k.base stamp r = k.base stamp' r') : k.core stamp r = k.core stamp' r' :=
  (String.append_right_inj k.around.1).1 ((String.append_left_inj k.around.2).1 h)

/-- The first letter of the file tells the two bodies of one directory apart. -/
private theorem eq_of_directoryName (hdirectory : k.directoryName = k'.directoryName)
    (hbase : k.base stamp r = k'.base stamp' r') : k = k' := by
  have hbody (s s' : Request) : createRequest.base stamp s ≠ updateRequest.base stamp' s' := by
    intro h
    have hfirst := congrArg (fun name => name.toList.head?) h
    simp [base, around, String.toList_append] at hfirst
  have hbody' (s s' : Request) : updateRequest.base stamp s ≠ createRequest.base stamp' s' := by
    intro h
    have hfirst := congrArg (fun name => name.toList.head?) h
    simp [base, around, String.toList_append] at hfirst
  cases k <;> cases k' <;>
    first | rfl | exact absurd hdirectory (by decide) | exact absurd hbase (hbody r r') |
      exact absurd hbase (hbody' r r')

/-- Files of one directory and one name are of the same kind, of one model or of one table and one time. -/
private theorem same_of_base (hstamp : IsStamp stamp) (hstamp' : IsStamp stamp')
    (hdirectory : k.directoryName = k'.directoryName) (hbase : k.base stamp r = k'.base stamp' r') :
    k = k' ∧ (k ≠ .routes → k ≠ .migration → r.snake = r'.snake) ∧
      (k = .migration → r.table = r'.table ∧ stamp = stamp') := by
  obtain rfl := eq_of_directoryName hdirectory hbase
  have hcore := core_of_base hbase
  refine ⟨rfl, fun hroutes hmigration => ?_, ?_⟩
  · simpa [core, hroutes, hmigration] using hcore
  · rintro rfl
    exact revision_injective hstamp hstamp' (by simpa [core] using hcore)

/-- Files at the same place are of the same kind, and of the same name. -/
theorem same_of_resolve {t : FileTree} (hroot : r.root = r'.root) (hstamp : IsStamp stamp) (hstamp' : IsStamp stamp')
    (h : t.resolve (k.outputPath stamp r) = t.resolve (k'.outputPath stamp' r')) :
    k = k' ∧ (k ≠ .routes → k ≠ .migration → r.snake = r'.snake) ∧ (k = .migration → r.table = r'.table) := by
  have hresolve {stamp : String} (hstamp : IsStamp stamp) (k : ArtifactKind) (s : Request) :
      t.resolve (k.outputPath stamp s) =
        t.resolve (Path.ofText s.root) ++ ((k.directories s).filter (· ≠ "") ++ [k.base stamp s ++ ".py"]) := by
    rw [outputPath_eq hstamp, FileTree.resolve_under]
    intro name hname
    rcases List.mem_append.1 hname with hname | hname
    · simpa using Artifact.isName_of_isModuleName (isModuleName_directories hstamp k s name hname) "" (by simp)
    · rw [List.mem_singleton.1 hname]
      exact FileTree.isName_module (isPlain_parts hstamp k s).2
  rw [hresolve hstamp, hresolve hstamp', hroot, List.append_cancel_left_eq] at h
  obtain ⟨hdirectories, hfile⟩ := List.append_inj' h rfl
  have hbase : k.base stamp r = k'.base stamp' r' := (String.append_left_inj ".py").1 (List.singleton_inj.1 hfile)
  have hdirectory : k.directoryName = k'.directoryName := by
    have hhead := congrArg List.head? hdirectories
    rw [head?_directories, head?_directories] at hhead
    exact Option.some.inj hhead
  obtain ⟨hkind, hsnake, htable⟩ := same_of_base hstamp hstamp' hdirectory hbase
  exact ⟨hkind, hsnake, fun hmigration => (htable hmigration).1⟩

/-- The files that two models can have in common: the routes, and the migrations of one table at one time. -/
def IsShared (k k' : ArtifactKind) (stamp stamp' : String) (r r' : Request) : Prop :=
  k = k' ∧ (k = .routes ∨ k = .migration ∧ r.table = r'.table ∧ stamp = stamp')

/-- Models with different snake-case names have no modules in common but these. -/
theorem place_eq_iff (hne : r.snake ≠ r'.snake) (hstamp : IsStamp stamp) (hstamp' : IsStamp stamp') :
    (k.artifact stamp r).place = (k'.artifact stamp' r').place ↔ IsShared k k' stamp stamp' r r' := by
  constructor
  · intro h
    rw [place_eq, place_eq] at h
    obtain ⟨hdirectories, hlast⟩ := List.append_inj' h rfl
    obtain ⟨later, hlater⟩ := exists_directories k r
    obtain ⟨later', hlater'⟩ := exists_directories k' r'
    rw [hlater, hlater'] at hdirectories
    have hdirectory : k.directoryName = k'.directoryName := (List.cons.inj hdirectories).1
    obtain ⟨hkind, hsnake, htable⟩ := same_of_base hstamp hstamp' hdirectory (List.singleton_inj.1 hlast)
    refine ⟨hkind, ?_⟩
    by_cases hroutes : k = .routes
    · exact Or.inl hroutes
    · have hmigration : k = .migration := by
        by_contra hmigration
        exact hne (hsnake hroutes hmigration)
      exact Or.inr ⟨hmigration, htable hmigration⟩
  · rintro ⟨rfl, rfl | ⟨rfl, htable, rfl⟩⟩
    · rfl
    · have hrevision : r.revision stamp = r'.revision stamp := by rw [Request.revision, Request.revision, htable]
      rw [place_eq, place_eq, core, core, if_pos rfl, if_pos rfl, hrevision]
      rfl

end ArtifactKind

end CrudScaffold
