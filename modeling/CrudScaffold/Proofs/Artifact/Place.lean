import CrudScaffold.Artifact.Kind
import CrudScaffold.Proofs.Naming
import CrudScaffold.Proofs.Storage.Operation
import CrudScaffold.Proofs.Text.Affix
import CrudScaffold.Proofs.Text.Padded

/-!
# Where files are written

Every file of a request lies strictly below the root, under names that are single components of a path
(`outputPath_eq_under`), and files of different kinds lie at different places (`names_injective`).
-/

namespace CrudScaffold

open Naming (IsPlain)

namespace Path

/-- A text that is one component of a path and leads downward. -/
structure IsName (s : String) : Prop where
  slash : '/' ∉ s.toList
  nonempty : s ≠ ""
  point : s ≠ "."
  points : s ≠ ".."

/-- A name begins like an identifier and has no slash. -/
theorem isName_of_toList {s : String} {c : Char} {rest : List Char} (hs : s.toList = c :: rest)
    (hc : Text.isIdentChar c = true) (hrest : '/' ∉ rest) : IsName s := by
  have hpoint : c ≠ '.' := by
    rintro rfl
    exact absurd hc (by decide)
  refine ⟨?_, ?_, ?_, ?_⟩
  · rw [hs, List.mem_cons, not_or]
    refine ⟨?_, hrest⟩
    rintro rfl
    exact absurd hc (by decide)
  · rintro rfl
    cases hs
  · rintro rfl
    exact hpoint (List.cons.inj hs).1.symm
  · rintro rfl
    exact hpoint (List.cons.inj hs).1.symm

theorem ofText_of_isName {s : String} (h : IsName s) : ofText s = ⟨.here, [s]⟩ := by
  have hanchor : anchorOf s.toList = .here := by
    have htake : s.toList.takeWhile (· == '/') = [] := by
      cases hs : s.toList with
      | nil => rfl
      | cons c rest =>
        have hc : c ≠ '/' := by
          rintro rfl
          exact h.slash (by simp [hs])
        simp [hc]
    simp [anchorOf, htake]
  simp [ofText, hanchor, Text.splitOn_of_not_mem h.slash, h.nonempty, h.point]

theorem joinAll_of_isName {p : Path} {names : List String} (h : ∀ name ∈ names, IsName name) :
    p.joinAll names = p.under names := by
  induction names generalizing p with
  | nil => simp [joinAll, under]
  | cons name names ih =>
    have hjoin : p.join (ofText name) = p.under [name] := by
      rw [ofText_of_isName (h name (by simp))]
      rfl
    have hrest := @ih (p.under [name]) fun n hn => h n (by simp [hn])
    unfold joinAll at hrest ⊢
    rw [List.foldl_cons, hjoin, hrest]
    simp [under]

end Path

namespace FileTree

/-- Names below a path lead below its location. -/
theorem resolve_under {t : FileTree} {p : Path} {names : List String} (h : ∀ name ∈ names, Path.IsName name) :
    t.resolve (p.under names) = t.resolve p ++ names := by
  have hfold (l : Location) : names.foldl (fun l name => if name = ".." then l.dropLast else l ++ [name]) l =
      l ++ names := by
    induction names generalizing l with
    | nil => simp
    | cons name names ih =>
      rw [List.foldl_cons, if_neg (h name (by simp)).points, ih fun n hn => h n (by simp [hn])]
      simp
  unfold resolve Path.under
  rw [List.foldl_append, hfold]

end FileTree

namespace Artifact

/-- A module is a text of its own made of characters of identifiers. -/
def IsModuleName (s : String) : Prop := IsPlain s.toList ∧ s ≠ ""

theorem isModuleName_word {s : String} (h : s.toList.all Text.isIdentChar = true) (hne : s ≠ "") : IsModuleName s :=
  ⟨Naming.isPlain_of_all h, hne⟩

theorem IsModuleName.append {a b : String} (ha : IsModuleName a) (hb : IsPlain b.toList) : IsModuleName (a ++ b) := by
  constructor
  · rw [String.toList_append]
    exact ha.1.append hb
  · intro h
    have hempty := congrArg String.toList h
    rw [String.toList_append, String.toList_empty, List.append_eq_nil_iff, String.toList_eq_nil_iff] at hempty
    exact ha.2 hempty.1

theorem isName_of_isModuleName {s : String} (h : IsModuleName s) (after : String)
    (hafter : '/' ∉ after.toList) : Path.IsName (s ++ after) := by
  obtain ⟨hplain, hne⟩ := h
  cases hs : s.toList with
  | nil => exact absurd (String.toList_eq_nil_iff.1 hs) hne
  | cons c rest =>
    rw [hs] at hplain
    refine Path.isName_of_toList (by rw [String.toList_append, hs]; rfl) (hplain c (by simp)) ?_
    intro h
    rcases List.mem_append.1 h with h | h
    · exact absurd (hplain '/' (by simp [h])) (by decide)
    · exact hafter h

/-- A component of a file's path is one of the module's path, or the last of these with an ending. -/
theorem of_mem_segments {place : List String} {name : String} (h : name ∈ segments place) :
    name ∈ place ∨ ∃ last ∈ place, name = last ++ ".py" := by
  unfold segments at h
  cases hlast : place.getLast? with
  | none => simp [hlast] at h
  | some last =>
    simp only [hlast, List.mem_append, List.mem_singleton] at h
    rcases h with h | h
    · exact Or.inl (List.dropLast_subset place h)
    · exact Or.inr ⟨last, List.mem_of_getLast? hlast, h⟩

/-- The path of a module is made of names. -/
theorem isName_segments {place : List String} (h : ∀ name ∈ place, IsModuleName name) :
    ∀ name ∈ segments place, Path.IsName name := by
  intro name hname
  rcases of_mem_segments hname with hname | ⟨last, hlast, rfl⟩
  · have := isName_of_isModuleName (h name hname) "" (by simp)
    simpa using this
  · exact isName_of_isModuleName (h last hlast) ".py" (by decide)

/-- The path of a module can be read off the path of its file. -/
theorem segments_inj {place place' : List String} (hne : place ≠ []) (hne' : place' ≠ []) :
    segments place = segments place' ↔ place = place' := by
  have hsegments (front : List String) (last : String) : segments (front ++ [last]) = front ++ [last ++ ".py"] := by
    simp [segments]
  refine ⟨fun h => ?_, fun h => congrArg segments h⟩
  rw [← List.dropLast_concat_getLast hne, ← List.dropLast_concat_getLast hne', hsegments, hsegments] at h
  obtain ⟨hfront, hlast⟩ := List.append_inj' h rfl
  rw [← List.dropLast_concat_getLast hne, ← List.dropLast_concat_getLast hne', hfront,
    (String.append_left_inj ".py").1 (List.singleton_inj.1 hlast)]

end Artifact

namespace ArtifactKind

variable {r : Request}

/-- The names of a file below the root. -/
def names (k : ArtifactKind) (stamp : String) (r : Request) : List String :=
  Artifact.segments (k.artifact stamp r).place

/-- Only the migration depends on the stamp. -/
theorem artifact_congr {k : ArtifactKind} (h : k ≠ .migration) (stamp stamp' : String) (r : Request) :
    k.artifact stamp r = k.artifact stamp' r := by
  cases k <;> first | rfl | exact absurd rfl h

theorem isModuleName_stamp (m : Moment) : Artifact.IsModuleName m.stamp := by
  have hpadded (width n : Nat) : IsPlain (Text.padded width n).toList ∧ (Text.padded width n).toList ≠ [] := by
    constructor
    · intro c hc
      simp [Text.isIdentChar, Char.isAlphanum, Text.isDigit_of_mem_padded hc]
    · simp [Text.padded, Nat.toDigits_ne_nil]
  have hpart (width n : Nat) : Artifact.IsModuleName (Text.padded width n) :=
    ⟨(hpadded width n).1, fun h => (hpadded width n).2 (by simp [h])⟩
  have hbreak : IsPlain "_".toList := by
    intro c hc
    rw [List.mem_singleton.1 hc]
    decide
  unfold Moment.stamp
  exact ((((((((hpart 1 _).append hbreak).append (hpadded 2 _).1).append hbreak).append
    (hpadded 2 _).1).append hbreak).append (hpadded 2 _).1).append (hpadded 2 _).1).append (hpadded 2 _).1

/-- Every part of a module's path is a module name. -/
theorem isModuleName_of_place (hsnake : r.snake ≠ "") {stamp : String} (hstamp : Artifact.IsModuleName stamp)
    (k : ArtifactKind) : ∀ name ∈ (k.artifact stamp r).place, Artifact.IsModuleName name := by
  have hplain : IsPlain r.snake.toList := Naming.isPlain_snake r.model
  have htable : IsPlain r.table.toList := Naming.isPlain_plural hplain
  have hs : Artifact.IsModuleName r.snake := ⟨hplain, hsnake⟩
  have hword {word : String} (h : word.toList.all Text.isIdentChar = true) : IsPlain word.toList :=
    Naming.isPlain_of_all h
  have hmodule {word : String} (h : (word.toList.all Text.isIdentChar && word != "") = true) :
      Artifact.IsModuleName word := by
    rw [Bool.and_eq_true, bne_iff_ne] at h
    exact Artifact.isModuleName_word h.1 h.2
  have two {a b : String} (ha : Artifact.IsModuleName a) (hb : Artifact.IsModuleName b) :
      ∀ name ∈ [a, b], Artifact.IsModuleName name := by simp [ha, hb]
  have three {a b c : String} (ha : Artifact.IsModuleName a) (hb : Artifact.IsModuleName b)
      (hc : Artifact.IsModuleName c) : ∀ name ∈ [a, b, c], Artifact.IsModuleName name := by simp [ha, hb, hc]
  have body (action : BodyAction) :
      ∀ name ∈ (Artifact.body action r).place, Artifact.IsModuleName name := by
    have haction : Artifact.IsModuleName action.word := by cases action <;> exact hmodule (by decide)
    have hbreak : IsPlain "_".toList := hword (by decide)
    exact three (hmodule (by decide)) hs (((haction.append hbreak).append hplain).append (hword (by decide)))
  cases k with
  | model => exact two (hmodule (by decide)) hs
  | controller | factory | filter | seeder => exact two (hmodule (by decide)) (hs.append (hword (by decide)))
  | resource => exact three (hmodule (by decide)) hs (hs.append (hword (by decide)))
  | test =>
    have htest : Artifact.IsModuleName "test_" := hmodule (by decide)
    exact three (hmodule (by decide)) (hmodule (by decide)) (htest.append hplain)
  | migration =>
    exact three (hmodule (by decide)) (hmodule (by decide))
      (((hstamp.append (hword (by decide))).append htable).append (hword (by decide)))
  | createRequest => exact body .create
  | updateRequest => exact body .update
  | routes => exact two (hmodule (by decide)) (hmodule (by decide))

theorem place_ne_nil (k : ArtifactKind) (stamp : String) (r : Request) : (k.artifact stamp r).place ≠ [] := by
  cases k <;> exact List.cons_ne_nil _ _

/-- Where a file is written. -/
theorem outputPath_eq_under (hsnake : r.snake ≠ "") {stamp : String} (hstamp : Artifact.IsModuleName stamp)
    (k : ArtifactKind) :
    k.outputPath stamp r = (Path.ofText r.root).under (k.names stamp r) ∧
      ∀ name ∈ k.names stamp r, Path.IsName name := by
  have hnames := Artifact.isName_segments (isModuleName_of_place hsnake hstamp k)
  exact ⟨Path.joinAll_of_isName hnames, hnames⟩

/-- Where a file is in a tree. -/
theorem resolve_outputPath (hsnake : r.snake ≠ "") {stamp : String} (hstamp : Artifact.IsModuleName stamp)
    (k : ArtifactKind) (t : FileTree) :
    t.resolve (k.outputPath stamp r) = t.resolve (Path.ofText r.root) ++ k.names stamp r := by
  obtain ⟨hpath, hnames⟩ := outputPath_eq_under hsnake hstamp k
  rw [hpath, FileTree.resolve_under hnames]

/-- The names of a file have no characters but those of identifiers and points. -/
theorem chars_of_mem_names (hsnake : r.snake ≠ "") {stamp : String} (hstamp : Artifact.IsModuleName stamp)
    (k : ArtifactKind) {name : String} (hname : name ∈ k.names stamp r) :
    ∀ c ∈ name.toList, Text.isIdentChar c = true ∨ c = '.' := by
  have hplace := isModuleName_of_place hsnake hstamp k
  have hending : (".py".toList.all fun c => Text.isIdentChar c || c == '.') = true := by decide
  intro c hc
  rcases Artifact.of_mem_segments hname with hname | ⟨last, hlast, rfl⟩
  · exact Or.inl ((hplace name hname).1 c hc)
  · rw [String.toList_append] at hc
    rcases List.mem_append.1 hc with hc | hc
    · exact Or.inl ((hplace last hlast).1 c hc)
    · simpa using List.all_eq_true.1 hending c hc

/-- The routes are in one file, whatever the model is called. -/
theorem routes_outputPath (stamp : String) (r : Request) :
    routes.outputPath stamp r = (Path.ofText r.root).under ["routes", "api.py"] := by
  refine Path.joinAll_of_isName fun name hname => ?_
  change name ∈ ["routes", "api.py"] at hname
  simp only [List.mem_cons, List.not_mem_nil, or_false] at hname
  rcases hname with rfl | rfl
  · exact ⟨by decide, by decide, by decide, by decide⟩
  · exact ⟨by decide, by decide, by decide, by decide⟩

/-- The directory below the root that files of a kind are kept in. -/
def directoryName : ArtifactKind → String
  | model => "models"
  | controller => "controllers"
  | resource => "resources"
  | factory => "factories"
  | filter => "filters"
  | test => "tests"
  | migration => "migrations"
  | seeder => "seeders"
  | createRequest | updateRequest => "requests"
  | routes => "routes"

private theorem names_head (k : ArtifactKind) (stamp : String) (r : Request) :
    (k.names stamp r).head? = some k.directoryName := by
  cases k <;> rfl

theorem names_ne_nil (k : ArtifactKind) (stamp : String) (r : Request) : k.names stamp r ≠ [] := by
  intro h
  have := names_head k stamp r
  rw [h] at this
  cases this

private theorem body_names_ne (stamp : String) (r : Request) :
    createRequest.names stamp r ≠ updateRequest.names stamp r := by
  intro h
  have hfirst := congrArg (fun names => (names.getD 2 "").toList.head?) h
  change ("create" ++ "_" ++ r.snake ++ "_request" ++ ".py").toList.head? =
    ("update" ++ "_" ++ r.snake ++ "_request" ++ ".py").toList.head? at hfirst
  simp [String.toList_append] at hfirst

/-- Files of different kinds have different names. -/
theorem names_injective {k k' : ArtifactKind} {stamp : String} (h : k.names stamp r = k'.names stamp r) : k = k' := by
  have hhead : k.directoryName = k'.directoryName := by
    have := names_head k stamp r
    rw [h, names_head, Option.some.injEq] at this
    exact this.symm
  have hbody := body_names_ne stamp r
  cases k <;> cases k' <;>
    first | rfl | exact absurd hhead (by decide) | exact absurd h hbody | exact absurd h.symm hbody

end ArtifactKind

end CrudScaffold
