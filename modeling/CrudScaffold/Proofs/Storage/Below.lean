import CrudScaffold.Proofs.Artifact.Place
import CrudScaffold.Proofs.Storage.Writable

/-!
# Writing below one root

The files of a run lie below one root, in directories whose names have no point.  Writing one of them neither makes
nor takes away a place for another one (`Path.IsModuleBelow.admits_iff`).
-/

namespace CrudScaffold

namespace Path

variable {root p q : Path}

/-- The file of a module below a root. -/
def IsModuleBelow (root p : Path) : Prop :=
  ∃ directories base, (∀ name ∈ directories, Artifact.IsModuleName name) ∧ Naming.IsPlain base.toList ∧
    p = root.under (directories ++ [base ++ ".py"])

theorem isAbove_under_cases {names : List String} (h : q.IsAbove (root.under names)) :
    q.IsAbove root ∨ ∃ front rest, rest ≠ [] ∧ names = front ++ rest ∧ q = root.under front := by
  obtain ⟨rest, hrest, heq⟩ := h
  obtain ⟨hanchor, hcomponents⟩ := Path.mk.inj heq
  rcases List.append_eq_append_iff.1 hcomponents with ⟨between, hq, rfl⟩ | ⟨between, hroot, rfl⟩
  · exact Or.inr ⟨between, rest, hrest, rfl, by rw [under, hanchor, ← hq]⟩
  · cases between with
    | nil => exact Or.inr ⟨[], names, hrest, rfl, by simp [under, hanchor, hroot]⟩
    | cons name between => exact Or.inl ⟨name :: between, by simp, by rw [under, ← hanchor, ← hroot]⟩

theorem IsAbove.under {names : List String} (h : q.IsAbove root) : q.IsAbove (root.under names) := by
  obtain ⟨between, hne, rfl⟩ := h
  exact ⟨between ++ names, by simp [hne], (under_append q between names).symm⟩

end Path

namespace FileTree

variable {root p p' : Path} {t t' : FileTree} {content : ByteArray}

/-- A file is written at a path where the tree admits it. -/
structure Writes (p : Path) (content : ByteArray) (t t' : FileTree) : Prop where
  admits : t.Admits p
  changed : ChangedAt (·.IsAbove p) (· = p) t t'
  holds : t'.lookup p = .ok (.file content)

/-! ### Names that differ -/

/-- A name of a directory has no point. -/
theorem point_not_mem {name : String} (h : Artifact.IsModuleName name) : '.' ∉ name.toList := by
  intro hpoint
  exact absurd (h.1 '.' hpoint) (by decide)

theorem point_mem_module (base : String) : '.' ∈ (base ++ ".py").toList := by simp

theorem point_mem_temporary (name : String) (number : Nat) :
    '.' ∈ (Storage.temporaryName name number).toList :=
  (Storage.suffix_temporaryName name number).subset (by decide)

theorem module_ne_temporary (base name : String) (number : Nat) :
    base ++ ".py" ≠ Storage.temporaryName name number := by
  intro h
  have hmodule : ".py".toList <:+ (base ++ ".py").toList := by
    rw [String.toList_append]
    exact List.suffix_append _ _
  rw [h] at hmodule
  rcases List.suffix_or_suffix_of_suffix hmodule (Storage.suffix_temporaryName name number) with hsuffix | hsuffix
  · exact absurd hsuffix (by decide)
  · exact absurd hsuffix (by decide)

theorem isName_module {base : String} (h : Naming.IsPlain base.toList) : Path.IsName (base ++ ".py") := by
  have hpoints {other : String} (hother : 'y' ∉ other.toList) : base ++ ".py" ≠ other := by
    rintro rfl
    exact hother (by simp)
  refine ⟨?_, hpoints (by decide), hpoints (by decide), hpoints (by decide)⟩
  rw [String.toList_append, List.mem_append, not_or]
  exact ⟨fun hslash => absurd (h '/' hslash) (by decide), by decide⟩

end FileTree

namespace Path.IsModuleBelow

open FileTree (ChangedAt Writes)

variable {root p p' q : Path} {t t' : FileTree} {content : ByteArray}

theorem components_ne_nil (h : root.IsModuleBelow p) : p.components ≠ [] := by
  obtain ⟨directories, base, -, -, rfl⟩ := h
  simp [under]

theorem isAbove (h : root.IsModuleBelow p) (hq : q.IsAbove root) : q.IsAbove p := by
  obtain ⟨directories, base, -, -, rfl⟩ := h
  exact hq.under

/-- Where a module's file is, and where the temporary files beside it are. -/
theorem resolve_eq (h : root.IsModuleBelow p) : ∃ directories base,
    t.resolve p = t.resolve root ++ (directories ++ [base ++ ".py"]) ∧
      ∀ number, t.resolve (Storage.temporaryPath p number) =
        t.resolve root ++ (directories ++ [Storage.temporaryName p.name number]) := by
  obtain ⟨directories, base, hdirectories, hbase, rfl⟩ := h
  have hnames : ∀ name ∈ directories, IsName name := by
    intro name hname
    simpa using Artifact.isName_of_isModuleName (hdirectories name hname) "" (by simp)
  have hparent : (root.under (directories ++ [base ++ ".py"])).parent = root.under directories := by
    simp [under, parent, ← List.append_assoc]
  refine ⟨directories, base, FileTree.resolve_under ?_, fun number => ?_⟩
  · intro name hname
    rcases List.mem_append.1 hname with hname | hname
    · exact hnames name hname
    · rw [List.mem_singleton.1 hname]
      exact FileTree.isName_module hbase
  · rw [Storage.resolve_temporaryPath, hparent, FileTree.resolve_under hnames, List.append_assoc]

/-- A path above a module's file leads to a name with a point only if it is above the root too. -/
private theorem isAbove_root_of_point (h : root.IsModuleBelow p) (hq : q.IsAbove p) {names : List String}
    {name : String} (hresolve : t.resolve q = t.resolve root ++ (names ++ [name])) (hpoint : '.' ∈ name.toList) :
    q.IsAbove root := by
  obtain ⟨directories, base, hdirectories, -, rfl⟩ := h
  rcases isAbove_under_cases hq with hq | ⟨front, rest, hrest, hsplit, rfl⟩
  · exact hq
  · -- what is not above the root is made of names of directories
    have hfront : ∀ name ∈ front, name ∈ directories := by
      intro name hname
      have hlast : front <+: directories := by
        refine (List.prefix_concat_iff.1 ⟨rest, hsplit.symm⟩).resolve_left ?_
        rintro rfl
        exact hrest (List.append_right_eq_self.1 hsplit.symm)
      exact hlast.subset hname
    have hnames : ∀ name ∈ front, IsName name := by
      intro name hname
      simpa using Artifact.isName_of_isModuleName (hdirectories name (hfront name hname)) "" (by simp)
    rw [FileTree.resolve_under hnames] at hresolve
    have hmem : name ∈ front := by
      rw [List.append_cancel_left hresolve]
      simp
    exact absurd hpoint (FileTree.point_not_mem (hdirectories name (hfront name hmem)))

/-- The places of temporary files are in use after another file has been written exactly if they were before. -/
private theorem occupied_iff (h : root.IsModuleBelow p) (h' : root.IsModuleBelow p') (hwrites : Writes p content t t')
    (number : Nat) : t'.Occupied p' number ↔ t.Occupied p' number := by
  obtain ⟨directories, base, hplace, -⟩ := h.resolve_eq (t := t)
  obtain ⟨directories', base', -, htemporary⟩ := h'.resolve_eq (t := t)
  unfold FileTree.Occupied
  simp only [FileTree.resolve_congr hwrites.changed.home]
  rcases hwrites.changed.node (t.resolve (Storage.temporaryPath p' number)) with
    hsame | ⟨-, -, q, hq, hresolve⟩ | ⟨-, -, q, rfl, hresolve⟩
  · rw [hsame]
  · -- a directory that has been made there is one of those above the root
    have hroot := h.isAbove_root_of_point hq (hresolve.trans (htemporary number)) (FileTree.point_mem_temporary _ _)
    have hoccupied : ∃ q, q.IsAbove p' ∧ t.resolve q = t.resolve (Storage.temporaryPath p' number) :=
      ⟨q, h'.isAbove hroot, hresolve⟩
    exact iff_of_true (Or.inr hoccupied) (Or.inr hoccupied)
  · rw [hplace, htemporary] at hresolve
    have hnames := List.append_cancel_left hresolve
    exact absurd (List.singleton_inj.1 (List.append_inj_right' hnames rfl)) (FileTree.module_ne_temporary _ _ _)

/-- Writing one file neither makes nor takes away a place for another one. -/
theorem admits_iff (h : root.IsModuleBelow p) (h' : root.IsModuleBelow p') (hwrites : Writes p content t t') :
    t'.Admits p' ↔ t.Admits p' := by
  have hchange := hwrites.changed
  have hsame := FileTree.resolve_congr hchange.home
  obtain ⟨directories, base, hplace, -⟩ := h.resolve_eq (t := t)
  obtain ⟨directories', base', hplace', -⟩ := h'.resolve_eq (t := t)
  have htemporary : (∃ n, (Storage.temporaryPath p' n).Fits ∧ ¬ t'.Occupied p' n ∧
      ∀ m, m < n → (Storage.temporaryPath p' m).Fits ∧ t'.Occupied p' m) ↔
        ∃ n, (Storage.temporaryPath p' n).Fits ∧ ¬ t.Occupied p' n ∧
          ∀ m, m < n → (Storage.temporaryPath p' m).Fits ∧ t.Occupied p' m := by
    simp only [h.occupied_iff h' hwrites]
  constructor
  · rintro ⟨hnamed, hfits, hway, ⟨hfree, hapart⟩, hrest⟩
    simp only [hsame] at hway hfree hapart
    refine ⟨hnamed, hfits, fun q hq => ?_, ⟨fun hdir => hfree (hchange.directory hdir), hapart⟩, htemporary.1 hrest⟩
    -- a file in the way would still be one
    have hnone := hway q hq
    rcases hchange.node (t.resolve q) with he | ⟨hnode, -, -⟩ | ⟨-, ⟨written, hfile⟩, -⟩
    · simpa [FileTree.file?, he] using hnone
    · simp [FileTree.file?, hnode]
    · simp [FileTree.file?, hfile] at hnone
  · rintro ⟨hnamed, hfits, hway, ⟨hfree, hapart⟩, hrest⟩
    refine ⟨hnamed, hfits, ?_, ⟨?_, ?_⟩, htemporary.2 hrest⟩
    · intro q hq
      rw [hsame]
      rcases hchange.node (t.resolve q) with he | ⟨-, hdir, -⟩ | ⟨-, -, p, rfl, hresolve⟩
      · simpa [FileTree.file?, he] using hway q hq
      · exact FileTree.file?_eq_none_of_directory hdir
      · -- the new file is in no directory's place, for the directories above it are there
        have hroot := h'.isAbove_root_of_point hq (hresolve.symm.trans hplace) (FileTree.point_mem_module base)
        obtain ⟨l, hl, -⟩ := FileTree.lookup_eq_ok_iff.1 hwrites.holds
        rw [← hsame]
        exact FileTree.file?_eq_none_of_directory
          ((FileTree.locate_eq_ok_iff_above.1 hl).2.1 q (h.isAbove hroot))
    · rw [hsame]
      intro hdir
      obtain ⟨-, q, hq, hresolve⟩ := hchange.new_directory hdir hfree
      have hroot := h.isAbove_root_of_point hq (hresolve.trans hplace') (FileTree.point_mem_module base')
      exact hapart q (h'.isAbove hroot) hresolve
    · simpa only [hsame] using hapart

end Path.IsModuleBelow

end CrudScaffold
