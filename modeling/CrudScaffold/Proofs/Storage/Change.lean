import CrudScaffold.Proofs.Outcome
import CrudScaffold.Storage.Operation

/-!
# How a tree may change

What operations on files leave alone.  `ChangedAt directories files t t'` says that the second tree has nothing new
but directories at some paths where nothing stood, and files with new content at some paths where no directory
stood.  The relation is reflexive and transitive, and paths that lead somewhere still lead there afterwards.
-/

namespace CrudScaffold.FileTree

/-- What the file at a location holds, if there is a file. -/
def file? (t : FileTree) (l : Location) : Option ByteArray :=
  match t.node? l with
  | some (.file content) => some content
  | _ => none

/-- The location of a path when everything above it exists. -/
def resolve (t : FileTree) (p : Path) : Location :=
  p.components.foldl (fun l name => if name = ".." then l.dropLast else l ++ [name]) (t.start p.anchor)

theorem resolve_congr {t t' : FileTree} (h : t'.home = t.home) (p : Path) : t'.resolve p = t.resolve p := by
  have hstart : t'.start p.anchor = t.start p.anchor := by
    unfold start
    rw [h]
  rw [resolve, hstart, resolve]

structure ChangedAt (directories files : Path → Prop) (t t' : FileTree) : Prop where
  home : t'.home = t.home
  node (l : Location) :
    t'.node? l = t.node? l ∨
      (t.node? l = none ∧ t'.node? l = some .directory ∧ ∃ p, directories p ∧ t.resolve p = l) ∨
      (t.node? l ≠ some .directory ∧ (∃ content, t'.node? l = some (.file content)) ∧ ∃ p, files p ∧ t.resolve p = l)

variable {directories files : Path → Prop} {t t' t'' : FileTree}

namespace ChangedAt

theorem refl (t : FileTree) : ChangedAt directories files t t :=
  ⟨rfl, fun _ => Or.inl rfl⟩

theorem trans (h : ChangedAt directories files t t') (h' : ChangedAt directories files t' t'') :
    ChangedAt directories files t t'' := by
  refine ⟨h'.home.trans h.home, fun l => ?_⟩
  have hnode := h'.node l
  simp only [resolve_congr h.home] at hnode
  rcases h.node l with he | ⟨hnone, hdir, hl⟩ | ⟨hdir, ⟨content, hfile⟩, hl⟩
  · rw [← he]
    exact hnode
  · -- a new directory stays
    rcases hnode with he | ⟨hnone', -, -⟩ | ⟨hdir', -, -⟩
    · exact Or.inr (Or.inl ⟨hnone, he.trans hdir, hl⟩)
    · rw [hdir] at hnone'
      cases hnone'
    · exact absurd hdir hdir'
  · -- a new file is at most written once more
    rcases hnode with he | ⟨hnone', -, -⟩ | ⟨-, hfile', -⟩
    · exact Or.inr (Or.inr ⟨hdir, ⟨content, he.trans hfile⟩, hl⟩)
    · rw [hfile] at hnone'
      cases hnone'
    · exact Or.inr (Or.inr ⟨hdir, hfile', hl⟩)

theorem mono {directories' files' : Path → Prop} (h : ChangedAt directories files t t')
    (hd : ∀ p, directories p → directories' p) (hf : ∀ p, files p → files' p) :
    ChangedAt directories' files' t t' := by
  refine ⟨h.home, fun l => ?_⟩
  rcases h.node l with he | ⟨hnone, hdir, p, hp, hl⟩ | ⟨hdir, hfile, p, hp, hl⟩
  · exact Or.inl he
  · exact Or.inr (Or.inl ⟨hnone, hdir, p, hd p hp, hl⟩)
  · exact Or.inr (Or.inr ⟨hdir, hfile, p, hf p hp, hl⟩)

/-- Directories stay. -/
theorem directory (h : ChangedAt directories files t t') {l : Location} (hl : t.node? l = some .directory) :
    t'.node? l = some .directory := by
  rcases h.node l with he | ⟨hnone, -, -⟩ | ⟨hdir, -, -⟩
  · rw [he, hl]
  · rw [hl] at hnone
    cases hnone
  · exact absurd hl hdir

/-- A file elsewhere keeps its content. -/
theorem file (h : ChangedAt directories files t t') {l : Location} (hl : ∀ p, files p → t.resolve p ≠ l) :
    t'.file? l = t.file? l := by
  unfold file?
  rcases h.node l with he | ⟨hnone, hdir, -⟩ | ⟨-, -, hfile⟩
  · rw [he]
  · rw [hnone, hdir]
  · obtain ⟨p, hp, hl'⟩ := hfile
    exact absurd hl' (hl p hp)

/-- A new directory is at one of the paths for directories, where nothing stood. -/
theorem new_directory (h : ChangedAt directories files t t') {l : Location} (hl : t'.node? l = some .directory)
    (hnew : t.node? l ≠ some .directory) : t.node? l = none ∧ ∃ p, directories p ∧ t.resolve p = l := by
  rcases h.node l with he | ⟨hnone, -, hd⟩ | ⟨-, ⟨content, hfile⟩, -⟩
  · exact absurd (he ▸ hl) hnew
  · exact ⟨hnone, hd⟩
  · rw [hl] at hfile
    cases hfile

end ChangedAt

/-! ### Locations of paths -/

theorem node?_put {l other : Location} {n : Node} :
    (t.put l n).node? other = if other.isPrefixOf t.home then some .directory
      else if other = l then some n else t.node? other := by
  unfold node? put
  by_cases h : other.isPrefixOf t.home = true
  · simp [h]
  · simp [h, Entries.get?_put]

theorem node?_erase {l other : Location} :
    (t.erase l).node? other = if other.isPrefixOf t.home then some .directory
      else if other = l then none else t.node? other := by
  unfold node? erase
  by_cases h : other.isPrefixOf t.home = true
  · simp [h]
  · simp [h, Entries.get?_erase]

/-- What paths start from is always there. -/
theorem node?_start (a : Anchor) : t.node? (t.start a) = some .directory := by
  cases a <;> simp [start, node?]

theorem step_eq_ok_iff {directory l : Location} {name : String} :
    t.step directory name = .ok l ↔ t.node? directory = some .directory ∧
      (name = ".." ∨ name.utf8ByteSize ≤ maxNameSize) ∧
      (if name = ".." then directory.dropLast else directory ++ [name]) = l := by
  unfold step
  cases t.node? directory with
  | none => simp
  | some n =>
    cases n with
    | file content => simp
    | directory =>
      by_cases hup : name = ".."
      · simp [hup]
      · by_cases hsize : maxNameSize < name.utf8ByteSize
        · simp [hup, hsize, Nat.not_le.2 hsize]
        · simp [hup, hsize, Nat.le_of_not_lt hsize]

private theorem eq_foldl_of_foldlM {components : List String} {start l : Location}
    (h : components.foldlM t.step start = .ok l) :
    l = components.foldl (fun l name => if name = ".." then l.dropLast else l ++ [name]) start := by
  induction components generalizing start with
  | nil => exact (Except.ok.inj h).symm
  | cons name components ih =>
    rw [List.foldlM_cons, bind_eq_ok_iff] at h
    obtain ⟨next, hstep, hrest⟩ := h
    obtain ⟨-, -, rfl⟩ := step_eq_ok_iff.1 hstep
    exact ih hrest

theorem locate_eq_ok_iff {p : Path} {l : Location} :
    t.locate p = .ok l ↔ p.text.toList.contains '\x00' = false ∧ p.text.utf8ByteSize ≤ maxPathSize ∧
      p.components.foldlM t.step (t.start p.anchor) = .ok l := by
  unfold locate
  rw [refuse_eq_ok_iff, refuse_eq_ok_iff, Nat.not_lt, Bool.not_eq_true]

theorem resolve_of_locate {p : Path} {l : Location} (h : t.locate p = .ok l) : l = t.resolve p :=
  eq_foldl_of_foldlM (locate_eq_ok_iff.1 h).2.2

/-- A path still leads to where it led when the directories have stayed. -/
theorem locate_of_directories (hhome : t'.home = t.home)
    (hdir : ∀ l, t.node? l = some .directory → t'.node? l = some .directory) {p : Path} {l : Location}
    (hl : t.locate p = .ok l) : t'.locate p = .ok l := by
  have hfold {components : List String} {start l : Location} (hl : components.foldlM t.step start = .ok l) :
      components.foldlM t'.step start = .ok l := by
    induction components generalizing start with
    | nil => exact hl
    | cons name components ih =>
      rw [List.foldlM_cons, bind_eq_ok_iff] at hl ⊢
      obtain ⟨next, hstep, hrest⟩ := hl
      obtain ⟨hd, hstep⟩ := step_eq_ok_iff.1 hstep
      exact ⟨next, step_eq_ok_iff.2 ⟨hdir _ hd, hstep⟩, ih hrest⟩
  have hstart : t'.start p.anchor = t.start p.anchor := by
    unfold start
    rw [hhome]
  obtain ⟨hnull, hsize, hl⟩ := locate_eq_ok_iff.1 hl
  exact locate_eq_ok_iff.2 ⟨hnull, hsize, hstart ▸ hfold hl⟩

theorem ChangedAt.locate (h : ChangedAt directories files t t') {p : Path} {l : Location} (hl : t.locate p = .ok l) :
    t'.locate p = .ok l :=
  locate_of_directories h.home (fun _ => h.directory) hl

theorem lookup_eq_ok_iff {p : Path} {n : Node} :
    t.lookup p = .ok n ↔ ∃ l, t.locate p = .ok l ∧ t.node? l = some n := by
  unfold lookup
  cases t.locate p with
  | error e => simp [Except.bind]
  | ok l => cases hn : t.node? l <;> simp [Except.bind, hn]

/-- A file that a path leads to stays as it is when no file is written there. -/
theorem ChangedAt.lookup (h : ChangedAt directories files t t') {p : Path} {content : ByteArray}
    (hp : t.lookup p = .ok (.file content)) (hfiles : ∀ q, files q → t.resolve q ≠ t.resolve p) :
    t'.lookup p = .ok (.file content) := by
  obtain ⟨l, hl, hn⟩ := lookup_eq_ok_iff.1 hp
  refine lookup_eq_ok_iff.2 ⟨l, h.locate hl, ?_⟩
  obtain rfl := resolve_of_locate hl
  rcases h.node (t.resolve p) with he | ⟨hnone, -, -⟩ | ⟨-, -, q, hq, hl'⟩
  · rw [he, hn]
  · rw [hn] at hnone
    cases hnone
  · exact absurd hl' (hfiles q hq)

end CrudScaffold.FileTree
