import CrudScaffold.Proofs.Storage.Change

/-!
# What operations change

Making directories adds only directories, and only on the way to a path; replacing a file changes only that file,
and nothing at all when it is refused.  A temporary file never stays.
-/

namespace CrudScaffold

/-- The path of the given components below a path. -/
def Path.under (p : Path) (names : List String) : Path :=
  ⟨p.anchor, p.components ++ names⟩

/-- Whether the second path lies below the first one, by its text. -/
def Path.IsAbove (q p : Path) : Prop := ∃ names, names ≠ [] ∧ p = q.under names

theorem Path.isAbove_parent {p : Path} (h : p.components ≠ []) : p.parent.IsAbove p :=
  ⟨[p.components.getLast h], by simp, by simp [under, parent, List.dropLast_concat_getLast]⟩

theorem Path.isAbove_of_parent {q p : Path} (h : q.IsAbove p.parent) (hp : p.components ≠ []) : q.IsAbove p := by
  obtain ⟨names, hne, hq⟩ := h
  obtain ⟨last, hlast, hp⟩ := isAbove_parent hp
  refine ⟨names ++ last, by simp [hne], ?_⟩
  rw [hp, hq]
  simp [under]

namespace Storage

open FileTree (ChangedAt)

variable {t : FileTree} {p : Path}

@[simp] theorem outcome_ask {α : Type} (question : FileTree → Except FileError α) :
    outcome (ask question) t = (question t, t) := by
  unfold ask
  rw [outcome_bind_of_ok outcome_get]
  cases question t <;> rfl

/-- Questions change nothing. -/
theorem leaves_ask {α : Type} {directories files : Path → Prop} (question : FileTree → Except FileError α) :
    Leaves (ChangedAt directories files) (ask question) := by
  intro t
  rw [outcome_ask]
  exact .refl t

/-- Reading changes nothing, and finds the file that the path leads to. -/
theorem outcome_read_cases {result : Except FileError ByteArray} {t' : FileTree}
    (h : outcome (read p) t = (result, t')) :
    t' = t ∧ ∀ content, result = .ok content → t.lookup p = .ok (.file content) := by
  unfold read at h
  cases hl : t.lookup p with
  | error e =>
    rw [outcome_bind_of_error (by rw [outcome_ask, hl])] at h
    obtain ⟨rfl, rfl⟩ := Prod.mk.inj h
    exact ⟨rfl, fun _ => nofun⟩
  | ok n =>
    rw [outcome_bind_of_ok (by rw [outcome_ask, hl])] at h
    cases n with
    | file content =>
      obtain ⟨rfl, rfl⟩ := Prod.mk.inj h
      exact ⟨rfl, fun _ hc => by rw [Except.ok.inj hc]⟩
    | directory =>
      obtain ⟨rfl, rfl⟩ := Prod.mk.inj h
      exact ⟨rfl, fun _ => nofun⟩

theorem outcome_read_of_file {content : ByteArray} (h : t.lookup p = .ok (.file content)) :
    outcome (read p) t = (.ok content, t) := by
  unfold read
  rw [outcome_bind_of_ok (by rw [outcome_ask, h])]
  rfl

/-! ### Directories -/

theorem changedAt_put_directory {l : Location} (hl : t.locate p = .ok l) (hn : t.node? l = none)
    (files : Path → Prop) : ChangedAt (· = p) files t (t.put l .directory) := by
  refine ⟨rfl, fun other => ?_⟩
  rw [FileTree.node?_put]
  by_cases hhome : other.isPrefixOf t.home = true
  · simp [hhome, FileTree.node?]
  · by_cases he : other = l
    · subst he
      rw [if_neg hhome, if_pos rfl]
      exact Or.inr (Or.inl ⟨hn, rfl, p, rfl, (FileTree.resolve_of_locate hl).symm⟩)
    · simp [hhome, he]

theorem leaves_makeDirectory (p : Path) (files : Path → Prop) :
    Leaves (ChangedAt (· = p) files) (makeDirectory p) := by
  intro t
  unfold makeDirectory locate
  cases hl : t.locate p with
  | error e =>
    rw [outcome_bind_of_error (by rw [outcome_ask, hl])]
    exact .refl t
  | ok l =>
    rw [outcome_bind_of_ok (by rw [outcome_ask, hl]), outcome_bind_of_ok outcome_get]
    by_cases hn : (t.node? l).isSome = true
    · rw [if_pos hn]
      exact .refl t
    · rw [if_neg hn]
      exact changedAt_put_directory hl (by simpa using hn) files

theorem leaves_makeDirectoryOnce (p : Path) (files : Path → Prop) :
    Leaves (ChangedAt (· = p) files) (makeDirectoryOnce p) := by
  refine Leaves.tryCatch (leaves_makeDirectory p files) (fun e => ?_) fun _ _ _ => ChangedAt.trans
  split
  · exact .throw .refl e
  · refine Leaves.bind (leaves_ask _) (fun there => ?_) fun _ _ _ => ChangedAt.trans
    cases there
    · exact .throw .refl e
    · exact .pure .refl _

theorem leaves_ensureUpTo (fuel : Nat) (p : Path) (files : Path → Prop) :
    Leaves (ChangedAt (fun q => q = p ∨ q.IsAbove p) files) (ensureUpTo fuel p) := by
  have honce (p : Path) : Leaves (ChangedAt (fun q => q = p ∨ q.IsAbove p) files) (makeDirectoryOnce p) :=
    fun t => (leaves_makeDirectoryOnce p files t).mono (fun _ => Or.inl) fun _ => id
  induction fuel generalizing p with
  | zero => exact honce p
  | succ fuel ih =>
    refine Leaves.tryCatch (honce p) (fun e => ?_) fun _ _ _ => ChangedAt.trans
    split
    · exact .throw .refl e
    · rename_i hcomponents
      have hne : p.components ≠ [] := by
        intro h
        exact hcomponents (Or.inr (by simp [h]))
      refine Leaves.bind (fun t => (ih p.parent t).mono ?_ fun _ => id) (fun _ => honce p)
        fun _ _ _ => ChangedAt.trans
      rintro q (rfl | hq)
      · exact Or.inr (Path.isAbove_parent hne)
      · exact Or.inr (Path.isAbove_of_parent hq hne)

/-- Only directories on the way to the path are made. -/
theorem leaves_ensureDirectory (p : Path) (files : Path → Prop) :
    Leaves (ChangedAt (fun q => q = p ∨ q.IsAbove p) files) (ensureDirectory p) :=
  leaves_ensureUpTo _ p files

/-- When the directory of a path is made, only directories above the path are. -/
theorem leaves_ensureParent (p : Path) (files : Path → Prop) :
    Leaves (ChangedAt (·.IsAbove p) files) (ensureDirectory p.parent) := by
  intro t
  have hchange := leaves_ensureDirectory p.parent files t
  by_cases hp : p.components = []
  · -- a path without components is its own parent, and leads to a directory that is always there
    have hempty : p.parent.components = [] := by simp [Path.parent, hp]
    have hthere : t.node? (t.resolve p.parent) = some .directory := by
      rw [FileTree.resolve, hempty]
      exact FileTree.node?_start p.parent.anchor
    refine ⟨hchange.home, fun l => ?_⟩
    rcases hchange.node l with he | ⟨hnone, -, q, rfl | ⟨names, hne, heq⟩, rfl⟩ | hfile
    · exact Or.inl he
    · rw [hthere] at hnone
      cases hnone
    · simp [heq, Path.under, hne] at hempty
    · exact Or.inr (Or.inr hfile)
  · refine hchange.mono ?_ fun _ => id
    rintro q (rfl | hq)
    · exact Path.isAbove_parent hp
    · exact Path.isAbove_of_parent hq hp

/-! ### Files -/

/-- Nothing stands where a temporary file is put. -/
theorem node?_of_temporaryLocation {l : Location} (h : temporaryLocation t p = .ok l) : t.node? l = none := by
  unfold temporaryLocation at h
  cases hfind : (List.range (t.nodes.length + 2)).findSome? (freeLocation? t p) with
  | none => simp [hfind] at h
  | some found =>
    obtain rfl : found = .ok l := by simpa [hfind] using h
    obtain ⟨number, -, hnumber⟩ := List.exists_of_findSome?_eq_some hfind
    unfold freeLocation? at hnumber
    split at hnumber
    · split at hnumber
      · rename_i hfree
        obtain rfl := Except.ok.inj (Option.some.inj hnumber)
        simpa using hfree
      · cases hnumber
    · simp at hnumber

theorem outcome_writeTemporary (content : ByteArray) :
    outcome (writeTemporary p content) t = match temporaryLocation t p with
      | .error e => (.error e, t)
      | .ok l => (.ok l, t.put l (.file content)) := by
  unfold writeTemporary
  cases h : temporaryLocation t p with
  | error e => rw [outcome_bind_of_error (by rw [outcome_ask, h])]
  | ok l =>
    rw [outcome_bind_of_ok (by rw [outcome_ask, h]), outcome_bind_of_ok (outcome_modify _)]
    rfl

theorem outcome_rename (old : Location) :
    outcome (rename old p) t = match t.locate p with
      | .error e => (.error e, t)
      | .ok l =>
        if p.components.isEmpty ∨ p.name = ".." then (.error .busy, t)
        else if t.node? l = some .directory then (.error .isDirectory, t)
        else match t.node? old with
          | some n => (.ok (), (t.erase old).put l n)
          | none => (.error .notFound, t) := by
  unfold rename locate
  cases hl : t.locate p with
  | error e => rw [outcome_bind_of_error (by rw [outcome_ask, hl])]
  | ok l =>
    rw [outcome_bind_of_ok (by rw [outcome_ask, hl])]
    dsimp only
    by_cases hbusy : p.components.isEmpty = true ∨ p.name = ".."
    · rw [if_pos hbusy, if_pos hbusy]
      rfl
    · rw [if_neg hbusy, if_neg hbusy, outcome_bind_of_ok outcome_get]
      by_cases hdir : t.node? l = some .directory
      · rw [if_pos hdir, if_pos hdir]
        rfl
      · rw [if_neg hdir, if_neg hdir]
        cases t.node? old <;> rfl

/-- Moving a file either changes nothing, or takes it away and puts it where the path leads. -/
private theorem outcome_rename_cases {old : Location} {result : Except FileError Unit} {t' : FileTree}
    (h : outcome (rename old p) t = (result, t')) :
    (∃ e, result = .error e ∧ t' = t) ∨
      ∃ l n, result = .ok () ∧ t.locate p = .ok l ∧ t.node? l ≠ some .directory ∧ t.node? old = some n ∧
        t' = (t.erase old).put l n := by
  rw [outcome_rename] at h
  cases hl : t.locate p with
  | error e =>
    rw [hl] at h
    obtain ⟨rfl, rfl⟩ := Prod.mk.inj h
    exact Or.inl ⟨e, rfl, rfl⟩
  | ok l =>
    simp only [hl] at h
    split at h
    · obtain ⟨rfl, rfl⟩ := Prod.mk.inj h
      exact Or.inl ⟨_, rfl, rfl⟩
    · split at h
      · obtain ⟨rfl, rfl⟩ := Prod.mk.inj h
        exact Or.inl ⟨_, rfl, rfl⟩
      · rename_i hdir
        cases hn : t.node? old with
        | none =>
          rw [hn] at h
          obtain ⟨rfl, rfl⟩ := Prod.mk.inj h
          exact Or.inl ⟨_, rfl, rfl⟩
        | some n =>
          rw [hn] at h
          obtain ⟨rfl, rfl⟩ := Prod.mk.inj h
          exact Or.inr ⟨l, n, rfl, rfl, hdir, rfl, rfl⟩

private theorem not_home_of_node?_eq_none {l : Location} (h : t.node? l = none) : ¬ l.isPrefixOf t.home = true := by
  intro hhome
  simp [FileTree.node?, hhome] at h

/-- What is seen after a temporary file has been put somewhere and taken away again. -/
private theorem node?_erase_put {temporary : Location} (h : t.node? temporary = none) (n : Node) (l : Location) :
    ((t.put temporary n).erase temporary).node? l = t.node? l := by
  rw [FileTree.node?_erase, FileTree.node?_put]
  by_cases hl : l = temporary
  · subst hl
    simp [FileTree.put, not_home_of_node?_eq_none h, h]
  · by_cases hhome : l.isPrefixOf t.home = true <;> simp [FileTree.put, hl, hhome, FileTree.node?]

/-- A temporary file is seen beside what was there. -/
private theorem node?_put_file {temporary l : Location} {content : ByteArray} (h : ¬ l.isPrefixOf t.home = true) :
    (t.put temporary (.file content)).node? l = if l = temporary then some (.file content) else t.node? l := by
  rw [FileTree.node?_put, if_neg h]

/-- Moving a temporary file to where a path leads changes only the file there. -/
private theorem changedAt_move {temporary l : Location} {content : ByteArray} (hfree : t.node? temporary = none)
    (hlocate : (t.put temporary (.file content)).locate p = .ok l)
    (hdir : (t.put temporary (.file content)).node? l ≠ some .directory) {t' : FileTree}
    (ht : t' = ((t.put temporary (.file content)).erase temporary).put l (.file content)) :
    ChangedAt (fun _ => False) (· = p) t t' ∧ t'.lookup p = .ok (.file content) := by
  have hhome : ¬ l.isPrefixOf t.home = true := fun h => hdir (if_pos h)
  have hresolve : t.resolve p = l :=
    ((FileTree.resolve_of_locate hlocate).trans (FileTree.resolve_congr rfl p)).symm
  have hold : t.node? l ≠ some .directory := by
    rw [node?_put_file hhome] at hdir
    by_cases hsame : l = temporary
    · rw [hsame, hfree]
      simp
    · rwa [if_neg hsame] at hdir
  have hnew (other : Location) : t'.node? other =
      if other.isPrefixOf t.home then some .directory
      else if other = l then some (.file content) else t.node? other := by
    rw [ht, FileTree.node?_put, node?_erase_put hfree]
    rfl
  have hchange : ChangedAt (fun _ => False) (· = p) t t' := by
    refine ⟨by rw [ht]; rfl, fun other => ?_⟩
    rw [hnew]
    by_cases hother : other = l
    · rw [hother, if_neg hhome, if_pos rfl]
      exact Or.inr (Or.inr ⟨hold, ⟨content, rfl⟩, p, rfl, hresolve⟩)
    · rw [if_neg hother]
      by_cases hhome : other.isPrefixOf t.home = true <;> simp [FileTree.node?, hhome]
  refine ⟨hchange, FileTree.lookup_eq_ok_iff.2 ⟨l, ?_, ?_⟩⟩
  · refine FileTree.locate_of_directories (by exact hchange.home) (fun d hd => hchange.directory ?_) hlocate
    -- the temporary file is no directory
    by_cases hhome : d.isPrefixOf t.home = true
    · exact if_pos hhome
    · rw [node?_put_file hhome] at hd
      split at hd
      · cases hd
      · exact hd
  · rw [hnew, if_neg hhome, if_pos rfl]

/-- A file is replaced whole, or nothing is changed. -/
theorem outcome_replace_cases {content : ByteArray} {result : Except FileError Unit} {t' : FileTree}
    (h : outcome (replace p content) t = (result, t')) :
    (∃ e, result = .error e ∧ ChangedAt (fun _ => False) (fun _ => False) t t') ∨
      (result = .ok () ∧ ChangedAt (fun _ => False) (· = p) t t' ∧ t'.lookup p = .ok (.file content)) := by
  unfold replace at h
  have htemporary := @outcome_writeTemporary t p content
  cases hl : temporaryLocation t p with
  | error e =>
    rw [hl] at htemporary
    rw [outcome_bind_of_error htemporary, Prod.mk.injEq] at h
    exact Or.inl ⟨e, h.1.symm, h.2 ▸ .refl t⟩
  | ok temporary =>
    rw [hl] at htemporary
    rw [outcome_bind_of_ok htemporary] at h
    have hfree := node?_of_temporaryLocation hl
    rcases hr : outcome (rename temporary p) (t.put temporary (.file content)) with ⟨e | ⟨⟩, t₁⟩
    · rw [outcome_tryCatch_of_error hr, outcome_bind_of_ok (outcome_modify _)] at h
      obtain ⟨rfl, rfl⟩ := Prod.mk.inj h
      rcases outcome_rename_cases hr with ⟨-, -, rfl⟩ | ⟨-, -, hok, -⟩
      · exact Or.inl ⟨e, rfl, rfl, fun l => Or.inl (node?_erase_put hfree _ l)⟩
      · cases hok
    · rw [outcome_tryCatch_of_ok hr] at h
      obtain ⟨rfl, rfl⟩ := Prod.mk.inj h
      rcases outcome_rename_cases hr with ⟨e, herror, -⟩ | ⟨l, n, -, hlocate, hdir, hn, ht⟩
      · cases herror
      · obtain rfl : .file content = n := by
          simpa [node?_put_file (not_home_of_node?_eq_none hfree)] using hn
        exact Or.inr ⟨rfl, changedAt_move hfree hlocate hdir ht⟩

private theorem rename_succeeds_iff {old : Location} :
    (∃ t', outcome (rename old p) t = (.ok (), t')) ↔
      (p.components ≠ [] ∧ p.name ≠ "..") ∧ (∃ l, t.locate p = .ok l ∧ t.node? l ≠ some .directory) ∧
        t.node? old ≠ none := by
  rw [outcome_rename]
  cases hl : t.locate p with
  | error e => simp
  | ok l =>
    dsimp only
    by_cases hbusy : p.components = [] ∨ p.name = ".."
    · simp [hbusy, ← not_or]
    · rw [if_neg (by simpa using hbusy)]
      by_cases hdir : t.node? l = some .directory
      · simp [hdir]
      · cases hn : t.node? old <;> simp [hdir, not_or.1 hbusy]

/-- When a file can be replaced. -/
theorem replace_succeeds_iff {content : ByteArray} :
    (∃ t', outcome (replace p content) t = (.ok (), t')) ↔
      (p.components ≠ [] ∧ p.name ≠ "..") ∧ (∃ l, t.locate p = .ok l ∧ t.node? l ≠ some .directory) ∧
        ∃ temporary, temporaryLocation t p = .ok temporary := by
  have htemporary := @outcome_writeTemporary t p content
  cases hplace : temporaryLocation t p with
  | error e =>
    rw [hplace] at htemporary
    simp [replace, outcome_bind_of_error htemporary]
  | ok temporary =>
    rw [hplace] at htemporary
    have hfree := node?_of_temporaryLocation hplace
    let beside := t.put temporary (.file content)
    have hreplace : (∃ t', outcome (replace p content) t = (.ok (), t')) ↔
        ∃ t', outcome (rename temporary p) beside = (.ok (), t') := by
      rw [replace, outcome_bind_of_ok htemporary]
      rcases hrename : outcome (rename temporary p) beside with ⟨e | ⟨⟩, t₁⟩
      · rw [outcome_tryCatch_of_error hrename, outcome_bind_of_ok (outcome_modify _)]
        simp
      · rw [outcome_tryCatch_of_ok hrename]
    -- the temporary file is no directory, so that the path leads to the same location with it and without it
    have hdirectory (l : Location) : beside.node? l = some .directory ↔ t.node? l = some .directory := by
      by_cases hhome : l.isPrefixOf t.home = true
      · simp [beside, FileTree.node?, FileTree.put, hhome]
      · rw [node?_put_file hhome]
        by_cases hl : l = temporary <;> simp [hl, hfree]
    have hlocate (l : Location) : beside.locate p = .ok l ↔ t.locate p = .ok l := by
      have hhome : t.home = beside.home := rfl
      constructor
      · exact FileTree.locate_of_directories hhome fun l => (hdirectory l).1
      · exact FileTree.locate_of_directories hhome.symm fun l => (hdirectory l).2
    have hthere : beside.node? temporary ≠ none := by
      rw [node?_put_file (not_home_of_node?_eq_none hfree), if_pos rfl]
      simp
    rw [hreplace, rename_succeeds_iff]
    simp only [hlocate, ne_eq, hdirectory, hthere, not_false_eq_true, and_true, Except.ok.injEq, exists_eq']

end Storage

end CrudScaffold
