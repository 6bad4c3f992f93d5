import CrudScaffold.Proofs.Storage.Below

/-!
# Sequences of files

Files that are written one after the other below one root.  Each of them could have been written first
(`WritesAll.admits`), so that the order does not matter for whether they can be written; and where no file is written
twice, it does not matter for what is there afterwards (`WritesAll.node?_eq`).
-/

namespace CrudScaffold.FileTree

variable {root p q : Path} {t t' t'' : FileTree} {content : ByteArray} {files files' : List (Path × ByteArray)}
  {l : Location}

/-! ### Trees that look the same -/

/-- The same nodes are seen in both trees. -/
structure SameAs (t t' : FileTree) : Prop where
  home : t'.home = t.home
  node (l : Location) : t'.node? l = t.node? l

namespace SameAs

theorem refl (t : FileTree) : SameAs t t := ⟨rfl, fun _ => rfl⟩

theorem trans (h : SameAs t t') (h' : SameAs t' t'') : SameAs t t'' :=
  ⟨h'.home.trans h.home, fun l => (h'.node l).trans (h.node l)⟩

theorem locate (h : SameAs t t') (p : Path) : t'.locate p = t.locate p := by
  have hstep : t'.step = t.step := by
    funext directory name
    rw [FileTree.step, h.node, FileTree.step]
  have hstart : t'.start p.anchor = t.start p.anchor := by
    unfold start
    rw [h.home]
  rw [FileTree.locate, hstep, hstart, FileTree.locate]

theorem lookup (h : SameAs t t') (p : Path) : t'.lookup p = t.lookup p := by
  simp only [FileTree.lookup, h.locate, h.node]

theorem admits_iff (h : SameAs t t') : t'.Admits p ↔ t.Admits p := by
  have hresolve := resolve_congr h.home
  have hoccupied (number : Nat) : t'.Occupied p number ↔ t.Occupied p number := by
    simp only [Occupied, h.node, hresolve]
  constructor
  · rintro ⟨hnamed, hfits, hway, hplace, htemporary⟩
    simp only [file?, h.node, hresolve] at hway hplace
    simp only [hoccupied] at htemporary
    exact ⟨hnamed, hfits, hway, hplace, htemporary⟩
  · rintro ⟨hnamed, hfits, hway, hplace, htemporary⟩
    refine ⟨hnamed, hfits, ?_, ?_, ?_⟩
    · simpa only [file?, h.node, hresolve] using hway
    · simpa only [h.node, hresolve] using hplace
    · simpa only [hoccupied] using htemporary

end SameAs

/-! ### What a path leads to -/

theorem directory_of_lookup {n : Node} (h : t.lookup p = .ok n) (hq : q.IsAbove p) :
    t.node? (t.resolve q) = some .directory := by
  obtain ⟨l, hl, -⟩ := lookup_eq_ok_iff.1 h
  exact (locate_eq_ok_iff_above.1 hl).2.1 q hq

theorem node?_of_lookup {n : Node} (h : t.lookup p = .ok n) : t.node? (t.resolve p) = some n := by
  obtain ⟨l, hl, hn⟩ := lookup_eq_ok_iff.1 h
  rwa [← resolve_of_locate hl]

/-- Where there is a file there is one afterwards. -/
theorem ChangedAt.exists_lookup {directories paths : Path → Prop} (h : ChangedAt directories paths t t')
    (hp : t.lookup p = .ok (.file content)) : ∃ content', t'.lookup p = .ok (.file content') := by
  obtain ⟨l, hl, hn⟩ := lookup_eq_ok_iff.1 hp
  rcases h.node l with he | ⟨hnone, -, -⟩ | ⟨-, ⟨content', hfile⟩, -⟩
  · exact ⟨content, lookup_eq_ok_iff.2 ⟨l, h.locate hl, he.trans hn⟩⟩
  · rw [hn] at hnone
    cases hnone
  · exact ⟨content', lookup_eq_ok_iff.2 ⟨l, h.locate hl, hfile⟩⟩

/-- Writing what is there already changes nothing. -/
theorem Writes.sameAs (h : Writes p content t t') (hthere : t.lookup p = .ok (.file content)) : SameAs t t' := by
  refine ⟨h.changed.home, fun l => ?_⟩
  rcases h.changed.node l with he | ⟨hnone, -, q, hq, rfl⟩ | ⟨-, -, q, rfl, rfl⟩
  · exact he
  · -- the directories above a file that is there are there too
    rw [directory_of_lookup hthere hq] at hnone
    cases hnone
  · rw [node?_of_lookup hthere, ← resolve_congr h.changed.home, node?_of_lookup h.holds]

/-! ### Sequences -/

/-- The files are written one after the other. -/
inductive WritesAll : FileTree → List (Path × ByteArray) → FileTree → Prop
  | nil (t : FileTree) : WritesAll t [] t
  | cons {t t₁ t₂ : FileTree} {p : Path} {content : ByteArray} {files : List (Path × ByteArray)}
      (h : Writes p content t t₁) (hrest : WritesAll t₁ files t₂) : WritesAll t ((p, content) :: files) t₂

namespace WritesAll

theorem append (h : WritesAll t files t') (h' : WritesAll t' files' t'') : WritesAll t (files ++ files') t'' := by
  induction h with
  | nil t => exact h'
  | cons h _ ih => exact .cons h (ih h')

/-- A sequence neither makes nor takes away a place for another file. -/
theorem admits_iff (h : WritesAll t files t') (hbelow : ∀ f ∈ files, root.IsModuleBelow f.1)
    (hp : root.IsModuleBelow p) : t'.Admits p ↔ t.Admits p := by
  induction h with
  | nil t => rfl
  | cons h _ ih =>
    rw [ih fun f hf => hbelow f (by simp [hf])]
    exact (hbelow _ List.mem_cons_self).admits_iff hp h

/-- Each file of a sequence could have been written first. -/
theorem admits (h : WritesAll t files t') (hbelow : ∀ f ∈ files, root.IsModuleBelow f.1) :
    ∀ f ∈ files, t.Admits f.1 := by
  induction h with
  | nil t => simp
  | @cons t t₁ t₂ p content files h _ ih =>
    intro f hf
    rcases List.mem_cons.1 hf with rfl | hf
    · exact h.admits
    · have hrest := ih (fun g hg => hbelow g (by simp [hg])) f hf
      exact ((hbelow _ List.mem_cons_self).admits_iff (hbelow f (by simp [hf])) h).1 hrest

theorem changed (h : WritesAll t files t') :
    ChangedAt (fun q => ∃ f ∈ files, q.IsAbove f.1) (fun p => ∃ f ∈ files, p = f.1) t t' := by
  induction h with
  | nil t => exact .refl t
  | @cons t t₁ t₂ p content files h _ ih =>
    refine (h.changed.mono (fun q hq => ⟨_, List.mem_cons_self, hq⟩) fun q hq => ⟨_, List.mem_cons_self, hq⟩).trans ?_
    exact ih.mono (fun q ⟨f, hf, hq⟩ => ⟨f, by simp [hf], hq⟩) fun q ⟨f, hf, hq⟩ => ⟨f, by simp [hf], hq⟩

/-- There is a file wherever one has been written. -/
theorem exists_lookup (h : WritesAll t files t') : ∀ f ∈ files, ∃ content, t'.lookup f.1 = .ok (.file content) := by
  induction h with
  | nil t => simp
  | cons h hrest ih =>
    intro f hf
    rcases List.mem_cons.1 hf with rfl | hf
    · exact hrest.changed.exists_lookup h.holds
    · exact ih f hf

/-- A file that is alone at its place holds what was written. -/
theorem holds (h : WritesAll t files t') {f : Path × ByteArray} (hf : f ∈ files)
    (halone : ∀ g ∈ files, t.resolve g.1 = t.resolve f.1 → g = f) : t'.lookup f.1 = .ok (.file f.2) := by
  induction h with
  | nil t => cases hf
  | @cons t t₁ t₂ p content files h hrest ih =>
    have hsame := resolve_congr h.changed.home
    by_cases hlater : f ∈ files
    · refine ih hlater fun g hg hplace => halone g (by simp [hg]) ?_
      rwa [hsame, hsame] at hplace
    · obtain rfl := (List.mem_cons.1 hf).resolve_right hlater
      refine hrest.changed.lookup h.holds ?_
      rintro q ⟨g, hg, rfl⟩ hplace
      rw [hsame, hsame] at hplace
      exact hlater (halone g (by simp [hg]) hplace ▸ hg)

/-- What a sequence leaves at a place is known from the tree before it, the paths that are written and the file at
that place. -/
theorem node?_eq (h : WritesAll t files t') (h' : WritesAll t files' t'')
    (hpaths : ∀ p, (∃ f ∈ files, f.1 = p) ↔ ∃ f ∈ files', f.1 = p)
    (hplace : ∀ f ∈ files, t.resolve f.1 = l → t'.lookup f.1 = t''.lookup f.1) : t'.node? l = t''.node? l := by
  have hresolve := resolve_congr h.changed.home
  have hresolve' := resolve_congr h'.changed.home
  by_cases hfile : ∃ f ∈ files, t.resolve f.1 = l
  · obtain ⟨f, hf, rfl⟩ := hfile
    obtain ⟨content, hcontent⟩ := h.exists_lookup f hf
    have hnode := node?_of_lookup hcontent
    have hnode' := node?_of_lookup (hplace f hf rfl ▸ hcontent)
    rw [hresolve] at hnode
    rw [hresolve'] at hnode'
    rw [hnode, hnode']
  · by_cases habove : ∃ f ∈ files, ∃ q, q.IsAbove f.1 ∧ t.resolve q = l
    · obtain ⟨f, hf, q, hq, rfl⟩ := habove
      obtain ⟨f', hf', hpath⟩ := (hpaths f.1).1 ⟨f, hf, rfl⟩
      obtain ⟨content, hcontent⟩ := h.exists_lookup f hf
      obtain ⟨content', hcontent'⟩ := h'.exists_lookup f' hf'
      have hnode := directory_of_lookup hcontent hq
      have hnode' := directory_of_lookup hcontent' (hpath ▸ hq)
      rw [hresolve] at hnode
      rw [hresolve'] at hnode'
      rw [hnode, hnode']
    · -- nothing has been written here
      have hkept : t'.node? l = t.node? l := by
        rcases h.changed.node l with he | ⟨-, -, q, ⟨f, hf, hq⟩, hl⟩ | ⟨-, -, q, ⟨f, hf, rfl⟩, hl⟩
        · exact he
        · exact absurd ⟨f, hf, q, hq, hl⟩ habove
        · exact absurd ⟨f, hf, hl⟩ hfile
      have hkept' : t''.node? l = t.node? l := by
        rcases h'.changed.node l with he | ⟨-, -, q, ⟨f', hf', hq⟩, hl⟩ | ⟨-, -, q, ⟨f', hf', rfl⟩, hl⟩
        · exact he
        · obtain ⟨f, hf, hpath⟩ := (hpaths f'.1).2 ⟨f', hf', rfl⟩
          exact absurd ⟨f, hf, q, hpath ▸ hq, hl⟩ habove
        · obtain ⟨f, hf, hpath⟩ := (hpaths f'.1).2 ⟨f', hf', rfl⟩
          exact absurd ⟨f, hf, hpath ▸ hl⟩ hfile
      rw [hkept, hkept']

end WritesAll

end CrudScaffold.FileTree
