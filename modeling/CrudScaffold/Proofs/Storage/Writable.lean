import CrudScaffold.Proofs.Storage.Temporary

/-!
# Where files can be written

A file can be written at a path, with the directories above it, exactly if the tree admits it there
(`write_succeeds_iff`): no file is in the way of the directories, none of them stands where the file would, and a
temporary file can be put beside it.  All of this is said about the tree before anything is made.
-/

namespace CrudScaffold

namespace FileTree

variable {t t' : FileTree} {p : Path}

/-- What stands at the place of a temporary file once the directories above the path have been made. -/
def Occupied (t : FileTree) (p : Path) (number : Nat) : Prop :=
  t.node? (t.resolve (Storage.temporaryPath p number)) ≠ none ∨
    ∃ q, q.IsAbove p ∧ t.resolve q = t.resolve (Storage.temporaryPath p number)

structure Admits (t : FileTree) (p : Path) : Prop where
  named : p.components ≠ [] ∧ p.name ≠ ".."
  fits : p.Fits
  /-- No file is in the way. -/
  way : ∀ q, q.IsAbove p → t.file? (t.resolve q) = none
  /-- No directory stands where the path leads, and none of those above it does. -/
  place : t.node? (t.resolve p) ≠ some .directory ∧ ∀ q, q.IsAbove p → t.resolve q ≠ t.resolve p
  /-- The first temporary file that can be made has a path that fits, as do those that are in use. -/
  temporary : ∃ n, (Storage.temporaryPath p n).Fits ∧ ¬ t.Occupied p n ∧
    ∀ m, m < n → (Storage.temporaryPath p m).Fits ∧ t.Occupied p m

private theorem foldlM_step_eq_error {names : List String} {start : Location} {e : FileError}
    (hnames : ∀ name ∈ names, name = ".." ∨ name.utf8ByteSize ≤ maxNameSize)
    (h : names.foldlM t.step start = .error e) : e = .notFound ∨ e = .notDirectory := by
  induction names generalizing start with
  | nil => cases h
  | cons name names ih =>
    rw [List.foldlM_cons] at h
    cases hstep : t.step start name with
    | ok next =>
      rw [hstep] at h
      exact ih (fun n hn => hnames n (by simp [hn])) h
    | error e' =>
      rw [hstep] at h
      obtain rfl := Except.error.inj h
      unfold step at hstep
      split at hstep
      · exact Or.inl (Except.error.inj hstep).symm
      · exact Or.inr (Except.error.inj hstep).symm
      · split at hstep
        · cases hstep
        · -- no name is too long
          rename_i hup
          have hsize := (hnames name (by simp)).resolve_left hup
          rw [if_neg (by omega)] at hstep
          cases hstep

/-- Where a file can be written and there is none, nothing is found, and no other answer is given. -/
theorem Admits.probe (h : t.Admits p) (hnone : t.file? (t.resolve p) = none) :
    (t.probe p fun _ => true) = .ok false := by
  have hlookup : t.lookup p = .error .notFound ∨ t.lookup p = .error .notDirectory := by
    unfold lookup
    cases hl : t.locate p with
    | ok l =>
      obtain rfl := resolve_of_locate hl
      have hnode : t.node? (t.resolve p) = none := by
        unfold file? at hnone
        cases hn : t.node? (t.resolve p) with
        | none => rfl
        | some n =>
          cases n with
          | file content => simp [hn] at hnone
          | directory => exact absurd hn h.place.1
      exact Or.inl (by simp [Except.bind, hnode])
    | error e =>
      have hfits := h.fits
      unfold locate at hl
      rw [hfits.null, if_neg Bool.false_ne_true, if_neg (Nat.not_lt.2 hfits.size)] at hl
      rcases foldlM_step_eq_error hfits.names hl with rfl | rfl
      · exact Or.inl rfl
      · exact Or.inr rfl
  rcases hlookup with hlookup | hlookup
  · simp [FileTree.probe, hlookup]
  · simp [FileTree.probe, hlookup]

/-- With the directories above the path made, only what they take is in use besides what was. -/
private theorem occupied_iff_node?_ne_none (hchange : ChangedAt (·.IsAbove p) (fun _ => False) t t')
    (habove : ∀ q, q.IsAbove p → t'.node? (t.resolve q) = some .directory) (number : Nat) :
    t.Occupied p number ↔ t'.node? (t'.resolve (Storage.temporaryPath p number)) ≠ none := by
  rw [resolve_congr hchange.home, Occupied]
  constructor
  · rintro (hthere | ⟨q, hq, hsame⟩)
    · rcases hchange.node (t.resolve (Storage.temporaryPath p number)) with he | ⟨hnone, -⟩ | ⟨-, -, q, hq, -⟩
      · rwa [he]
      · exact absurd hnone hthere
      · exact absurd hq id
    · rw [← hsame, habove q hq]
      simp
  · intro hthere
    rcases hchange.node (t.resolve (Storage.temporaryPath p number)) with he | ⟨-, -, hnew⟩ | ⟨-, -, q, hq, -⟩
    · exact Or.inl (he ▸ hthere)
    · exact Or.inr hnew
    · exact absurd hq id

end FileTree

namespace Storage

open FileTree (ChangedAt)

variable {t t' : FileTree} {p : Path}

/-- What the tree admits is what can be replaced when the directories have been made. -/
private theorem replace_succeeds_iff_admits (hchange : ChangedAt (·.IsAbove p) (fun _ => False) t t')
    (habove : ∀ q, q.IsAbove p → t'.node? (t'.resolve q) = some .directory) {content : ByteArray} :
    (∃ t'', outcome (replace p content) t' = (.ok (), t'')) ↔ t.Admits p := by
  have hsame := FileTree.resolve_congr hchange.home
  have habove' : ∀ q, q.IsAbove p → t'.node? (t.resolve q) = some .directory := by
    intro q hq
    rw [← hsame]
    exact habove q hq
  have hoccupied := FileTree.occupied_iff_node?_ne_none hchange habove'
  rw [replace_succeeds_iff]
  constructor
  · rintro ⟨hnamed, ⟨l, hl, hdir⟩, temporary, htemporary⟩
    obtain ⟨hfits, -, rfl⟩ := FileTree.locate_eq_ok_iff_above.1 hl
    obtain ⟨n, hfitsTemporary, hfree, hbefore, -⟩ := (temporaryLocation_eq_ok_iff hnamed.1 habove).1 htemporary
    rw [hsame] at hdir
    refine ⟨hnamed, hfits, ?_, ⟨?_, ?_⟩, n, hfitsTemporary, ?_, ?_⟩
    · intro q hq
      rw [← hchange.file fun _ => False.elim]
      exact FileTree.file?_eq_none_of_directory (habove' q hq)
    · exact fun h => hdir (hchange.directory h)
    · exact fun q hq h => hdir (h ▸ habove' q hq)
    · rw [hoccupied]
      exact not_not.2 hfree
    · simpa only [hoccupied] using hbefore
  · rintro ⟨hnamed, hfits, -, ⟨hplace, hapart⟩, n, hfitsTemporary, hfree, hbefore⟩
    rw [hoccupied, not_not] at hfree
    simp only [hoccupied] at hbefore
    refine ⟨hnamed, ⟨t'.resolve p, FileTree.locate_eq_ok_iff_above.2 ⟨hfits, habove, rfl⟩, fun hdir => ?_⟩,
      t'.resolve (temporaryPath p n), ?_⟩
    · rw [hsame] at hdir
      obtain ⟨-, q, hq, h⟩ := hchange.new_directory hdir hplace
      exact hapart q hq h
    · exact (temporaryLocation_eq_ok_iff hnamed.1 habove).2 ⟨n, hfitsTemporary, hfree, hbefore, rfl⟩

/-- A file is written, after the directories above it have been made, exactly where the tree admits it. -/
theorem write_succeeds_iff {content : ByteArray} :
    (∃ t₁ t₂, outcome (ensureDirectory p.parent) t = (.ok (), t₁) ∧ outcome (replace p content) t₁ = (.ok (), t₂)) ↔
      t.Admits p := by
  by_cases hp : p.components = []
  · -- there is no file without a name
    constructor
    · rintro ⟨t₁, t₂, -, hreplace⟩
      exact absurd hp (replace_succeeds_iff.1 ⟨t₂, hreplace⟩).1.1
    · exact fun h => absurd hp h.named.1
  · have hmade {t₁ : FileTree} (h : outcome (ensureDirectory p.parent) t = (.ok (), t₁)) :
        ChangedAt (·.IsAbove p) (fun _ => False) t t₁ ∧
          ∀ q, q.IsAbove p → t₁.node? (t₁.resolve q) = some .directory := by
      have hchange := leaves_ensureDirectory p.parent (fun _ => False) t
      rw [h] at hchange
      refine ⟨hchange.mono (fun q hq => (Path.isAbove_iff hp).2 hq) fun _ => id, fun q hq => ?_⟩
      exact directory_of_ensureDirectory h ((Path.isAbove_iff hp).1 hq)
    constructor
    · rintro ⟨t₁, t₂, hensure, hreplace⟩
      obtain ⟨hchange, habove⟩ := hmade hensure
      exact (replace_succeeds_iff_admits hchange habove).1 ⟨t₂, hreplace⟩
    · intro h
      obtain ⟨t₁, hensure⟩ := ensureDirectory_succeeds_iff.2
        ⟨h.fits.of_isAbove (Path.isAbove_parent hp), fun q hq => h.way q ((Path.isAbove_iff hp).2 hq)⟩
      obtain ⟨hchange, habove⟩ := hmade hensure
      obtain ⟨t₂, hreplace⟩ := (replace_succeeds_iff_admits hchange habove).2 h
      exact ⟨t₁, t₂, hensure, hreplace⟩

end Storage

end CrudScaffold
