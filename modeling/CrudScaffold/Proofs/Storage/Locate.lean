import CrudScaffold.Proofs.Storage.Operation

/-!
# Where paths lead

A path leads to a location exactly if nothing about the path itself is refused and every path above it leads to a
directory (`locate_eq_ok_iff_above`).  A directory can be made, with those above it, exactly if no file is in the way
(`ensureDirectory_succeeds_iff`).
-/

namespace CrudScaffold

namespace Path

variable {p q : Path}

/-- A path that the system does not refuse for what it is: it has no null character and is not too long, and no name
in it is. -/
structure Fits (p : Path) : Prop where
  null : p.text.toList.contains '\x00' = false
  size : p.text.utf8ByteSize ≤ FileTree.maxPathSize
  names : ∀ name ∈ p.components, name = ".." ∨ name.utf8ByteSize ≤ FileTree.maxNameSize

theorem under_append (p : Path) (names names' : List String) :
    p.under (names ++ names') = (p.under names).under names' := by
  simp [under]

theorem isAbove_iff (h : p.components ≠ []) : q.IsAbove p ↔ q = p.parent ∨ q.IsAbove p.parent := by
  constructor
  · rintro ⟨names, hne, rfl⟩
    obtain ⟨front, last, rfl⟩ := List.eq_nil_or_concat names |>.resolve_left hne
    have hparent : (q.under (front.concat last)).parent = q.under front := by
      simp [under, parent, ← List.append_assoc]
    rw [hparent]
    cases front with
    | nil => exact Or.inl (by simp [under])
    | cons name front => exact Or.inr ⟨name :: front, by simp, rfl⟩
  · rintro (rfl | hq)
    · exact isAbove_parent h
    · exact isAbove_of_parent hq h

theorem IsAbove.components_ne_nil (h : q.IsAbove p) : p.components ≠ [] := by
  obtain ⟨names, hne, rfl⟩ := h
  simp [under, hne]

private theorem intercalate_prefix_append (separator : List Char) (xs ys : List (List Char)) :
    separator.intercalate xs <+: separator.intercalate (xs ++ ys) := by
  induction xs with
  | nil => exact List.nil_prefix
  | cons x xs ih =>
    cases xs with
    | nil =>
      cases ys with
      | nil => exact List.prefix_rfl
      | cons y ys =>
        rw [List.singleton_append, List.intercalate_cons_cons, List.intercalate_singleton, List.append_assoc]
        exact List.prefix_append _ _
    | cons x' xs =>
      rw [List.cons_append, List.cons_append, List.intercalate_cons_cons, List.intercalate_cons_cons]
      rw [List.prefix_append_right_inj]
      exact ih

/-- The text of a path begins with the texts of the paths above it, but for the point of the current directory. -/
private theorem text_of_isAbove (h : q.IsAbove p) : q.text = "." ∨ q.text.toList <+: p.text.toList := by
  obtain ⟨names, -, rfl⟩ := h
  have hraw : (Anchor.text q.anchor ++ "/".intercalate q.components).toList <+:
      (Anchor.text q.anchor ++ "/".intercalate (q.components ++ names)).toList := by
    rw [String.toList_append, String.toList_append, List.prefix_append_right_inj, String.toList_intercalate,
      String.toList_intercalate, List.map_append]
    exact intercalate_prefix_append _ _ _
  by_cases hq : Anchor.text q.anchor ++ "/".intercalate q.components = ""
  · exact Or.inl (if_pos hq)
  · right
    have hp : Anchor.text q.anchor ++ "/".intercalate (q.components ++ names) ≠ "" := by
      intro hp
      rw [hp] at hraw
      exact hq (String.toList_eq_nil_iff.1 (List.prefix_nil.1 hraw))
    have hqtext : q.text = Anchor.text q.anchor ++ "/".intercalate q.components := if_neg hq
    have hptext : (q.under names).text = Anchor.text q.anchor ++ "/".intercalate (q.components ++ names) := if_neg hp
    rwa [hqtext, hptext]

theorem Fits.of_isAbove (hp : p.Fits) (h : q.IsAbove p) : q.Fits := by
  have hnames : ∀ name ∈ q.components, name = ".." ∨ name.utf8ByteSize ≤ FileTree.maxNameSize := by
    obtain ⟨names, -, rfl⟩ := h
    exact fun name hname => hp.names name (List.mem_append_left _ hname)
  rcases text_of_isAbove h with hpoint | hfront
  · refine ⟨?_, ?_, hnames⟩
    · rw [hpoint]
      decide
    · rw [hpoint]
      decide
  · obtain ⟨rest, hrest⟩ := hfront
    have htext : p.text = q.text ++ String.ofList rest := by
      rw [← String.toList_inj, String.toList_append, String.toList_ofList, hrest]
    have hnull := hp.null
    have hsize := hp.size
    rw [htext, String.toList_append, List.contains_eq_mem, decide_eq_false_iff_not, List.mem_append, not_or] at hnull
    rw [htext, String.utf8ByteSize_append] at hsize
    refine ⟨?_, by omega, hnames⟩
    rw [List.contains_eq_mem, decide_eq_false_iff_not]
    exact hnull.1

end Path

namespace FileTree

variable {t t' : FileTree} {p q : Path} {l : Location}

/-- The location that names lead to from a location, if everything on the way is there. -/
private def descend (l : Location) (names : List String) : Location :=
  names.foldl (fun l name => if name = ".." then l.dropLast else l ++ [name]) l

private theorem foldlM_step_eq_ok_iff {names : List String} {start : Location} :
    names.foldlM t.step start = .ok l ↔
      (∀ name ∈ names, name = ".." ∨ name.utf8ByteSize ≤ maxNameSize) ∧
        (∀ front rest, rest ≠ [] → names = front ++ rest → t.node? (descend start front) = some .directory) ∧
          descend start names = l := by
  induction names generalizing start with
  | nil =>
    constructor
    · intro h
      refine ⟨by simp, ?_, Except.ok.inj h⟩
      intro front rest hrest h
      exact absurd (List.append_eq_nil_iff.1 h.symm).2 hrest
    · rintro ⟨-, -, rfl⟩
      rfl
  | cons name names ih =>
    rw [List.foldlM_cons, bind_eq_ok_iff]
    simp only [step_eq_ok_iff, ih, List.mem_cons, forall_eq_or_imp]
    constructor
    · rintro ⟨next, ⟨hstart, hname, rfl⟩, hnames, hfronts, rfl⟩
      refine ⟨⟨hname, hnames⟩, ?_, rfl⟩
      intro front rest hrest h
      cases front with
      | nil => exact hstart
      | cons first front =>
        rw [List.cons_append, List.cons.injEq] at h
        obtain ⟨rfl, h⟩ := h
        exact hfronts front rest hrest h
    · rintro ⟨⟨hname, hnames⟩, hfronts, rfl⟩
      refine ⟨_, ⟨hfronts [] (name :: names) (by simp) rfl, hname, rfl⟩, hnames, ?_, rfl⟩
      intro front rest hrest h
      exact hfronts (name :: front) rest hrest (by rw [h, List.cons_append])

/-- A path that fits leads somewhere if the paths above it lead to directories. -/
theorem locate_eq_ok_iff_above :
    t.locate p = .ok l ↔ p.Fits ∧ (∀ q, q.IsAbove p → t.node? (t.resolve q) = some .directory) ∧ t.resolve p = l := by
  rw [locate_eq_ok_iff, foldlM_step_eq_ok_iff]
  constructor
  · rintro ⟨hnull, hsize, hnames, hfronts, rfl⟩
    refine ⟨⟨hnull, hsize, hnames⟩, ?_, rfl⟩
    rintro q ⟨names, hne, rfl⟩
    exact hfronts q.components names hne rfl
  · rintro ⟨⟨hnull, hsize, hnames⟩, habove, rfl⟩
    refine ⟨hnull, hsize, hnames, ?_, rfl⟩
    intro front rest hrest h
    exact habove ⟨p.anchor, front⟩ ⟨rest, hrest, by simp [Path.under, ← h]⟩

/-- Without a file in the way, a path that fits can only be said to lead nowhere. -/
theorem locate_of_no_file (hfits : p.Fits) (hopen : ∀ q, q.IsAbove p → t.file? (t.resolve q) = none) :
    t.locate p = .ok (t.resolve p) ∨ t.locate p = .error .notFound := by
  have hfold {names : List String} {start : Location}
      (hnames : ∀ name ∈ names, name = ".." ∨ name.utf8ByteSize ≤ maxNameSize)
      (hopen : ∀ front rest, rest ≠ [] → names = front ++ rest → t.file? (descend start front) = none) :
      names.foldlM t.step start = .ok (descend start names) ∨ names.foldlM t.step start = .error .notFound := by
    induction names generalizing start with
    | nil => exact Or.inl rfl
    | cons name names ih =>
      have hstart := hopen [] (name :: names) (by simp) rfl
      have hname := hnames name (by simp)
      rw [List.foldlM_cons]
      cases hnode : t.node? start with
      | none => exact Or.inr (by rw [step, hnode]; rfl)
      | some n =>
        cases n with
        | file content => simp [file?, descend, hnode] at hstart
        | directory =>
          have hstep : t.step start name = .ok (descend start [name]) := step_eq_ok_iff.2 ⟨hnode, hname, rfl⟩
          rw [hstep]
          refine ih (fun n hn => hnames n (by simp [hn])) ?_
          intro front rest hrest h
          exact hopen (name :: front) rest hrest (by rw [h, List.cons_append])
  unfold locate
  rw [if_neg (by rw [hfits.null]; decide), if_neg (Nat.not_lt.2 hfits.size)]
  refine hfold hfits.names ?_
  intro front rest hrest h
  exact hopen ⟨p.anchor, front⟩ ⟨rest, hrest, by simp [Path.under, ← h]⟩

theorem file?_eq_none_of_directory (h : t.node? l = some .directory) : t.file? l = none := by
  simp [file?, h]

/-- What a location holds besides a directory is a file. -/
theorem node?_of_file?_eq_none (h : t.file? l = none) : t.node? l = none ∨ t.node? l = some .directory := by
  unfold file? at h
  cases hn : t.node? l with
  | none => exact Or.inl rfl
  | some n =>
    cases n with
    | file content => simp [hn] at h
    | directory => exact Or.inr rfl

end FileTree

namespace Storage

open FileTree (ChangedAt)

variable {t : FileTree} {p : Path}

private theorem lookup_of_makeDirectory {t' : FileTree} (h : outcome (makeDirectory p) t = (.ok (), t')) :
    t'.lookup p = .ok .directory := by
  unfold makeDirectory locate at h
  cases hl : t.locate p with
  | error e =>
    rw [outcome_bind_of_error (by rw [outcome_ask, hl])] at h
    cases h
  | ok l =>
    rw [outcome_bind_of_ok (by rw [outcome_ask, hl]), outcome_bind_of_ok outcome_get] at h
    by_cases hn : (t.node? l).isSome = true
    · rw [if_pos hn] at h
      cases h
    · rw [if_neg hn] at h
      obtain rfl : t.put l .directory = t' := (Prod.mk.inj h).2
      refine FileTree.lookup_eq_ok_iff.2 ⟨l, ?_, ?_⟩
      · exact (changedAt_put_directory hl (by simpa using hn) fun _ => False).locate hl
      · rw [FileTree.node?_put]
        simp

private theorem lookup_of_makeDirectoryOnce {t' : FileTree} (h : outcome (makeDirectoryOnce p) t = (.ok (), t')) :
    t'.lookup p = .ok .directory := by
  unfold makeDirectoryOnce at h
  rcases hmake : outcome (makeDirectory p) t with ⟨e | ⟨⟩, t₁⟩
  · rw [outcome_tryCatch_of_error hmake] at h
    split at h
    · cases h
    · -- what was refused has only been forgiven because the directory is there
      obtain ⟨there, t₂, hask, hrest⟩ := outcome_bind_eq_ok_iff.1 h
      rw [isDirectory, outcome_ask, Prod.mk.injEq] at hask
      obtain ⟨hprobe, rfl⟩ := hask
      cases there with
      | false => cases hrest
      | true =>
        obtain rfl : t₁ = t' := (Prod.mk.inj hrest).2
        unfold FileTree.probe at hprobe
        cases hlookup : t₁.lookup p with
        | ok n =>
          simp only [hlookup, Except.ok.injEq, decide_eq_true_eq] at hprobe
          rw [hprobe]
        | error e => cases e <;> simp [hlookup] at hprobe
  · rw [outcome_tryCatch_of_ok hmake] at h
    obtain rfl : t₁ = t' := (Prod.mk.inj h).2
    exact lookup_of_makeDirectory hmake

private theorem lookup_of_ensureUpTo {fuel : Nat} {t' : FileTree} (h : outcome (ensureUpTo fuel p) t = (.ok (), t')) :
    t'.lookup p = .ok .directory := by
  cases fuel with
  | zero => exact lookup_of_makeDirectoryOnce h
  | succ fuel =>
    unfold ensureUpTo at h
    rcases hmake : outcome (makeDirectoryOnce p) t with ⟨e | ⟨⟩, t₁⟩
    · rw [outcome_tryCatch_of_error hmake] at h
      split at h
      · cases h
      · obtain ⟨_, t₂, -, hlast⟩ := outcome_bind_eq_ok_iff.1 h
        exact lookup_of_makeDirectoryOnce hlast
    · rw [outcome_tryCatch_of_ok hmake] at h
      obtain rfl : t₁ = t' := (Prod.mk.inj h).2
      exact lookup_of_makeDirectoryOnce hmake

/-- After a directory has been made, it and everything above it are directories. -/
theorem directory_of_ensureDirectory {t' : FileTree} (h : outcome (ensureDirectory p) t = (.ok (), t')) {q : Path}
    (hq : q = p ∨ q.IsAbove p) : t'.node? (t'.resolve q) = some .directory := by
  obtain ⟨l, hl, hn⟩ := FileTree.lookup_eq_ok_iff.1 (lookup_of_ensureUpTo h)
  obtain ⟨-, habove, rfl⟩ := FileTree.locate_eq_ok_iff_above.1 hl
  rcases hq with rfl | hq
  · exact hn
  · exact habove q hq

/-- One directory is made where a path leads, unless a file is there. -/
private theorem exists_outcome_makeDirectoryOnce (hlocate : t.locate p = .ok (t.resolve p))
    (hfile : t.file? (t.resolve p) = none) : ∃ t', outcome (makeDirectoryOnce p) t = (.ok (), t') := by
  have hask : outcome (locate p) t = (.ok (t.resolve p), t) := by rw [locate, outcome_ask, hlocate]
  rcases FileTree.node?_of_file?_eq_none hfile with hnode | hnode
  · have hmake : outcome (makeDirectory p) t = (.ok (), t.put (t.resolve p) .directory) := by
      unfold makeDirectory
      rw [outcome_bind_of_ok hask, outcome_bind_of_ok outcome_get, if_neg (by simp [hnode])]
      rfl
    exact ⟨_, outcome_tryCatch_of_ok hmake⟩
  · have hmake : outcome (makeDirectory p) t = (.error .alreadyExists, t) := by
      unfold makeDirectory
      rw [outcome_bind_of_ok hask, outcome_bind_of_ok outcome_get, if_pos (by simp [hnode])]
      rfl
    have hlookup : t.lookup p = .ok .directory := FileTree.lookup_eq_ok_iff.2 ⟨_, hlocate, hnode⟩
    have hthere : outcome (isDirectory p) t = (.ok true, t) := by
      rw [isDirectory, outcome_ask, FileTree.probe, hlookup]
      rfl
    refine ⟨t, ?_⟩
    rw [makeDirectoryOnce, outcome_tryCatch_of_error hmake, if_neg (by decide), outcome_bind_of_ok hthere]
    rfl

private theorem outcome_makeDirectoryOnce_of_notFound (h : t.locate p = .error .notFound) :
    outcome (makeDirectoryOnce p) t = (.error .notFound, t) := by
  have hmake : outcome (makeDirectory p) t = (.error .notFound, t) := by
    unfold makeDirectory
    rw [outcome_bind_of_error]
    rw [locate, outcome_ask, h]
  rw [makeDirectoryOnce, outcome_tryCatch_of_error hmake, if_pos (by decide)]
  rfl

private theorem exists_outcome_ensureUpTo {fuel : Nat} (hfuel : p.components.length ≤ fuel) (hfits : p.Fits)
    (hway : ∀ q, q = p ∨ q.IsAbove p → t.file? (t.resolve q) = none) :
    ∃ t', outcome (ensureUpTo fuel p) t = (.ok (), t') := by
  -- by induction on the number of directories that may be missing
  induction fuel generalizing p with
  | zero =>
    have hempty : p.components = [] := List.length_eq_zero_iff.1 (Nat.le_zero.1 hfuel)
    refine exists_outcome_makeDirectoryOnce ?_ (hway p (Or.inl rfl))
    exact FileTree.locate_eq_ok_iff_above.2 ⟨hfits, fun q hq => absurd hempty hq.components_ne_nil, rfl⟩
  | succ fuel ih =>
    rw [ensureUpTo]
    rcases FileTree.locate_of_no_file hfits fun q hq => hway q (Or.inr hq) with hlocate | hlocate
    · obtain ⟨t', hmake⟩ := exists_outcome_makeDirectoryOnce hlocate (hway p (Or.inl rfl))
      exact ⟨t', outcome_tryCatch_of_ok hmake⟩
    · -- something is missing above, so that there are components
      have hne : p.components ≠ [] := by
        intro hempty
        have hstart : t.locate p = .ok (t.resolve p) :=
          FileTree.locate_eq_ok_iff_above.2 ⟨hfits, fun q hq => absurd hempty hq.components_ne_nil, rfl⟩
        rw [hlocate] at hstart
        cases hstart
      have hparent : p.parent.components.length ≤ fuel := by
        rw [Path.parent, List.length_dropLast]
        omega
      obtain ⟨t₁, hmake₁⟩ := ih hparent (hfits.of_isAbove (Path.isAbove_parent hne))
        fun q hq => hway q (Or.inr ((Path.isAbove_iff hne).2 hq))
      have hlookup := lookup_of_ensureUpTo hmake₁
      have hchange := leaves_ensureUpTo fuel p.parent (fun _ => False) t
      rw [hmake₁] at hchange
      have hlocate₁ : t₁.locate p = .ok (t₁.resolve p) := by
        obtain ⟨l, hl, hn⟩ := FileTree.lookup_eq_ok_iff.1 hlookup
        obtain ⟨-, habove, rfl⟩ := FileTree.locate_eq_ok_iff_above.1 hl
        refine FileTree.locate_eq_ok_iff_above.2 ⟨hfits, fun q hq => ?_, rfl⟩
        rcases (Path.isAbove_iff hne).1 hq with rfl | hq
        · exact hn
        · exact habove q hq
      have hfile₁ : t₁.file? (t₁.resolve p) = none := by
        rw [FileTree.resolve_congr hchange.home, hchange.file fun _ => False.elim]
        exact hway p (Or.inl rfl)
      obtain ⟨t', hmake⟩ := exists_outcome_makeDirectoryOnce hlocate₁ hfile₁
      refine ⟨t', ?_⟩
      rw [outcome_tryCatch_of_error (outcome_makeDirectoryOnce_of_notFound hlocate),
        if_neg (by simpa using hne), outcome_bind_of_ok hmake₁]
      exact hmake

/-- A directory can be made exactly when its path fits and no file is in the way. -/
theorem ensureDirectory_succeeds_iff :
    (∃ t', outcome (ensureDirectory p) t = (.ok (), t')) ↔
      p.Fits ∧ ∀ q, q = p ∨ q.IsAbove p → t.file? (t.resolve q) = none := by
  constructor
  · rintro ⟨t', h⟩
    have hchange := leaves_ensureDirectory p (fun _ => False) t
    rw [h] at hchange
    obtain ⟨l, hl, -⟩ := FileTree.lookup_eq_ok_iff.1 (lookup_of_ensureUpTo h)
    refine ⟨(FileTree.locate_eq_ok_iff_above.1 hl).1, fun q hq => ?_⟩
    rw [← hchange.file fun _ => False.elim, ← FileTree.resolve_congr hchange.home]
    exact FileTree.file?_eq_none_of_directory (directory_of_ensureDirectory h hq)
  · rintro ⟨hfits, hway⟩
    exact exists_outcome_ensureUpTo (Nat.le_refl _) hfits hway

end Storage

end CrudScaffold
