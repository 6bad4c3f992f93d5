import CrudScaffold.Proofs.Run.Success

/-!
# Writing all or nothing

A text is written by way of a temporary file.  At every path and in every tree that ends in one of two ways: the file
at the path holds the text and all others are as they were, or no file has changed, and none is new, the temporary one
included.  Nothing but missing directories above the path is made on the way (`writeText_whole`).
-/

namespace CrudScaffold

open FileTree (ChangedAt)

/-- Between two trees, directories have been made above a path where nothing stood; all others have stayed. -/
structure FileTree.DirectoriesMade (p : Path) (t t' : FileTree) : Prop where
  home : t'.home = t.home
  stay (l : Location) : t.node? l = some .directory → t'.node? l = some .directory
  above (l : Location) : t'.node? l = some .directory → t.node? l ≠ some .directory →
    t.node? l = none ∧ ∃ q, q.IsAbove p ∧ t.resolve q = l

theorem FileTree.ChangedAt.directoriesMade {p : Path} {files : Path → Prop} {t t' : FileTree}
    (h : ChangedAt (·.IsAbove p) files t t') : DirectoriesMade p t t' :=
  ⟨h.home, fun _ => h.directory, fun _ => h.new_directory⟩

namespace Task

/-- How the writing of a text at a path ends that leaves nothing half done. -/
structure WritesWhole (p : Path) (text : String) (t : FileTree) (result : Except Failure Nat) (t' : FileTree) :
    Prop where
  succeeds_iff : (∃ n, result = .ok n) ↔ t.Admits p
  /-- The file is there, and every other one is what it was. -/
  succeeded (n : Nat) : result = .ok n → n = text.toUTF8.size ∧ t'.lookup p = .ok (.file text.toUTF8) ∧
    ∀ l, l ≠ t.resolve p → t'.file? l = t.file? l
  /-- No file has changed, gone or come. -/
  failed (e : Failure) : result = .error e → ∀ l, t'.file? l = t.file? l
  directories : FileTree.DirectoriesMade p t t'

/-- A text is written whole or not at all, and no temporary file stays. -/
theorem writeText_whole (p : Path) (text : String) (w : Workspace) :
    WritesWhole p text w.tree (outcome (writeText p text true) w).1 (outcome (writeText p text true) w).2.tree := by
  have hadmits := @writeText_succeeds_iff w p text
  rcases hwrite : outcome (writeText p text true) w with ⟨result, w'⟩
  rw [hwrite] at hadmits
  obtain ⟨-, ⟨e, rfl, hchange⟩ | ⟨rfl, hchange, hholds⟩⟩ := outcome_writeText_cases hwrite
  · refine ⟨?_, nofun, fun _ _ l => hchange.file fun _ => False.elim, hchange.directoriesMade⟩
    rw [← hadmits]
    simp
  · refine ⟨?_, ?_, nofun, hchange.directoriesMade⟩
    · rw [← hadmits]
      simp
    · intro n hn
      refine ⟨(Except.ok.inj hn).symm, hholds, fun l hl => hchange.file ?_⟩
      rintro q rfl
      exact Ne.symm hl

end Task

end CrudScaffold
