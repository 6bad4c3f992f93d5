import CrudScaffold.Proofs.Storage.Operation
import CrudScaffold.Run.Workspace

/-!
# What tasks change

The steps that tasks are made of, by what they do to a workspace.  Writing a text changes the file at its path and
makes the directories above it; when the writing fails no file is changed.
-/

namespace CrudScaffold.Task

open FileTree (ChangedAt)

variable {α : Type} {w w' : Workspace} {task : Task α}

@[simp] theorem outcome_say (o : Output) : outcome (say o) w = (.ok ⟨⟩, { w with output := w.output ++ [o] }) := rfl

@[simp] theorem outcome_note (level : Level) (origin text : String) :
    outcome (note level origin text) w =
      (.ok ⟨⟩, { w with output := w.output ++ [.note ⟨level, origin, text⟩] }) := rfl

theorem outcome_sayNotes (notes : List Note) (w : Workspace) :
    outcome (notes.forM fun n => say (.note n)) w = (.ok ⟨⟩, { w with output := w.output ++ notes.map .note }) := by
  induction notes generalizing w with
  | nil => simp [outcome_pure]
  | cons n notes ih =>
    change outcome (do say (.note n); notes.forM fun n => say (.note n)) w = _
    rw [outcome_bind_of_ok (outcome_say (.note n)), ih]
    simp

@[simp] theorem outcome_now : outcome now w = (.ok w.clock.next, { w with clock := w.clock.rest }) := rfl

@[simp] theorem outcome_elapsed :
    outcome elapsed w = (.ok w.stopwatch.next, { w with stopwatch := w.stopwatch.rest }) := rfl

@[simp] theorem outcome_attempt : outcome (attempt task) w = (.ok (outcome task w).1, (outcome task w).2) := rfl

theorem outcome_onFiles (operation : Storage α) :
    outcome (onFiles operation) w =
      ((outcome operation w.tree).1.mapError .file, { w with tree := (outcome operation w.tree).2 }) := by
  have hstep (r : Except FileError α × FileTree) :
      outcome (do
          modifyThe Workspace fun w => { w with tree := r.2 }
          settle r.1 : Task α) w = (r.1.mapError .file, { w with tree := r.2 }) := by
    rcases r with ⟨e | a, t⟩ <;> rfl
  exact hstep (outcome operation w.tree)

theorem outcome_onFiles_of_ok {operation : Storage α} {a : α} {t : FileTree}
    (h : outcome operation w.tree = (.ok a, t)) : outcome (onFiles operation) w = (.ok a, { w with tree := t }) := by
  rw [outcome_onFiles, h]
  rfl

theorem outcome_onFiles_of_error {operation : Storage α} {e : FileError} {t : FileTree}
    (h : outcome operation w.tree = (.error e, t)) :
    outcome (onFiles operation) w = (.error (.file e), { w with tree := t }) := by
  rw [outcome_onFiles, h]
  rfl

/-- A refusal that becomes a problem leaves what the task leaves. -/
theorem outcome_orProblem_cases {describe : FileError → Problem} {result : Except Failure α}
    (h : outcome (orProblem describe task) w = (result, w')) :
    (∃ a, result = .ok a ∧ outcome task w = (.ok a, w')) ∨
      ∃ e e', result = .error e ∧ outcome task w = (.error e', w') := by
  unfold orProblem at h
  rcases ht : outcome task w with ⟨e | a, m⟩
  · rw [outcome_tryCatch_of_error ht] at h
    cases e <;> obtain ⟨rfl, rfl⟩ := Prod.mk.inj h <;> exact Or.inr ⟨_, _, rfl, rfl⟩
  · rw [outcome_tryCatch_of_ok ht] at h
    obtain ⟨rfl, rfl⟩ := Prod.mk.inj h
    exact Or.inl ⟨a, rfl, rfl⟩

/-! ### Writing texts -/

/-- How the writing of a text ends. -/
theorem outcome_writeText_cases {p : Path} {text : String} {result : Except Failure Nat}
    (h : outcome (writeText p text true) w = (result, w')) :
    w'.clock = w.clock ∧
      ((∃ e, result = .error e ∧ ChangedAt (·.IsAbove p) (fun _ => False) w.tree w'.tree) ∨
        (result = .ok text.toUTF8.size ∧ ChangedAt (·.IsAbove p) (· = p) w.tree w'.tree ∧
          w'.tree.lookup p = .ok (.file text.toUTF8))) := by
  unfold writeText at h
  have hdirectories : ChangedAt (·.IsAbove p) (fun _ => False) w.tree
      (outcome (Storage.ensureDirectory p.parent) w.tree).2 := Storage.leaves_ensureParent p _ w.tree
  rcases hd : outcome (Storage.ensureDirectory p.parent) w.tree with ⟨e | ⟨⟩, t⟩
  · rw [outcome_bind_of_error (outcome_onFiles_of_error hd)] at h
    obtain ⟨rfl, rfl⟩ := Prod.mk.inj h
    rw [hd] at hdirectories
    exact ⟨rfl, Or.inl ⟨_, rfl, hdirectories⟩⟩
  · rw [outcome_bind_of_ok (outcome_onFiles_of_ok hd), outcome_bind_of_ok (outcome_note ..)] at h
    rw [hd] at hdirectories
    dsimp only [↓reduceIte] at h
    rcases hr : outcome (Storage.replace p text.toUTF8) t with ⟨e | ⟨⟩, t'⟩
    · rw [outcome_bind_of_error (outcome_onFiles_of_error hr)] at h
      obtain ⟨rfl, rfl⟩ := Prod.mk.inj h
      rcases Storage.outcome_replace_cases hr with ⟨_, -, hchange⟩ | ⟨hok, -⟩
      · exact ⟨rfl, Or.inl ⟨_, rfl, hdirectories.trans (hchange.mono (fun _ => False.elim) fun _ => id)⟩⟩
      · cases hok
    · rw [outcome_bind_of_ok (outcome_onFiles_of_ok hr), outcome_bind_of_ok (outcome_note ..)] at h
      obtain ⟨rfl, rfl⟩ := Prod.mk.inj h
      rcases Storage.outcome_replace_cases hr with ⟨_, herror, -⟩ | ⟨-, hchange, hlookup⟩
      · cases herror
      · refine ⟨rfl, Or.inr ⟨rfl, ?_, hlookup⟩⟩
        exact (hdirectories.mono (fun _ => id) fun _ => False.elim).trans
          (hchange.mono (fun _ => False.elim) fun _ => id)

end CrudScaffold.Task
