import CrudScaffold.Proofs.Storage.Temporary
import CrudScaffold.Proofs.Text.Affix

/-!
# Refusals without a number

Of all refusals only one is not the system's: that of a path with a null character in it.  Operations on a path
without such a character never end in it (`failsWith_ensureDirectory`, `failsWith_replace`, `failsWith_read`); with
one, a directory cannot be made (`ensureDirectory_of_hasNull`).
-/

namespace CrudScaffold

open Storage (temporaryName)

/-! ### Null characters in paths -/

namespace Path

variable {p : Path}

/-- A component of the path has a null character in it. -/
def HasNull (p : Path) : Prop := ∃ name ∈ p.components, '\x00' ∈ name.toList

private theorem mem_splitOn_iff {a separator : Char} (h : a ≠ separator) {cs : List Char} :
    (∃ part ∈ Text.splitOn separator cs, a ∈ part) ↔ a ∈ cs := by
  induction cs with
  | nil => simp [Text.splitOn]
  | cons c cs ih =>
    unfold Text.splitOn
    by_cases hc : c = separator
    · subst hc
      rw [if_pos rfl, List.exists_mem_cons_iff, ih]
      simp [h]
    · rw [if_neg hc, List.mem_cons, ← ih]
      cases Text.splitOn separator cs with
      | nil => simp
      | cons part parts => simp [or_assoc]

theorem null_mem_text_iff : '\x00' ∈ p.text.toList ↔ p.HasNull := by
  have hraw : '\x00' ∈ (Anchor.text p.anchor ++ "/".intercalate p.components).toList ↔ p.HasNull := by
    have hanchor : '\x00' ∉ (Anchor.text p.anchor).toList := by cases p.anchor <;> decide
    rw [String.toList_append, List.mem_append, or_iff_right hanchor, String.toList_intercalate]
    change '\x00' ∈ ['/'].intercalate _ ↔ _
    rw [Text.mem_intercalate_iff (by decide)]
    simp [HasNull]
  unfold text
  dsimp only
  split
  · rename_i hempty
    rw [← hraw, hempty]
    decide
  · exact hraw

theorem HasNull.of_parent (h : p.parent.HasNull) : p.HasNull := by
  obtain ⟨name, hname, hnull⟩ := h
  exact ⟨name, List.dropLast_subset _ hname, hnull⟩

/-- The null characters of a text are those of its path. -/
theorem hasNull_ofText_iff {s : String} : (ofText s).HasNull ↔ '\x00' ∈ s.toList := by
  rw [← mem_splitOn_iff (show '\x00' ≠ '/' by decide)]
  unfold HasNull ofText
  simp only [List.mem_filter, List.mem_map]
  constructor
  · rintro ⟨_, ⟨⟨part, hpart, rfl⟩, -⟩, hnull⟩
    exact ⟨part, hpart, by simpa using hnull⟩
  · rintro ⟨part, hpart, hnull⟩
    -- neither the empty component nor the point has a null character
    have hne {word : String} (h : '\x00' ∉ word.toList) : String.ofList part ≠ word := by
      rintro rfl
      exact h (by simpa using hnull)
    have hempty := hne (show '\x00' ∉ "".toList by decide)
    have hpoint := hne (show '\x00' ∉ ".".toList by decide)
    exact ⟨_, ⟨⟨part, hpart, rfl⟩, decide_eq_true ⟨hempty, hpoint⟩⟩, by simpa using hnull⟩

end Path

/-! ### Locations -/

namespace FileTree

variable {t : FileTree} {p : Path}

theorem locate_of_hasNull (h : p.HasNull) : t.locate p = .error .nullCharacter := by
  unfold locate
  rw [if_pos]
  simpa using Path.null_mem_text_iff.2 h

theorem locate_ne_nullCharacter (h : ¬ p.HasNull) : t.locate p ≠ .error .nullCharacter := by
  have hstep (l : Location) (name : String) : t.step l name ≠ .error .nullCharacter := by
    unfold step
    split
    · nofun
    · nofun
    · split
      · nofun
      · split <;> nofun
  have hfold (names : List String) (l : Location) : names.foldlM t.step l ≠ .error .nullCharacter := by
    induction names generalizing l with
    | nil => nofun
    | cons name names ih =>
      rw [List.foldlM_cons]
      cases hnext : t.step l name with
      | ok next => exact ih next
      | error e => exact fun he => hstep l name (hnext.trans he)
  unfold locate
  rw [if_neg (by simpa using fun hnull => h (Path.null_mem_text_iff.1 hnull))]
  split
  · nofun
  · exact hfold _ _

theorem lookup_ne_nullCharacter (h : ¬ p.HasNull) : t.lookup p ≠ .error .nullCharacter := by
  intro hnull
  unfold lookup at hnull
  cases hl : t.locate p with
  | error e =>
    rw [hl] at hnull
    exact locate_ne_nullCharacter h (hl.trans (congrArg _ (Except.error.inj hnull)))
  | ok l =>
    rw [hl] at hnull
    dsimp only [Except.bind] at hnull
    split at hnull <;> cases hnull

end FileTree

/-! ### Operations -/

namespace Storage

variable {t : FileTree} {p : Path}

/-- The system has a number for the refusal. -/
def IsNumbered (e : FileError) : Prop := e.code?.isSome = true

theorem isNumbered_iff {e : FileError} : IsNumbered e ↔ e ≠ .nullCharacter := by
  unfold IsNumbered
  cases e <;> decide

theorem failsWith_ask {α : Type} {P : FileError → Prop} {question : FileTree → Except FileError α}
    (h : ∀ t e, question t = .error e → P e) : FailsWith P (ask question) := by
  intro t e he
  rw [outcome_ask] at he
  exact h t e he

private theorem failsWith_locate (h : ¬ p.HasNull) : FailsWith IsNumbered (locate p) :=
  failsWith_ask fun _ _ he => isNumbered_iff.2 fun hnull => FileTree.locate_ne_nullCharacter h (hnull ▸ he)

/-- Whether there is something at a path can be asked of any path. -/
theorem failsWith_probe (p : Path) (holds : Node → Bool) : FailsWith IsNumbered (ask (·.probe p holds)) := by
  refine failsWith_ask fun t e he => isNumbered_iff.2 ?_
  rintro rfl
  unfold FileTree.probe at he
  split at he
  · cases he
  · cases he
  · cases he
  · cases he
  · rename_i hother hlookup
    exact hother (Except.error.inj he)

theorem failsWith_read (h : ¬ p.HasNull) : FailsWith IsNumbered (read p) := by
  refine .bind (failsWith_ask fun _ _ he => isNumbered_iff.2 fun hnull => ?_) fun n => ?_
  · exact FileTree.lookup_ne_nullCharacter h (hnull ▸ he)
  · cases n with
    | file content => exact .pure content
    | directory => exact .throw rfl

/-! ### Directories -/

private theorem failsWith_makeDirectory (h : ¬ p.HasNull) : FailsWith IsNumbered (makeDirectory p) := by
  refine .bind (failsWith_locate h) fun l => .bind .get fun t => ?_
  split
  · exact .bind (.throw rfl) fun _ => .modify _
  · exact .modify _

private theorem failsWith_makeDirectoryOnce (h : ¬ p.HasNull) : FailsWith IsNumbered (makeDirectoryOnce p) := by
  refine .tryCatch (failsWith_makeDirectory h) fun e he => ?_
  split
  · exact .throw he
  · refine .bind (failsWith_probe p _) fun there => ?_
    cases there
    · exact .throw he
    · exact .pure _

private theorem failsWith_ensureUpTo (fuel : Nat) (h : ¬ p.HasNull) : FailsWith IsNumbered (ensureUpTo fuel p) := by
  induction fuel generalizing p with
  | zero => exact failsWith_makeDirectoryOnce h
  | succ fuel ih =>
    refine .tryCatch (failsWith_makeDirectoryOnce h) fun e he => ?_
    split
    · exact .throw he
    · exact .bind (ih fun hparent => h hparent.of_parent) fun _ => failsWith_makeDirectoryOnce h

theorem failsWith_ensureDirectory (h : ¬ p.HasNull) : FailsWith IsNumbered (ensureDirectory p) :=
  failsWith_ensureUpTo _ h

/-- No directory is made at a path with a null character. -/
theorem ensureDirectory_of_hasNull (h : p.HasNull) (t : FileTree) :
    outcome (ensureDirectory p) t = (.error .nullCharacter, t) := by
  have hmake : outcome (makeDirectory p) t = (.error .nullCharacter, t) := by
    unfold makeDirectory locate
    rw [outcome_bind_of_error (by rw [outcome_ask, FileTree.locate_of_hasNull h])]
  have honce : outcome (makeDirectoryOnce p) t = (.error .nullCharacter, t) := by
    unfold makeDirectoryOnce
    rw [outcome_tryCatch_of_error hmake]
    rfl
  unfold ensureDirectory
  cases p.components.length with
  | zero => exact honce
  | succ fuel =>
    rw [ensureUpTo, outcome_tryCatch_of_error honce]
    rfl

/-! ### Files -/

private theorem not_hasNull_temporary (h : ¬ p.HasNull) (number : Nat) :
    ¬ (p.parent.join ⟨.here, [temporaryName p.name number]⟩).HasNull := by
  have hdigits : '\x00' ∉ (Text.padded 8 number).toList := fun hc =>
    absurd (Text.isDigit_of_mem_padded hc) (by decide)
  rintro ⟨name, hname, hnull⟩
  rcases List.mem_append.1 hname with hname | hname
  · exact h (Path.HasNull.of_parent ⟨name, hname, hnull⟩)
  · -- the null character would be in the name of the file
    obtain rfl := List.mem_singleton.1 hname
    have hfile : '\x00' ∈ p.name.toList := by
      simp only [temporaryName, String.toList_append, List.mem_append] at hnull
      rcases hnull with (((hnull | hnull) | hnull) | hnull) | hnull
      · exact absurd hnull (by decide)
      · exact hnull
      · exact absurd hnull (by decide)
      · exact absurd hnull hdigits
      · exact absurd hnull (by decide)
    unfold Path.name at hfile
    cases hlast : p.components.getLast? with
    | none =>
      rw [hlast] at hfile
      cases hfile
    | some last =>
      rw [hlast] at hfile
      exact h ⟨last, List.mem_of_getLast? hlast, hfile⟩

private theorem failsWith_writeTemporary (h : ¬ p.HasNull) (content : ByteArray) :
    FailsWith IsNumbered (writeTemporary p content) := by
  refine .bind (failsWith_ask fun t e he => ?_) fun l => .bind (.modify _) fun _ => .pure _
  unfold temporaryLocation at he
  cases hfind : (List.range (t.nodes.length + 2)).findSome? (freeLocation? t p) with
  | none =>
    rw [hfind] at he
    exact Except.error.inj he ▸ rfl
  | some found =>
    rw [hfind] at he
    obtain rfl : found = .error e := he
    obtain ⟨number, -, hnumber⟩ := List.exists_of_findSome?_eq_some hfind
    unfold freeLocation? at hnumber
    split at hnumber
    · split at hnumber <;> cases hnumber
    · rename_i hlocate
      obtain rfl := Except.error.inj (Option.some.inj hnumber)
      exact isNumbered_iff.2 fun hnull =>
        FileTree.locate_ne_nullCharacter (not_hasNull_temporary h number) (hnull ▸ hlocate)

private theorem failsWith_rename (h : ¬ p.HasNull) (old : Location) : FailsWith IsNumbered (rename old p) := by
  intro t e he
  rw [outcome_rename] at he
  split at he
  · rename_i hlocate
    obtain rfl := Except.error.inj he
    exact isNumbered_iff.2 fun hnull => FileTree.locate_ne_nullCharacter h (hnull ▸ hlocate)
  split at he
  · exact Except.error.inj he ▸ rfl
  split at he
  · exact Except.error.inj he ▸ rfl
  split at he
  · cases he
  · exact Except.error.inj he ▸ rfl

/-- Putting a file in the place of another one. -/
theorem failsWith_replace (h : ¬ p.HasNull) (content : ByteArray) : FailsWith IsNumbered (replace p content) :=
  .bind (failsWith_writeTemporary h content) fun temporary =>
    .tryCatch (failsWith_rename h temporary) fun _ he => .bind (.modify _) fun _ => .throw he

end Storage

end CrudScaffold
