import CrudScaffold.Text.Blank
import Mathlib.Data.List.TakeWhile

/-!
# Trimmed texts

A text is trimmed when no blank stands at its ends. `trim` finds the one trimmed text that a given text is with
blanks around it (`trim_eq_iff`).
-/

namespace CrudScaffold.Text

/-- Only blanks. -/
def Blanks (cs : List Char) : Prop := ∀ c ∈ cs, isBlank c = true

/-- The second text is the first one with blanks before and after it. -/
def Padded (core cs : List Char) : Prop := ∃ l r, Blanks l ∧ Blanks r ∧ cs = l ++ core ++ r

/-- No blank stands at either end. -/
def Trimmed (cs : List Char) : Prop :=
  (∀ c, cs.head? = some c → isBlank c = false) ∧ ∀ c, cs.getLast? = some c → isBlank c = false

theorem blanks_nil : Blanks [] := by simp [Blanks]

theorem Blanks.append {l r : List Char} (hl : Blanks l) (hr : Blanks r) : Blanks (l ++ r) := by
  intro c hc
  rcases List.mem_append.1 hc with hc | hc
  · exact hl c hc
  · exact hr c hc

theorem padded_self (cs : List Char) : Padded cs cs := ⟨[], [], blanks_nil, blanks_nil, by simp⟩

/-- Blanks may be added around a padded text. -/
theorem Padded.pad {core cs l r : List Char} (h : Padded core cs) (hl : Blanks l) (hr : Blanks r) :
    Padded core (l ++ cs ++ r) := by
  obtain ⟨l', r', hl', hr', rfl⟩ := h
  exact ⟨l ++ l', r' ++ r, hl.append hl', hr'.append hr, by simp⟩

/-- A text is trimmed when none of its characters is blank. -/
theorem trimmed_of_forall {cs : List Char} (h : ∀ c ∈ cs, isBlank c = false) : Trimmed cs :=
  ⟨fun c hc => h c (List.mem_of_head? hc), fun c hc => h c (List.mem_of_getLast? hc)⟩

/-! ### What `trim` takes off -/

private theorem head?_dropWhile {cs : List Char} {c : Char} (h : (cs.dropWhile isBlank).head? = some c) :
    isBlank c = false := by
  have := List.head?_dropWhile_not isBlank cs
  simpa [h] using this

/-- The text is what `trimStart` leaves, with blanks before it. -/
private theorem trimStart_spec (cs : List Char) : ∃ l, Blanks l ∧ cs = l ++ trimStart cs :=
  ⟨cs.takeWhile isBlank, fun _ hc => List.mem_takeWhile_imp hc, List.takeWhile_append_dropWhile.symm⟩

/-- The text is what `trimEnd` leaves, with blanks after it. -/
private theorem trimEnd_spec (cs : List Char) : ∃ r, Blanks r ∧ cs = trimEnd cs ++ r := by
  refine ⟨(cs.reverse.takeWhile isBlank).reverse, fun c hc => ?_, ?_⟩
  · exact List.mem_takeWhile_imp (List.mem_reverse.1 hc)
  · unfold trimEnd
    rw [← List.reverse_append, List.takeWhile_append_dropWhile, List.reverse_reverse]

/-- A text is its trimmed form with blanks around it. -/
theorem padded_trim (cs : List Char) : Padded (trim cs) cs := by
  obtain ⟨l, hl, hcs⟩ := trimStart_spec cs
  obtain ⟨r, hr, hstart⟩ := trimEnd_spec (trimStart cs)
  refine ⟨l, r, hl, hr, ?_⟩
  unfold trim
  rw [List.append_assoc, ← hstart, ← hcs]

theorem trimmed_trim (cs : List Char) : Trimmed (trim cs) := by
  constructor
  · intro c hc
    obtain ⟨r, -, hstart⟩ := trimEnd_spec (trimStart cs)
    have hhead : (trimStart cs).head? = some c := by
      rw [hstart, List.head?_append]
      simp only [trim] at hc
      simp [hc]
    exact head?_dropWhile hhead
  · intro c hc
    simp only [trim, trimEnd, List.getLast?_reverse] at hc
    exact head?_dropWhile hc

private theorem trimStart_append {l cs : List Char} (hl : Blanks l) : trimStart (l ++ cs) = trimStart cs :=
  List.dropWhile_append_of_pos hl

private theorem trimEnd_append {cs r : List Char} (hr : Blanks r) : trimEnd (cs ++ r) = trimEnd cs := by
  unfold trimEnd
  rw [List.reverse_append, List.dropWhile_append_of_pos fun c hc => hr c (List.mem_reverse.1 hc)]

private theorem trimStart_of_head {cs : List Char} (h : ∀ c, cs.head? = some c → isBlank c = false) :
    trimStart cs = cs := by
  cases cs with
  | nil => rfl
  | cons c cs => simp [trimStart, h c rfl]

private theorem trimEnd_of_getLast {cs : List Char} (h : ∀ c, cs.getLast? = some c → isBlank c = false) :
    trimEnd cs = cs := by
  have : trimStart cs.reverse = cs.reverse := trimStart_of_head fun c hc => h c (by simpa using hc)
  unfold trimEnd
  unfold trimStart at this
  rw [this, List.reverse_reverse]

/-- Blanks are taken off whole. -/
theorem trim_of_blanks {cs : List Char} (h : Blanks cs) : trim cs = [] := by
  have : trimStart cs = [] := List.dropWhile_eq_nil_iff.2 h
  simp [trim, this, trimEnd]

/-- A trimmed text is found between the blanks around it. -/
theorem trim_of_padded {core cs : List Char} (hc : Trimmed core) (h : Padded core cs) : trim cs = core := by
  obtain ⟨l, r, hl, hr, rfl⟩ := h
  by_cases hcore : core = []
  · subst hcore
    simpa using trim_of_blanks (hl.append hr)
  · have hhead : ∀ c, (core ++ r).head? = some c → isBlank c = false := by
      intro c h
      apply hc.1 c
      cases core with
      | nil => exact absurd rfl hcore
      | cons d core => exact h
    unfold trim
    rw [List.append_assoc, trimStart_append hl, trimStart_of_head hhead, trimEnd_append hr,
      trimEnd_of_getLast hc.2]

theorem trim_eq_iff {cs core : List Char} : trim cs = core ↔ Trimmed core ∧ Padded core cs := by
  constructor
  · rintro rfl
    exact ⟨trimmed_trim cs, padded_trim cs⟩
  · rintro ⟨hc, h⟩
    exact trim_of_padded hc h

theorem trim_eq_nil_iff {cs : List Char} : trim cs = [] ↔ Blanks cs := by
  constructor
  · intro h
    obtain ⟨l, r, hl, hr, hcs⟩ := padded_trim cs
    rw [hcs, h, List.append_nil]
    exact hl.append hr
  · exact trim_of_blanks

/-- Blanks around a text do not change its trimmed form. -/
theorem trim_pad {l cs r : List Char} (hl : Blanks l) (hr : Blanks r) : trim (l ++ cs ++ r) = trim cs :=
  trim_of_padded (trimmed_trim cs) ((padded_trim cs).pad hl hr)

end CrudScaffold.Text
