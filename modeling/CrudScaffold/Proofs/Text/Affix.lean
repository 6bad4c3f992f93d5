import CrudScaffold.Text.Affix
import CrudScaffold.Text.LineBreak

/-!
# Parts of texts

Where a text occurs in another one, what becomes of joined texts when they are split again, and which texts keep their
line breaks.
-/

namespace CrudScaffold.Text

private theorem isSome_after?_iff {part cs : List Char} : (after? part cs).isSome = true ↔ part <:+: cs := by
  induction cs with
  | nil =>
    rw [after?, List.infix_nil]
    cases part <;> simp
  | cons c cs ih =>
    rw [after?, List.infix_cons_iff, ← ih]
    by_cases h : part.isPrefixOf (c :: cs) = true
    · simp [h, List.isPrefixOf_iff_prefix.1 h]
    · have hno : ¬ part <+: c :: cs := fun hp => h (List.isPrefixOf_iff_prefix.2 hp)
      simp [h, hno]

theorem occursIn_iff {part s : String} : occursIn part s = true ↔ part.toList <:+: s.toList :=
  isSome_after?_iff

theorem endsWith_iff {tail s : String} : endsWith tail s = true ↔ tail.toList <:+ s.toList :=
  List.isSuffixOf_iff_suffix

/-- A text ends with a single character if this is its last one. -/
theorem endsWith_iff_getLast? {tail s : String} {c : Char} (h : tail.toList = [c]) :
    endsWith tail s = true ↔ s.toList.getLast? = some c := by
  rw [endsWith_iff, h, List.getLast?_eq_some_iff]
  exact exists_congr fun _ => eq_comm

theorem endsWith_append (front tail : String) : endsWith tail (front ++ tail) = true := by
  rw [endsWith_iff, String.toList_append]
  exact List.suffix_append front.toList tail.toList

/-- A part cannot begin in front of the first place where its first character stands. -/
theorem cons_infix_append_iff {c : Char} {part xs ys : List Char} (h : c ∉ xs) :
    c :: part <:+: xs ++ ys ↔ c :: part <:+: ys := by
  induction xs with
  | nil => rw [List.nil_append]
  | cons x xs ih =>
    simp only [List.mem_cons, not_or] at h
    rw [List.cons_append, List.infix_cons_iff, ih h.2]
    constructor
    · rintro (hfront | hpart)
      · exact absurd (List.cons_prefix_cons.1 hfront).1 h.1
      · exact hpart
    · exact Or.inr

/-- What stands in front of the first place of a character is determined. -/
theorem append_singleton_prefix_iff {c : Char} {xs ys rest : List Char} (hx : c ∉ xs) (hy : c ∉ ys) :
    xs ++ [c] <+: ys ++ c :: rest ↔ xs = ys := by
  induction xs generalizing ys with
  | nil =>
    cases ys with
    | nil => simp
    | cons y ys =>
      simp only [List.mem_cons, not_or] at hy
      simp [hy.1]
  | cons x xs ih =>
    simp only [List.mem_cons, not_or] at hx
    cases ys with
    | nil => simp [Ne.symm hx.1]
    | cons y ys =>
      simp only [List.mem_cons, not_or] at hy
      rw [List.cons_append, List.cons_append, List.cons_prefix_cons, ih hx.2 hy.2, List.cons.injEq]

/-! ### Texts that differ at an end -/

theorem startsWith_iff {head s : String} : startsWith head s = true ↔ head.toList <+: s.toList :=
  List.isPrefixOf_iff_prefix

/-- Texts begin differently if neither front is the front of the other one. -/
theorem append_ne_of_fronts {a b : String} (hab : startsWith a b = false) (hba : startsWith b a = false) (s t : String) :
    a ++ s ≠ b ++ t := by
  intro h
  have hchars := congrArg String.toList h
  rw [String.toList_append, String.toList_append] at hchars
  rw [Bool.eq_false_iff, Ne, startsWith_iff] at hab hba
  exact (List.prefix_or_prefix_of_prefix (List.prefix_append a.toList s.toList)
    (hchars ▸ List.prefix_append b.toList t.toList)).elim hab hba

/-- Texts end differently if neither end is the end of the other one. -/
theorem append_ne_of_ends {s t : String} (hst : endsWith s t = false) (hts : endsWith t s = false) (a b : String) :
    a ++ s ≠ b ++ t := by
  intro h
  have hchars := congrArg String.toList h
  rw [String.toList_append, String.toList_append] at hchars
  rw [Bool.eq_false_iff, Ne, endsWith_iff] at hst hts
  exact (List.suffix_or_suffix_of_suffix (List.suffix_append a.toList s.toList)
    (hchars ▸ List.suffix_append b.toList t.toList)).elim hst hts

/-- Texts are distinct if none of them begins like another one. -/
theorem nodup_of_fronts {pieces : List (String × String)}
    (h : (pieces.map Prod.fst).Pairwise fun a b => startsWith a b = false ∧ startsWith b a = false) :
    (pieces.map fun p => p.1 ++ p.2).Nodup :=
  List.pairwise_map.2 ((List.pairwise_map.1 h).imp fun hfronts => append_ne_of_fronts hfronts.1 hfronts.2 _ _)

/-- A text begins with a character as its front does. -/
theorem any_head_append {p : Char → Bool} {front : String} (h : front.toList.head?.any p = true) (rest : String) :
    (front ++ rest).toList.head?.any p = true := by
  rw [Option.any_eq_true] at h ⊢
  obtain ⟨c, hc, hp⟩ := h
  exact ⟨c, by rw [String.toList_append, List.head?_append, hc, Option.some_or], hp⟩

/-! ### Pieces between separators -/

theorem intercalate_append {α : Type} (separator : List α) {xs ys : List (List α)} (hx : xs ≠ [])
    (hy : ys ≠ []) :
    separator.intercalate (xs ++ ys) = separator.intercalate xs ++ (separator ++ separator.intercalate ys) := by
  induction xs with
  | nil => exact absurd rfl hx
  | cons x xs ih =>
    cases xs with
    | nil =>
      obtain ⟨y, ys, rfl⟩ := List.exists_cons_of_ne_nil hy
      simp [List.intercalate_cons_cons]
    | cons x' xs =>
      rw [List.cons_append, List.cons_append, List.intercalate_cons_cons, ← List.cons_append, ih (by simp),
        List.intercalate_cons_cons]
      simp only [List.append_assoc]

theorem mem_intercalate_iff {α : Type} {a separator : α} (h : a ≠ separator) {parts : List (List α)} :
    a ∈ [separator].intercalate parts ↔ ∃ part ∈ parts, a ∈ part := by
  induction parts with
  | nil => simp
  | cons part parts ih =>
    cases parts with
    | nil => simp
    | cons next parts =>
      have hjoined : a ∈ [separator].intercalate (part :: next :: parts) ↔
          a ∈ part ∨ a ∈ [separator].intercalate (next :: parts) := by
        simp [List.intercalate_cons_cons, h]
      rw [hjoined, ih]
      simp only [List.mem_cons, exists_eq_or_imp]

section Pieces

variable {α : Type} [DecidableEq α] {c : α}

theorem splitOn_ne_nil (cs : List α) : splitOn c cs ≠ [] := by
  cases cs with
  | nil => simp [splitOn]
  | cons d cs =>
    unfold splitOn
    split
    · simp
    · split <;> simp

theorem splitOn_of_not_mem {cs : List α} (h : c ∉ cs) : splitOn c cs = [cs] := by
  induction cs with
  | nil => rfl
  | cons d cs ih =>
    simp only [List.mem_cons, not_or] at h
    simp only [splitOn, if_neg (Ne.symm h.1), ih h.2]

/-- What stands on both sides of a separator is split on its own. -/
theorem splitOn_append_cons (front rest : List α) :
    splitOn c (front ++ c :: rest) = splitOn c front ++ splitOn c rest := by
  induction front with
  | nil => simp [splitOn]
  | cons d front ih =>
    rw [List.cons_append, splitOn, splitOn, ih]
    split
    · rfl
    · cases hfront : splitOn c front with
      | nil => exact absurd hfront (splitOn_ne_nil front)
      | cons piece pieces => rfl

/-- Texts that are joined by a separator which none of them has are found again. -/
theorem splitOn_intercalate {parts : List (List α)} (hne : parts ≠ [])
    (h : ∀ part ∈ parts, c ∉ part) : splitOn c ([c].intercalate parts) = parts := by
  induction parts with
  | nil => exact absurd rfl hne
  | cons part parts ih =>
    rw [List.forall_mem_cons] at h
    cases parts with
    | nil => rw [List.intercalate_singleton, splitOn_of_not_mem h.1]
    | cons other parts =>
      rw [List.intercalate_cons_cons, List.append_assoc, List.singleton_append, splitOn_append_cons,
        splitOn_of_not_mem h.1, ih (by simp) h.2]
      rfl

/-- The first piece begins with everything that stands before the first separator. -/
theorem exists_prefix_splitOn {xs : List α} (h : c ∉ xs) (ys : List α) :
    ∃ piece ∈ splitOn c (xs ++ ys), xs <+: piece := by
  obtain ⟨piece, pieces, hpieces⟩ := List.exists_cons_of_ne_nil (splitOn_ne_nil (c := c) ys)
  have hsplit : splitOn c (xs ++ ys) = (xs ++ piece) :: pieces := by
    induction xs with
    | nil => exact hpieces
    | cons x xs ih =>
      simp only [List.mem_cons, not_or] at h
      rw [List.cons_append, splitOn, if_neg (Ne.symm h.1), ih h.2]
      rfl
  exact ⟨xs ++ piece, by simp [hsplit], List.prefix_append xs piece⟩

/-- Of texts that are joined by a separator, each one's front is the front of a piece. -/
theorem exists_prefix_splitOn_intercalate {lines : List (List α)} {xs line : List α} (hline : line ∈ lines)
    (hxs : xs <+: line) (h : c ∉ xs) : ∃ piece ∈ splitOn c ([c].intercalate lines), xs <+: piece := by
  obtain ⟨ys, rfl⟩ := hxs
  induction lines with
  | nil => cases hline
  | cons first lines ih =>
    cases lines with
    | nil =>
      rw [List.intercalate_singleton, ← List.mem_singleton.1 hline]
      exact exists_prefix_splitOn h ys
    | cons second lines =>
      rw [List.intercalate_cons_cons, List.append_assoc, List.singleton_append]
      rcases List.mem_cons.1 hline with rfl | hline
      · rw [List.append_assoc]
        exact exists_prefix_splitOn h _
      · obtain ⟨piece, hpiece, hfront⟩ := ih hline
        rw [splitOn_append_cons]
        exact ⟨piece, List.mem_append_right _ hpiece, hfront⟩

end Pieces

/-- Without carriage returns there is nothing to change. -/
theorem withLineFeeds_of_not_mem {cs : List Char} (h : '\r' ∉ cs) : withLineFeeds cs = cs := by
  induction cs with
  | nil => rfl
  | cons c cs ih =>
    simp only [List.mem_cons, not_or] at h
    have hc : c ≠ '\r' := Ne.symm h.1
    simp [withLineFeeds, hc, ih h.2]

end CrudScaffold.Text
