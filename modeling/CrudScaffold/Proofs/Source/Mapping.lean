import CrudScaffold.Artifact.Module
import Mathlib.Data.List.Perm.Lattice

/-!
# Imports as a mapping

Imports are a mapping from modules to names, and neither the modules nor the names have an order.  The lines that they
are written as have one of their own, which forgets the order that there was (`toLines_congr`).
-/

namespace CrudScaffold.Source

/-! ### Sorted names -/

theorem pairwise_sortTexts (texts : List String) : (sortTexts texts).Pairwise (· ≤ ·) := by
  have hsorted := @List.pairwise_mergeSort _ (fun a b : String => decide (a ≤ b))
    (fun a b c hab hbc => decide_eq_true (String.le_trans (of_decide_eq_true hab) (of_decide_eq_true hbc)))
    (fun a b => by simpa using String.le_total a b) texts
  exact hsorted.imp of_decide_eq_true

/-- Sorting forgets the order that there was. -/
theorem sortTexts_congr {texts others : List String} (h : texts.Perm others) : sortTexts texts = sortTexts others := by
  have hperm : (sortTexts texts).Perm (sortTexts others) :=
    (List.mergeSort_perm _ _).trans (h.trans (List.mergeSort_perm _ _).symm)
  exact hperm.eq_of_pairwise (fun _ _ _ _ => String.le_antisymm) (pairwise_sortTexts _) (pairwise_sortTexts _)

/-! ### Sorted lines -/

/-- Plain imports come first, and then modules are in order. -/
def Import.Before (i j : Import) : Prop :=
  (i.isPlain = true ∧ j.isPlain = false) ∨ (i.isPlain = j.isPlain ∧ i.origin < j.origin)

namespace Imports

variable {imports others : Imports}

/-- The lines with their names sorted, in the order in which the modules came. -/
def lines (imports : Imports) : List Import :=
  imports.map fun e => ⟨e.1, sortTexts e.2⟩

theorem map_origin_lines (imports : Imports) : imports.lines.map Import.origin = imports.keys := by
  rw [lines, List.map_map]
  rfl

theorem toLines_perm (imports : Imports) : imports.toLines.Perm imports.lines :=
  List.mergeSort_perm _ _

/-- Lines of different modules are in order, with nothing left to chance. -/
theorem pairwise_toLines (h : imports.keys.Nodup) : imports.toLines.Pairwise Import.Before := by
  have hsorted := @List.pairwise_mergeSort _
    (fun a b : Import => if a.isPlain = b.isPlain then decide (a.origin ≤ b.origin) else a.isPlain)
    (fun a b c hab hbc => by
      have htrans : a.origin ≤ b.origin → b.origin ≤ c.origin → a.origin ≤ c.origin := String.le_trans
      cases ha : a.isPlain <;> cases hb : b.isPlain <;> cases hc : c.isPlain <;> simp_all)
    (fun a b => by
      have htotal := String.le_total a.origin b.origin
      cases ha : a.isPlain <;> cases hb : b.isPlain <;> simp_all)
    imports.lines
  have hdistinct : imports.toLines.Pairwise fun i j => i.origin ≠ j.origin := by
    rw [← List.pairwise_map, ← List.Nodup, (imports.toLines_perm.map _).nodup_iff, map_origin_lines]
    exact h
  refine (hsorted.and hdistinct).imp fun {i j} hij => ?_
  obtain ⟨hle, hne⟩ := hij
  unfold Import.Before
  split at hle
  · rename_i hsame
    exact Or.inr ⟨hsame, Std.lt_of_le_of_ne (of_decide_eq_true hle) hne⟩
  · rename_i hother
    exact Or.inl ⟨hle, by simpa [hle] using Ne.symm hother⟩

/-! ### The same modules and names -/

/-- The same modules with the same names of each, in whatever order. -/
def Same (imports others : Imports) : Prop :=
  ∀ origin, Option.Rel List.Perm (imports.get? origin) (others.get? origin)

/-- The mapping with the names of each module sorted. -/
def sorted (imports : Imports) : Imports :=
  imports.map fun e => (e.1, sortTexts e.2)

theorem keys_sorted (imports : Imports) : imports.sorted.keys = imports.keys := by
  rw [sorted, Entries.keys, List.map_map]
  rfl

theorem get?_sorted (imports : Imports) (origin : String) :
    imports.sorted.get? origin = (imports.get? origin).map sortTexts := by
  induction imports with
  | nil => rfl
  | cons e imports ih =>
    obtain ⟨other, names⟩ := e
    change Entries.get? origin ((other, sortTexts names) :: sorted imports) = _
    rw [Entries.get?, Entries.get?, ih]
    split <;> rfl

/-- Entries in another order are found as before. -/
theorem get?_of_perm (h : imports.keys.Nodup) (hperm : imports.Perm others) (origin : String) :
    others.get? origin = imports.get? origin := by
  have hothers : others.keys.Nodup := (hperm.map Prod.fst).nodup_iff.1 h
  ext names
  rw [Entries.get?_eq_some_iff hothers, Entries.get?_eq_some_iff h, hperm.mem_iff]

theorem Same.symm (h : imports.Same others) : others.Same imports := by
  intro origin
  have hnames := h origin
  generalize imports.get? origin = names, others.get? origin = names' at hnames ⊢
  cases hnames with
  | some hperm => exact .some hperm.symm
  | none => exact .none

theorem Same.trans {more : Imports} (h : imports.Same others) (h' : others.Same more) : imports.Same more := by
  intro origin
  have hfirst := h origin
  have hsecond := h' origin
  generalize imports.get? origin = names, others.get? origin = names', more.get? origin = names'' at hfirst hsecond ⊢
  cases hfirst with
  | none => exact hsecond
  | some hperm =>
    cases hsecond with
    | some hperm' => exact .some (hperm.trans hperm')

/-- Sorted entries in another order are the same mapping. -/
theorem same_of_perm_sorted (h : imports.keys.Nodup) (hperm : imports.sorted.Perm others) : others.Same imports := by
  intro origin
  rw [get?_of_perm (imports.keys_sorted.symm ▸ h) hperm, get?_sorted]
  cases imports.get? origin with
  | none => exact .none
  | some names => exact .some (List.mergeSort_perm _ _)

/-- Mappings are the same if they have the same entries once the names are sorted. -/
theorem Same.perm_sorted (h : imports.keys.Nodup) (hothers : others.keys.Nodup) (hsame : imports.Same others) :
    imports.sorted.Perm others.sorted := by
  have hnodup {imports : Imports} (h : imports.keys.Nodup) : imports.sorted.keys.Nodup := imports.keys_sorted.symm ▸ h
  refine (List.perm_ext_iff_of_nodup (.of_map _ (hnodup h)) (.of_map _ (hnodup hothers))).2 fun ⟨origin, names⟩ => ?_
  have hnames := hsame origin
  rw [← Entries.get?_eq_some_iff (hnodup h), ← Entries.get?_eq_some_iff (hnodup hothers), get?_sorted, get?_sorted]
  generalize imports.get? origin = found, others.get? origin = found' at hnames ⊢
  cases hnames with
  | none => rfl
  | some hperm => rw [Option.map_some, Option.map_some, sortTexts_congr hperm]

/-- The order of modules and names makes no difference to the lines. -/
theorem toLines_congr (h : imports.keys.Nodup) (hothers : others.keys.Nodup) (hsame : imports.Same others) :
    imports.toLines = others.toLines := by
  have hlines (imports : Imports) : imports.lines = imports.sorted.map fun e => ⟨e.1, e.2⟩ := by
    rw [sorted, List.map_map]
    rfl
  have hperm : imports.toLines.Perm others.toLines := by
    refine imports.toLines_perm.trans (.trans ?_ others.toLines_perm.symm)
    rw [hlines, hlines]
    exact (hsame.perm_sorted h hothers).map _
  refine hperm.eq_of_pairwise (fun i j _ _ hij hji => ?_) (pairwise_toLines h) (pairwise_toLines hothers)
  -- no line is before itself, nor two lines before each other
  rcases hij with ⟨hi, hj⟩ | ⟨hsame, hlt⟩
  · rcases hji with ⟨hj', -⟩ | ⟨hsame, -⟩
    · exact absurd (hj'.symm.trans hj) (by decide)
    · exact absurd ((hi.symm.trans hsame.symm).trans hj) (by decide)
  · rcases hji with ⟨hj, hi⟩ | ⟨-, hgt⟩
    · exact absurd ((hj.symm.trans hsame.symm).trans hi) (by decide)
    · exact absurd hgt (String.lt_asymm hlt)

end Imports

end CrudScaffold.Source
