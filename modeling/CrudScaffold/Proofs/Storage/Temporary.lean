import CrudScaffold.Proofs.Storage.Locate
import CrudScaffold.Proofs.Text.Padded
import Mathlib.Data.List.Nodup
import Mathlib.Data.List.Perm.Subperm

/-!
# Temporary files

A temporary file takes the first name that is not in use (`temporaryLocation_eq_ok_iff`).  The names of a path are
all different (`temporaryName_injective`), so one of them is free before the search ends
(`le_of_forall_node?_ne_none`).
-/

namespace CrudScaffold.Storage

variable {t : FileTree} {p : Path}

/-- The path of one temporary file beside a path. -/
def temporaryPath (p : Path) (number : Nat) : Path :=
  p.parent.under [temporaryName p.name number]

/-! ### Names -/

theorem temporaryName_injective (name : String) {m n : Nat} (h : temporaryName name m = temporaryName name n) :
    m = n := by
  have hdigits : (Text.padded 8 m).toList = (Text.padded 8 n).toList := by
    have hlist := congrArg String.toList h
    simp only [temporaryName, String.toList_append] at hlist
    exact List.append_cancel_left (List.append_cancel_right hlist)
  exact Text.padded_inj.1 hdigits

theorem suffix_temporaryName (name : String) (number : Nat) : ".tmp".toList <:+ (temporaryName name number).toList := by
  unfold temporaryName
  rw [String.toList_append]
  exact List.suffix_append _ _

private theorem temporaryName_ne_points (name : String) (number : Nat) : temporaryName name number ≠ ".." := by
  intro h
  have hsuffix := suffix_temporaryName name number
  rw [h] at hsuffix
  exact absurd hsuffix (by decide)

theorem resolve_temporaryPath (p : Path) (number : Nat) :
    t.resolve (temporaryPath p number) = t.resolve p.parent ++ [temporaryName p.name number] := by
  unfold temporaryPath FileTree.resolve Path.under
  rw [List.foldl_append, List.foldl_cons, List.foldl_nil, if_neg (temporaryName_ne_points _ _)]

/-! ### The first free name -/

private theorem findSome?_range_eq_some_iff {α : Type} {f : Nat → Option α} {count : Nat} {a : α} :
    (List.range count).findSome? f = some a ↔ ∃ n, n < count ∧ f n = some a ∧ ∀ m, m < n → f m = none := by
  induction count with
  | zero => simp
  | succ count ih =>
    rw [List.range_succ, List.findSome?_append, Option.or_eq_some_iff, ih, List.findSome?_eq_none_iff]
    simp only [List.mem_range, List.findSome?_singleton]
    constructor
    · rintro (⟨n, hn, hfound, hbefore⟩ | ⟨hnone, hfound⟩)
      · exact ⟨n, by omega, hfound, hbefore⟩
      · exact ⟨count, by omega, hfound, hnone⟩
    · rintro ⟨n, hn, hfound, hbefore⟩
      by_cases hlast : n = count
      · subst hlast
        exact Or.inr ⟨hbefore, hfound⟩
      · exact Or.inl ⟨n, by omega, hfound, hbefore⟩

/-- There are more names than things in the tree. -/
theorem le_of_forall_node?_ne_none {count : Nat}
    (h : ∀ n, n < count → t.node? (t.resolve (temporaryPath p n)) ≠ none) : count ≤ t.nodes.length + 1 := by
  let front : Location := t.home.take (t.resolve p.parent ++ [""]).length
  have hnodup : ((List.range count).map fun n => t.resolve (temporaryPath p n)).Nodup := by
    refine List.Nodup.map_on ?_ List.nodup_range
    intro m _ n _ hsame
    rw [resolve_temporaryPath, resolve_temporaryPath] at hsame
    exact temporaryName_injective p.name (List.singleton_inj.1 (List.append_cancel_left hsame))
  have hsubset : ((List.range count).map fun n => t.resolve (temporaryPath p n)) ⊆ front :: t.nodes.keys := by
    intro l hl
    obtain ⟨n, hn, rfl⟩ := List.mem_map.1 hl
    have htaken := h n (List.mem_range.1 hn)
    unfold FileTree.node? at htaken
    split at htaken
    · -- of locations of one length only one is above the home directory
      rename_i hhome
      have hfront := List.prefix_iff_eq_take.1 (List.isPrefixOf_iff_prefix.1 hhome)
      rw [resolve_temporaryPath] at hfront ⊢
      rw [hfront]
      simp [front]
    · exact List.mem_cons_of_mem _ (Entries.mem_keys_of_get?_ne_none htaken)
  have hlength := (List.subperm_of_subset hnodup hsubset).length_le
  simpa [Entries.keys] using hlength

private theorem locate_temporaryPath_eq_ok_iff (hp : p.components ≠ [])
    (habove : ∀ q, q.IsAbove p → t.node? (t.resolve q) = some .directory) {number : Nat} {l : Location} :
    t.locate (temporaryPath p number) = .ok l ↔
      (temporaryPath p number).Fits ∧ t.resolve (temporaryPath p number) = l := by
  rw [FileTree.locate_eq_ok_iff_above]
  constructor
  · rintro ⟨hfits, -, hl⟩
    exact ⟨hfits, hl⟩
  · rintro ⟨hfits, hl⟩
    refine ⟨hfits, fun q hq => habove q ((Path.isAbove_iff hp).2 ?_), hl⟩
    have hparent : (temporaryPath p number).parent = p.parent := by simp [temporaryPath, Path.under, Path.parent]
    rwa [Path.isAbove_iff hq.components_ne_nil, hparent] at hq

/-- One name is refused, free or in use. -/
private theorem freeLocation?_cases (hp : p.components ≠ [])
    (habove : ∀ q, q.IsAbove p → t.node? (t.resolve q) = some .directory) (number : Nat) :
    (¬ (temporaryPath p number).Fits ∧ ∃ e, freeLocation? t p number = some (.error e)) ∨
      ((temporaryPath p number).Fits ∧ t.node? (t.resolve (temporaryPath p number)) = none ∧
        freeLocation? t p number = some (.ok (t.resolve (temporaryPath p number)))) ∨
      ((temporaryPath p number).Fits ∧ t.node? (t.resolve (temporaryPath p number)) ≠ none ∧
        freeLocation? t p number = none) := by
  have hlocate : t.locate (p.parent.join ⟨.here, [temporaryName p.name number]⟩) = t.locate (temporaryPath p number) := rfl
  unfold freeLocation?
  rw [hlocate]
  cases hl : t.locate (temporaryPath p number) with
  | error e =>
    left
    refine ⟨fun hfits => ?_, e, rfl⟩
    rw [(locate_temporaryPath_eq_ok_iff hp habove).2 ⟨hfits, rfl⟩] at hl
    cases hl
  | ok l =>
    right
    obtain ⟨hfits, rfl⟩ := (locate_temporaryPath_eq_ok_iff hp habove).1 hl
    cases hn : t.node? (t.resolve (temporaryPath p number)) <;> simp [hn, hfits]

/-- A temporary file is put where the first free name is, if its path fits and those before it do. -/
theorem temporaryLocation_eq_ok_iff (hp : p.components ≠ [])
    (habove : ∀ q, q.IsAbove p → t.node? (t.resolve q) = some .directory) {l : Location} :
    temporaryLocation t p = .ok l ↔ ∃ n, (temporaryPath p n).Fits ∧ t.node? (t.resolve (temporaryPath p n)) = none ∧
      (∀ m, m < n → (temporaryPath p m).Fits ∧ t.node? (t.resolve (temporaryPath p m)) ≠ none) ∧
        t.resolve (temporaryPath p n) = l := by
  have hfound (n : Nat) : freeLocation? t p n = some (.ok l) ↔ (temporaryPath p n).Fits ∧
      t.node? (t.resolve (temporaryPath p n)) = none ∧ t.resolve (temporaryPath p n) = l := by
    rcases freeLocation?_cases hp habove n with ⟨hno, e, h⟩ | ⟨hfits, hfree, h⟩ | ⟨hfits, htaken, h⟩
    · simp [h, hno]
    · simp [h, hfits, hfree]
    · simp [h, htaken]
  have hpassed (n : Nat) : freeLocation? t p n = none ↔
      (temporaryPath p n).Fits ∧ t.node? (t.resolve (temporaryPath p n)) ≠ none := by
    rcases freeLocation?_cases hp habove n with ⟨hno, e, h⟩ | ⟨hfits, hfree, h⟩ | ⟨hfits, htaken, h⟩
    · simp [h, hno]
    · simp [h, hfree]
    · simp [h, hfits, htaken]
  have hsearch : temporaryLocation t p = .ok l ↔
      (List.range (t.nodes.length + 2)).findSome? (freeLocation? t p) = some (.ok l) := by
    unfold temporaryLocation
    cases (List.range (t.nodes.length + 2)).findSome? (freeLocation? t p) <;> simp
  rw [hsearch, findSome?_range_eq_some_iff]
  simp only [hfound, hpassed]
  constructor
  · rintro ⟨n, -, ⟨hfits, hfree, hl⟩, hbefore⟩
    exact ⟨n, hfits, hfree, hbefore, hl⟩
  · rintro ⟨n, hfits, hfree, hbefore, hl⟩
    have hn := le_of_forall_node?_ne_none fun m hm => (hbefore m hm).2
    exact ⟨n, by omega, ⟨hfits, hfree, hl⟩, hbefore⟩

end CrudScaffold.Storage
