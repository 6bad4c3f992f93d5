import CrudScaffold.Text.Digit
import Mathlib.Data.List.Basic

/-!
# Letters in both cases

What is left of a character when its case is changed.  Only the letters of ASCII have two cases here; every other
character is its own small and capital form.
-/

namespace CrudScaffold.Text

variable {c : Char}

/-- A character is a capital letter, or is its own small form. -/
theorem capital_or_same (c : Char) :
    (∃ n : Fin 26, c = Char.ofNat (65 + n)) ∨ c.isUpper = false ∧ c.toLower = c := by
  by_cases h : 'A'.val ≤ c.val ∧ c.val ≤ 'Z'.val
  · have hfirst : 65 ≤ c.toNat := UInt32.le_iff_toNat_le.1 h.1
    have hlast : c.toNat ≤ 90 := UInt32.le_iff_toNat_le.1 h.2
    exact Or.inl ⟨⟨c.toNat - 65, by omega⟩, by rw [show 65 + (c.toNat - 65) = c.toNat by omega, Char.ofNat_toNat]⟩
  · exact Or.inr ⟨decide_eq_false h, dif_neg h⟩

/-- A character is a small letter, or is its own capital form. -/
theorem small_or_same (c : Char) :
    (∃ n : Fin 26, c = Char.ofNat (97 + n)) ∨ c.isLower = false ∧ c.toUpper = c := by
  by_cases h : 'a'.val ≤ c.val ∧ c.val ≤ 'z'.val
  · have hfirst : 97 ≤ c.toNat := UInt32.le_iff_toNat_le.1 h.1
    have hlast : c.toNat ≤ 122 := UInt32.le_iff_toNat_le.1 h.2
    exact Or.inl ⟨⟨c.toNat - 97, by omega⟩, by rw [show 97 + (c.toNat - 97) = c.toNat by omega, Char.ofNat_toNat]⟩
  · have hnone : c.isLower = false := by
      refine Bool.eq_false_iff.2 fun hlower => h ?_
      obtain ⟨hfirst, hlast⟩ := Bool.and_eq_true_iff.1 hlower
      exact ⟨of_decide_eq_true hfirst, of_decide_eq_true hlast⟩
    exact Or.inr ⟨hnone, dif_neg h⟩

theorem toLower_of_not_isUpper (h : c.isUpper = false) : c.toLower = c := by
  rcases capital_or_same c with ⟨n, rfl⟩ | ⟨-, hsame⟩
  · revert n
    decide
  · exact hsame

theorem isLower_of_isUpper (h : c.isUpper = true) : c.isLower = false := by
  rcases capital_or_same c with ⟨n, rfl⟩ | ⟨hnone, -⟩
  · revert n
    decide
  · rw [hnone] at h
    cases h

theorem isUpper_of_isLower (h : c.isLower = true) : c.isUpper = false :=
  Bool.eq_false_iff.2 fun hupper => by simp [isLower_of_isUpper hupper] at h

theorem isDigit_of_isUpper (h : c.isUpper = true) : c.isDigit = false := by
  rcases capital_or_same c with ⟨n, rfl⟩ | ⟨hnone, -⟩
  · revert n
    decide
  · rw [hnone] at h
    cases h

@[simp]
theorem isUpper_toLower (c : Char) : c.toLower.isUpper = false := by
  rcases capital_or_same c with ⟨n, rfl⟩ | ⟨hnone, hsame⟩
  · revert n
    decide
  · rw [hsame, hnone]

@[simp]
theorem toLower_toLower (c : Char) : c.toLower.toLower = c.toLower :=
  toLower_of_not_isUpper (isUpper_toLower c)

@[simp]
theorem isAlphanum_toLower (c : Char) : c.toLower.isAlphanum = c.isAlphanum := by
  rcases capital_or_same c with ⟨n, rfl⟩ | ⟨-, hsame⟩
  · revert n
    decide
  · rw [hsame]

@[simp]
theorem toUpper_toLower (c : Char) : c.toLower.toUpper = c.toUpper := by
  rcases capital_or_same c with ⟨n, rfl⟩ | ⟨-, hsame⟩
  · revert n
    decide
  · rw [hsame]

@[simp]
theorem toLower_toUpper (c : Char) : c.toUpper.toLower = c.toLower := by
  rcases small_or_same c with ⟨n, rfl⟩ | ⟨-, hsame⟩
  · revert n
    decide
  · rw [hsame]

theorem isUpper_toUpper (h : c.isAlpha = true) : c.toUpper.isUpper = true := by
  rcases small_or_same c with ⟨n, rfl⟩ | ⟨hnone, hsame⟩
  · revert n
    decide
  · rw [hsame]
    refine (Bool.or_eq_true_iff.1 h).resolve_right fun hlower => ?_
    rw [hnone] at hlower
    cases hlower

theorem isLower_toLower (h : c.isUpper = true) : c.toLower.isLower = true := by
  rcases capital_or_same c with ⟨n, rfl⟩ | ⟨hnone, -⟩
  · revert n
    decide
  · rw [hnone] at h
    cases h

/-- A character is its own capital form exactly if it is no small letter. -/
theorem toUpper_eq_self_iff : c.toUpper = c ↔ c.isLower = false := by
  rcases small_or_same c with ⟨n, rfl⟩ | ⟨hnone, hsame⟩
  · revert n
    decide
  · exact iff_of_true hsame hnone

/-- A text is its own small form exactly if it has no capital. -/
theorem map_toLower_eq_self_iff {cs : List Char} : cs.map Char.toLower = cs ↔ ∀ c ∈ cs, c.isUpper = false := by
  constructor
  · intro h c hc
    rw [← h] at hc
    obtain ⟨d, -, rfl⟩ := List.mem_map.1 hc
    exact isUpper_toLower d
  · intro h
    exact (List.map_congr_left fun c hc => toLower_of_not_isUpper (h c hc)).trans (List.map_id' cs)

end CrudScaffold.Text
