import CrudScaffold.Text.Digit
import Mathlib.Algebra.Ring.Nat
import Mathlib.Tactic.Tauto

/-!
# The order of padded numbers

Of two texts whose fronts are of equal length, the fronts decide the order where they differ (`append_lt_append_iff`).
Numbers that are padded to the same width are in the order of their texts (`padded_lt_padded_iff`), so of texts that are
made of such numbers the first different number decides (`padded_append_lt_iff`).
-/

namespace CrudScaffold.Text

variable {width m n : Nat}

theorem append_lt_append_iff {α : Type} [LT α] {xs ys us vs : List α} (h : xs.length = ys.length) :
    xs ++ us < ys ++ vs ↔ xs < ys ∨ xs = ys ∧ us < vs := by
  induction xs generalizing ys with
  | nil =>
    obtain rfl := List.eq_nil_of_length_eq_zero h.symm
    simp
  | cons x xs ih =>
    cases ys with
    | nil => cases h
    | cons y ys =>
      rw [List.cons_append, List.cons_append, List.cons_lt_cons_iff, List.cons_lt_cons_iff, ih (Nat.succ.inj h),
        List.cons.injEq]
      tauto

/-! ### Digits -/

theorem isDigit_of_mem_padded {c : Char} (h : c ∈ (padded width n).toList) : c.isDigit = true := by
  rw [padded, String.toList_ofList, List.mem_append] at h
  rcases h with h | h
  · rw [(List.mem_replicate.1 h).2]
    decide
  · exact Nat.isDigit_of_mem_toDigits (by decide) (by decide) h

theorem length_padded (hwidth : 0 < width) (h : n < 10 ^ width) : (padded width n).toList.length = width := by
  have hle : (Nat.toDigits 10 n).length ≤ width := (Nat.length_toDigits_le_iff (by decide) hwidth).2 h
  rw [padded, String.toList_ofList, List.length_append, List.length_replicate]
  omega

/-- Nothing is put in front of a number that has the digits. -/
theorem padded_of_le_length (h : width ≤ (Nat.toDigits 10 n).length) :
    (padded width n).toList = Nat.toDigits 10 n := by
  rw [padded, String.toList_ofList, Nat.sub_eq_zero_of_le h, List.replicate_zero, List.nil_append]

theorem ofDigitChars_padded (width n : Nat) : Nat.ofDigitChars 10 (padded width n).toList 0 = n := by
  rw [padded, String.toList_ofList, Nat.ofDigitChars_append, Nat.ofDigitChars_replicate_zero, Nat.mul_zero,
    Nat.ofDigitChars_ten_toDigits]

/-! ### Order -/

/-- What a digit is worth, with the digits behind it. -/
private theorem ofDigitChars_cons (c : Char) (cs : List Char) :
    Nat.ofDigitChars 10 (c :: cs) 0 = (c.toNat - 48) * 10 ^ cs.length + Nat.ofDigitChars 10 cs 0 := by
  rw [Nat.ofDigitChars_cons, Nat.ofDigitChars_eq_ofDigitChars_zero, Nat.mul_zero, Nat.zero_add, Nat.mul_comm]
  rfl

private theorem digit_bounds {c : Char} (h : c.isDigit = true) : 48 ≤ c.toNat ∧ c.toNat ≤ 57 := by
  simp only [Char.isDigit, Bool.and_eq_true, decide_eq_true_eq] at h
  exact ⟨UInt32.le_iff_toNat_le.1 h.1, UInt32.le_iff_toNat_le.1 h.2⟩

private theorem ofDigitChars_lt {cs : List Char} (h : ∀ c ∈ cs, c.isDigit = true) :
    Nat.ofDigitChars 10 cs 0 < 10 ^ cs.length := by
  induction cs with
  | nil => decide
  | cons c cs ih =>
    obtain ⟨hc, hcs⟩ := List.forall_mem_cons.1 h
    have hrest := ih hcs
    have hdigit : (c.toNat - 48) * 10 ^ cs.length ≤ 9 * 10 ^ cs.length :=
      Nat.mul_le_mul_right _ (by have := digit_bounds hc; omega)
    rw [ofDigitChars_cons, List.length_cons, Nat.pow_succ]
    omega

private theorem mul_add_lt_mul_add_iff {a b x y k : Nat} (hx : x < k) (hy : y < k) :
    a * k + x < b * k + y ↔ a < b ∨ a = b ∧ x < y := by
  have hstep {a b : Nat} (h : a < b) : a * k + k ≤ b * k := Nat.succ_mul a k ▸ Nat.mul_le_mul_right k h
  rcases Nat.lt_trichotomy a b with h | rfl | h
  · have := hstep h
    omega
  · omega
  · have := hstep h
    omega

/-- Of texts of equal length that are made of digits, the smaller one stands for the smaller number. -/
theorem lt_iff_ofDigitChars_lt {xs ys : List Char} (hx : ∀ c ∈ xs, c.isDigit = true)
    (hy : ∀ c ∈ ys, c.isDigit = true) (hlength : xs.length = ys.length) :
    xs < ys ↔ Nat.ofDigitChars 10 xs 0 < Nat.ofDigitChars 10 ys 0 := by
  induction xs generalizing ys with
  | nil =>
    obtain rfl := List.eq_nil_of_length_eq_zero hlength.symm
    simp
  | cons x xs ih =>
    cases ys with
    | nil => cases hlength
    | cons y ys =>
      obtain ⟨hdigit, hxs⟩ := List.forall_mem_cons.1 hx
      obtain ⟨hdigit', hys⟩ := List.forall_mem_cons.1 hy
      have hrest : xs.length = ys.length := Nat.succ.inj hlength
      have hlow := (digit_bounds hdigit).1
      have hlow' := (digit_bounds hdigit').1
      have hlt : x < y ↔ x.toNat - 48 < y.toNat - 48 := by
        rw [Char.lt_def, UInt32.lt_iff_toNat_lt]
        change x.toNat < y.toNat ↔ _
        omega
      have heq : x = y ↔ x.toNat - 48 = y.toNat - 48 := by
        rw [← Char.toNat_inj]
        omega
      rw [List.cons_lt_cons_iff, ih hxs hys hrest, hlt, heq, ofDigitChars_cons, ofDigitChars_cons, hrest,
        mul_add_lt_mul_add_iff (hrest ▸ ofDigitChars_lt hxs) (ofDigitChars_lt hys)]

theorem padded_lt_padded_iff (hwidth : 0 < width) (hm : m < 10 ^ width) (hn : n < 10 ^ width) :
    (padded width m).toList < (padded width n).toList ↔ m < n := by
  rw [lt_iff_ofDigitChars_lt (fun _ => isDigit_of_mem_padded) (fun _ => isDigit_of_mem_padded)
    ((length_padded hwidth hm).trans (length_padded hwidth hn).symm), ofDigitChars_padded, ofDigitChars_padded]

theorem padded_inj : (padded width m).toList = (padded width n).toList ↔ m = n := by
  refine ⟨fun h => ?_, fun h => h ▸ rfl⟩
  rw [← ofDigitChars_padded width m, h, ofDigitChars_padded]

/-- Behind numbers of one width the rest matters only where the numbers are the same. -/
theorem padded_append_lt_iff (hwidth : 0 < width) (hm : m < 10 ^ width) (hn : n < 10 ^ width) {us vs : List Char} :
    (padded width m).toList ++ us < (padded width n).toList ++ vs ↔ m < n ∨ m = n ∧ us < vs := by
  rw [append_lt_append_iff ((length_padded hwidth hm).trans (length_padded hwidth hn).symm),
    padded_lt_padded_iff hwidth hm hn, padded_inj]

end CrudScaffold.Text
