import CrudScaffold.Identifier
import CrudScaffold.Proofs.Text.Lower

/-!
# Characters of identifiers

Identifiers are ASCII texts, and whether a text is one does not depend on the case of its letters.
-/

namespace CrudScaffold

open Text (isIdentChar isIdentStart)

theorem toNat_of_isIdentChar {c : Char} (h : isIdentChar c = true) :
    48 ≤ c.toNat ∧ c.toNat ≤ 57 ∨ 65 ≤ c.toNat ∧ c.toNat ≤ 90 ∨ c.toNat = 95 ∨ 97 ≤ c.toNat ∧ c.toNat ≤ 122 := by
  unfold isIdentChar Char.isAlphanum Char.isAlpha Char.isUpper Char.isLower Char.isDigit at h
  simp only [Bool.or_eq_true, Bool.and_eq_true, decide_eq_true_eq, beq_iff_eq, ge_iff_le,
    UInt32.le_iff_toNat_le] at h
  have hval : c.toNat = c.val.toNat := rfl
  rcases h with ((h | h) | h) | rfl
  · right; left; exact h
  · right; right; right; exact h
  · left; exact h
  · right; right; left; rfl

theorem isAscii_of_isIdentChar {c : Char} (h : isIdentChar c = true) : Text.IsAscii c := by
  have := toNat_of_isIdentChar h
  unfold Text.IsAscii
  omega

theorem isIdentChar_of_isIdentStart {c : Char} (h : isIdentStart c = true) : isIdentChar c = true := by
  simp only [isIdentStart, isIdentChar, Char.isAlphanum, Bool.or_eq_true] at h ⊢
  rcases h with h | h
  · exact Or.inl (Or.inl h)
  · exact Or.inr h

theorem isIdentChars_iff {cs : List Char} :
    isIdentChars cs = true ↔ ∃ c rest, cs = c :: rest ∧ isIdentStart c = true ∧ ∀ x ∈ rest, isIdentChar x = true := by
  cases cs <;> simp [isIdentChars]

/-- An identifier is made of the characters that identifiers have, and is not empty. -/
theorem forall_isIdentChar {cs : List Char} (h : isIdentChars cs = true) : ∀ c ∈ cs, isIdentChar c = true := by
  obtain ⟨c, rest, rfl, hc, hrest⟩ := isIdentChars_iff.1 h
  intro x hx
  rcases List.mem_cons.1 hx with rfl | hx
  · exact isIdentChar_of_isIdentStart hc
  · exact hrest x hx

theorem ne_nil_of_isIdentChars {cs : List Char} (h : isIdentChars cs = true) : cs ≠ [] := by
  rintro rfl
  simp [isIdentChars] at h

/-- The case of its letters does not matter to an identifier. -/
theorem isIdentChars_map_toLower (cs : List Char) : isIdentChars (cs.map Char.toLower) = isIdentChars cs := by
  cases cs with
  | nil => rfl
  | cons c cs =>
    simp [isIdentChars, Text.isIdentStart_toLower, Function.comp_def, Text.isIdentChar_toLower]

/-- A text that is not empty, with more behind it, is an identifier if it is one itself and has characters of
identifiers behind it. -/
theorem isIdentChars_append_iff {xs ys : List Char} (h : xs ≠ []) :
    isIdentChars (xs ++ ys) = true ↔ isIdentChars xs = true ∧ ∀ c ∈ ys, isIdentChar c = true := by
  obtain ⟨c, xs, rfl⟩ := List.exists_cons_of_ne_nil h
  simp [isIdentChars, and_assoc]

/-- The lower-case form of a text with the characters of identifiers is taken letter by letter. -/
theorem lower_of_isIdentChar {cs : List Char} (h : ∀ c ∈ cs, isIdentChar c = true) :
    Text.lower cs = cs.map Char.toLower :=
  Text.lower_of_ascii fun c hc => isAscii_of_isIdentChar (h c hc)

end CrudScaffold
