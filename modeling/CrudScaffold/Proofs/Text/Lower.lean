import CrudScaffold.Proofs.Text.Letter
import CrudScaffold.Text.Case

/-!
# Lower-case forms of ASCII words

Beyond ASCII only one character has a lower-case form that is all ASCII: the Kelvin sign, whose form is `k`.  So a
text whose lower-case form is an ASCII word without `k` is that word in some mixture of cases (`ascii_of_lower`).  A
text may be shorter than its form, but not than an end of the form that is ASCII (`length_le_of_suffix_lower`).
-/

namespace CrudScaffold.Text

/-- The code points of ASCII. -/
def IsAscii (c : Char) : Prop := c.toNat < 0x80

instance (c : Char) : Decidable (IsAscii c) := inferInstanceAs (Decidable (_ < _))

/-! ### Characters beyond ASCII -/

/-- The images of a run are characters beyond ASCII. -/
private def CaseRun.staysWide (r : CaseRun) : Bool :=
  decide (0x80 ≤ r.first + r.shift) &&
    (decide (r.last + r.shift < 0xD800) ||
      decide (0xE000 ≤ r.first + r.shift) && decide (r.last + r.shift < 0x110000))

theorem toNat_ofNat_of_valid {n : Nat} (h : n.isValidChar) : (Char.ofNat n).toNat = n := by
  rw [Char.ofNat, dif_pos h]
  rfl

private theorem wide_of_image {r : CaseRun} (hr : r.staysWide = true) {n m : Nat} (h : r.image? n = some m) :
    0x80 ≤ (Char.ofNat m).toNat := by
  unfold CaseRun.image? at h
  split at h
  · simp only [Option.some.injEq] at h
    simp only [CaseRun.staysWide, Bool.and_eq_true, Bool.or_eq_true, decide_eq_true_eq] at hr
    have hvalid : m.isValidChar := by
      unfold Nat.isValidChar
      omega
    rw [toNat_ofNat_of_valid hvalid]
    omega
  · simp at h

private theorem lowerRuns_staysWide :
    ∀ r ∈ lowerRuns, r.staysWide = true ∨ r.first = 0x212A ∧ r.last = 0x212A := by
  decide +kernel

/-- Beyond ASCII the lower-case form of a character is not all ASCII, unless the character is the Kelvin sign. -/
theorem exists_wide_of_lowerChar {c : Char} (h : ¬ IsAscii c) (hk : c.toNat ≠ 0x212A) :
    ∃ x ∈ lowerChar c, ¬ IsAscii x := by
  unfold IsAscii at h
  unfold lowerChar mapped
  rw [if_neg h]
  by_cases he : c.toNat = 0x130
  · have hlookup : lowerExpansions.lookup c.toNat = some [0x69, 0x307] := by rw [he]; rfl
    simp only [hlookup]
    exact ⟨Char.ofNat 0x307, by simp, by decide⟩
  · have hlookup : lowerExpansions.lookup c.toNat = none := by
      simp [lowerExpansions, List.lookup_cons, beq_eq_false_iff_ne.2 he]
    simp only [hlookup]
    cases hf : lowerRuns.findSome? (·.image? c.toNat) with
    | none => exact ⟨c, by simp, h⟩
    | some code =>
      obtain ⟨r, hr, himage⟩ := List.exists_of_findSome?_eq_some hf
      refine ⟨Char.ofNat code, by simp, ?_⟩
      rcases lowerRuns_staysWide r hr with hwide | ⟨hfirst, hlast⟩
      · have := wide_of_image hwide himage
        unfold IsAscii
        omega
      · -- the run of the Kelvin sign has no other member
        unfold CaseRun.image? at himage
        split at himage
        · omega
        · simp at himage

private theorem lowerChar_kelvin {c : Char} (h : c.toNat = 0x212A) : 'k' ∈ lowerChar c := by
  have : c = Char.ofNat 0x212A := by rw [← h, Char.ofNat_toNat]
  subst this
  decide +kernel

theorem lowerChar_of_ascii {c : Char} (h : IsAscii c) : lowerChar c = [c.toLower] := if_pos h

/-! ### Words -/

/-- The letters that tell an ASCII word by its lower-case form. -/
def IsPlainLetter (c : Char) : Prop := IsAscii c ∧ c ≠ 'k'

private theorem ascii_of_lowerFrom {before cs : List Char} (h : ∀ x ∈ lowerFrom before cs, IsPlainLetter x) :
    (∀ c ∈ cs, IsAscii c) ∧ lowerFrom before cs = cs.map Char.toLower := by
  induction cs generalizing before with
  | nil => simp [lowerFrom]
  | cons c cs ih =>
    simp only [lowerFrom, List.mem_append] at h
    obtain ⟨hrest, hmap⟩ := ih fun x hx => h x (Or.inr hx)
    by_cases hs : c = 'Σ'
    · -- both small forms of sigma are beyond ASCII
      subst hs
      simp only [if_true, List.mem_singleton] at h
      have := h _ (Or.inl rfl)
      split at this <;> exact absurd this.1 (by decide)
    · simp only [hs, if_false] at h
      have hc : IsAscii c := by
        by_contra hwide
        by_cases hk : c.toNat = 0x212A
        · exact (h 'k' (Or.inl (lowerChar_kelvin hk))).2 rfl
        · obtain ⟨x, hx, hx'⟩ := exists_wide_of_lowerChar hwide hk
          exact hx' (h x (Or.inl hx)).1
      refine ⟨?_, ?_⟩
      · intro x hx
        rcases List.mem_cons.1 hx with rfl | hx
        · exact hc
        · exact hrest x hx
      · simp [lowerFrom, hs, lowerChar_of_ascii hc, hmap]

/-- A text with the lower-case form of an ASCII word without `k` is ASCII itself, and the form is taken letter by
letter. -/
theorem ascii_of_lower {cs : List Char} (h : ∀ x ∈ lower cs, IsPlainLetter x) :
    (∀ c ∈ cs, IsAscii c) ∧ lower cs = cs.map Char.toLower :=
  ascii_of_lowerFrom h

/-- The lower-case form of an ASCII text is taken letter by letter. -/
theorem lower_of_ascii {cs : List Char} (h : ∀ c ∈ cs, IsAscii c) : lower cs = cs.map Char.toLower := by
  have hfrom (before : List Char) : lowerFrom before cs = cs.map Char.toLower := by
    induction cs generalizing before with
    | nil => rfl
    | cons c cs ih =>
      have hc : IsAscii c := h c List.mem_cons_self
      have hs : c ≠ 'Σ' := by
        rintro rfl
        exact absurd hc (by decide)
      rw [lowerFrom, if_neg hs, lowerChar_of_ascii hc, ih fun d hd => h d (List.mem_cons_of_mem c hd)]
      rfl
  exact hfrom []

/-- The capital I with a dot is the only character whose lower-case form has a second character, the dot. -/
private theorem lowerChar_cases (c : Char) : (∃ x, lowerChar c = [x]) ∨ lowerChar c = ['i', '\u0307'] := by
  unfold lowerChar mapped
  split
  · exact Or.inl ⟨_, rfl⟩
  split
  · rename_i codes hcodes
    have hpair : codes = [0x69, 0x307] := by
      rw [lowerExpansions, List.lookup_cons, List.lookup_nil] at hcodes
      split at hcodes
      · exact (Option.some.inj hcodes).symm
      · cases hcodes
    exact Or.inr (hpair ▸ rfl)
  split
  · exact Or.inl ⟨_, rfl⟩
  · exact Or.inl ⟨_, rfl⟩

private theorem length_le_of_suffix_lowerFrom {before cs tail : List Char} (hascii : ∀ x ∈ tail, IsAscii x)
    (h : tail <:+ lowerFrom before cs) : tail.length ≤ cs.length := by
  induction cs generalizing before tail with
  | nil => exact h.length_le
  | cons c cs ih =>
    have hsingle {x : Char} (hx : tail <:+ x :: lowerFrom (c :: before) cs) : tail.length ≤ (c :: cs).length := by
      rcases List.suffix_cons_iff.1 hx with rfl | htail
      · exact Nat.succ_le_succ (ih (List.forall_mem_cons.1 hascii).2 (List.suffix_refl _))
      · exact Nat.le_succ_of_le (ih hascii htail)
    rw [lowerFrom] at h
    split at h
    · exact hsingle h
    · rcases lowerChar_cases c with ⟨x, hx⟩ | hpair
      · exact hsingle (hx ▸ h)
      · -- the end would begin with the dot or in front of it
        have hdot : ¬ IsAscii '\u0307' := by decide
        rw [hpair] at h
        rcases List.suffix_cons_iff.1 h with rfl | h
        · exact absurd (hascii _ (by simp)) hdot
        rcases List.suffix_cons_iff.1 h with rfl | h
        · exact absurd (hascii _ (by simp)) hdot
        · exact Nat.le_succ_of_le (ih hascii h)

/-- A text has at least as many characters as an ASCII end of its lower-case form. -/
theorem length_le_of_suffix_lower {cs tail : List Char} (hascii : ∀ x ∈ tail, IsAscii x) (h : tail <:+ lower cs) :
    tail.length ≤ cs.length :=
  length_le_of_suffix_lowerFrom hascii h

/-- Identifiers may have a character in both cases or in none. -/
theorem isIdentChar_toLower (c : Char) : isIdentChar c.toLower = isIdentChar c := by
  rcases capital_or_same c with ⟨n, rfl⟩ | ⟨-, hsame⟩
  · revert n
    decide
  · rw [hsame]

theorem isIdentStart_toLower (c : Char) : isIdentStart c.toLower = isIdentStart c := by
  rcases capital_or_same c with ⟨n, rfl⟩ | ⟨-, hsame⟩
  · revert n
    decide
  · rw [hsame]

end CrudScaffold.Text
