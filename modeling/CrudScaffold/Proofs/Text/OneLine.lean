import CrudScaffold.Proofs.Text.Lower
import CrudScaffold.Proofs.Text.Trim

/-!
# Texts without line breaks

Which texts stand on one line.  Stretches and lower-case forms of a text without line breaks have none
(`OneLine.of_infix`, `oneLine_lowercase`), and a text with a line break behind it is a line exactly if it has none
(`isSingleLine_concat_iff`).
-/

namespace CrudScaffold.Text

/-- The characters that end a line. -/
def lineBreaks : List Char :=
  ['\n', '\r', '\x0b', '\x0c', '\x1c', '\x1d', '\x1e', '\x85', '\u2028', '\u2029']

def OneLine (s : String) : Prop := ∀ c ∈ s.toList, c ∉ lineBreaks

instance (s : String) : Decidable (OneLine s) := List.decidableBAll (· ∉ lineBreaks) s.toList

/-- One line: a text without line breaks, and a line break behind it. -/
def IsSingleLine (s : String) : Prop := ∃ text, s = text ++ "\n" ∧ OneLine text

variable {s t : String} {cs : List Char}

@[simp] theorem oneLine_append_iff : OneLine (s ++ t) ↔ OneLine s ∧ OneLine t := by
  simp only [OneLine, String.toList_append, List.forall_mem_append]

theorem oneLine_append_iff_left {after : String} (hafter : OneLine after) :
    OneLine (s ++ after) ↔ OneLine s := by
  rw [oneLine_append_iff, and_iff_left hafter]

theorem oneLine_between_iff {before after : String} (hbefore : OneLine before)
    (hafter : OneLine after) : OneLine (before ++ s ++ after) ↔ OneLine s := by
  rw [oneLine_append_iff_left hafter, oneLine_append_iff, and_iff_right hbefore]

@[simp] theorem oneLine_empty : OneLine "" := by decide

theorem OneLine.intercalate {separator : String} {parts : List String} (hseparator : OneLine separator)
    (hparts : ∀ part ∈ parts, OneLine part) : OneLine (separator.intercalate parts) := by
  induction parts with
  | nil => exact oneLine_empty
  | cons part parts ih =>
    obtain ⟨hpart, hrest⟩ := List.forall_mem_cons.1 hparts
    cases parts with
    | nil => rwa [String.intercalate_singleton]
    | cons other others =>
      rw [String.intercalate_cons_cons, oneLine_append_iff, oneLine_append_iff]
      exact ⟨⟨hpart, hseparator⟩, ih hrest⟩

theorem oneLine_ofList_iff : OneLine (.ofList cs) ↔ ∀ c ∈ cs, c ∉ lineBreaks := by
  rw [OneLine, String.toList_ofList]

theorem isSingleLine_concat_iff : IsSingleLine (s ++ "\n") ↔ OneLine s := by
  constructor
  · rintro ⟨text, heq, htext⟩
    rwa [(String.append_left_inj "\n").1 heq]
  · exact fun h => ⟨s, rfl, h⟩

/-! ### Parts of a text -/

theorem OneLine.of_infix {part : List Char} (h : OneLine (.ofList cs)) (hpart : part <:+: cs) :
    OneLine (.ofList part) :=
  oneLine_ofList_iff.2 fun c hc => oneLine_ofList_iff.1 h c (hpart.subset hc)

theorem trim_infix (cs : List Char) : trim cs <:+: cs := by
  obtain ⟨l, r, -, -, hcs⟩ := padded_trim cs
  exact ⟨l, r, hcs.symm⟩

/-- Line breaks are no part of identifiers. -/
theorem oneLine_of_isIdentChar (h : ∀ c ∈ cs, isIdentChar c = true) : OneLine (.ofList cs) := by
  have hbreaks : lineBreaks.any isIdentChar = false := by decide
  exact oneLine_ofList_iff.2 fun c hc hbreak => List.any_eq_false.1 hbreaks c hbreak (h c hc)

/-! ### Lower-case forms -/

/-- No run has a line break among its images. -/
private theorem lowerRuns_oneLine :
    ∀ r ∈ lowerRuns, 0 ≤ r.first + r.shift ∧
      ∀ n ∈ lineBreaks.map Char.toNat, (n : Int) < r.first + r.shift ∨ r.last + r.shift < n := by
  decide +kernel

private theorem not_mem_of_image {r : CaseRun} (hr : r ∈ lowerRuns) {n m : Nat} (h : r.image? n = some m) :
    Char.ofNat m ∉ lineBreaks := by
  intro hbreak
  unfold CaseRun.image? at h
  split at h
  · rename_i hrun
    obtain rfl := Option.some.inj h
    by_cases hvalid : (Int.toNat (n + r.shift)).isValidChar
    · obtain ⟨hfirst, hbreaks⟩ := lowerRuns_oneLine r hr
      have hrange := hbreaks _ (List.mem_map_of_mem hbreak)
      rw [toNat_ofNat_of_valid hvalid] at hrange
      omega
    · -- what is no code point becomes the null character
      rw [Char.ofNat, dif_neg hvalid] at hbreak
      exact absurd hbreak (by decide)
  · cases h

private theorem lowerChar_oneLine {c : Char} (hc : c ∉ lineBreaks) : ∀ x ∈ lowerChar c, x ∉ lineBreaks := by
  unfold lowerChar mapped
  split
  · rcases capital_or_same c with ⟨n, rfl⟩ | ⟨-, hsame⟩
    · have hletters : ∀ n : Fin 26, (Char.ofNat (65 + n)).toLower ∉ lineBreaks := by decide
      exact List.forall_mem_singleton.2 (hletters n)
    · exact List.forall_mem_singleton.2 (by rwa [hsame])
  · split
    · rename_i codes hcodes
      obtain ⟨before, after, heq, -⟩ := List.lookup_eq_some_iff.1 hcodes
      have hexpansions : ∀ e ∈ lowerExpansions, ∀ n ∈ e.2, Char.ofNat n ∉ lineBreaks := by decide
      have hmem : (c.toNat, codes) ∈ lowerExpansions := heq ▸ by simp
      exact List.forall_mem_map.2 (hexpansions _ hmem)
    · split
      · rename_i code hcode
        obtain ⟨r, hr, himage⟩ := List.exists_of_findSome?_eq_some hcode
        exact List.forall_mem_singleton.2 (not_mem_of_image hr himage)
      · exact List.forall_mem_singleton.2 hc

private theorem lowerFrom_oneLine {before cs : List Char} (h : ∀ c ∈ cs, c ∉ lineBreaks) :
    ∀ x ∈ lowerFrom before cs, x ∉ lineBreaks := by
  induction cs generalizing before with
  | nil => exact fun x hx => nomatch hx
  | cons c cs ih =>
    obtain ⟨hc, hcs⟩ := List.forall_mem_cons.1 h
    rw [lowerFrom]
    refine List.forall_mem_append.2 ⟨?_, ih hcs⟩
    split
    · have hsigmas : 'ς' ∉ lineBreaks ∧ 'σ' ∉ lineBreaks := by decide
      refine List.forall_mem_singleton.2 ?_
      split
      · exact hsigmas.1
      · exact hsigmas.2
    · exact lowerChar_oneLine hc

theorem oneLine_lowercase (h : OneLine s) : OneLine (lowercase s) :=
  oneLine_ofList_iff.2 (lowerFrom_oneLine h)

end CrudScaffold.Text
