import CrudScaffold.Proofs.Naming.Pascal
import CrudScaffold.Proofs.Text.Affix

/-!
# Segments of module paths

A namespace becomes a dotted path whose segments are the snake-case forms of its pieces, without those that are empty
(`segments_modulePath`).  A snake-case form begins with the first letter or digit of what it was made from, so that it
is an identifier when that is a letter (`isIdentChars_snakeChars`).
-/

namespace CrudScaffold.Naming

open Text (isIdentChar isIdentStart)

/-! ### Snake-case forms -/

/-- A snake-case form begins with the first letter or digit. -/
theorem head?_snakeChars (cs : List Char) :
    (snakeChars cs).head? = (cs.find? Char.isAlphanum).map Char.toLower := by
  have hwords : (snakeChars cs).head? = (words cs).flatten.head? := by
    unfold snakeChars joined
    cases hwords : words cs with
    | nil => rfl
    | cons word others =>
      obtain ⟨c, word, rfl⟩ := List.exists_cons_of_ne_nil (isPlain_of_words (hwords ▸ List.mem_cons_self)).2
      cases others <;> rfl
  rw [hwords, flatten_words, List.head?_map, List.head?_filter]

theorem snakeChars_eq_nil_iff {cs : List Char} : snakeChars cs = [] ↔ cs.find? Char.isAlphanum = none := by
  rw [← List.head?_eq_none_iff, head?_snakeChars, Option.map_eq_none_iff]

/-- A snake-case form is an identifier exactly if the first letter or digit is a letter. -/
theorem isIdentChars_snakeChars (cs : List Char) :
    isIdentChars (snakeChars cs) = (cs.find? Char.isAlphanum).any Char.isAlpha := by
  have hplain := isPlain_snakeChars cs
  have hhead := head?_snakeChars cs
  cases hfind : cs.find? Char.isAlphanum with
  | none =>
    rw [snakeChars_eq_nil_iff.2 hfind]
    rfl
  | some c =>
    rw [hfind, Option.map_some] at hhead
    obtain ⟨rest, hcs⟩ := List.head?_eq_some_iff.1 hhead
    have hrest : rest.all isIdentChar = true :=
      List.all_eq_true.2 fun d hd => hplain d (hcs ▸ List.mem_cons_of_mem _ hd)
    have hunderscore : c ≠ '_' := by
      rintro rfl
      exact absurd (List.find?_some hfind) (by decide)
    rw [hcs, isIdentChars, hrest, Bool.and_true, Text.isIdentStart_toLower]
    simp [isIdentStart, hunderscore]

/-- Without an underscore the letters and digits are left, in lower case. -/
theorem snakeChars_of_not_mem {cs : List Char} (h : '_' ∉ snakeChars cs) :
    snakeChars cs = (cs.filter Char.isAlphanum).map Char.toLower := by
  rw [← filter_snakeChars]
  refine (List.filter_eq_self.2 fun c hc => ?_).symm
  have hplain := isPlain_snakeChars cs c hc
  have hc' : c ≠ '_' := by
    rintro rfl
    exact h hc
  simpa [isIdentChar, hc'] using hplain

private theorem words_ne_nil_of_mem {cs : List Char} {c : Char} (hc : c ∈ cs) (halnum : c.isAlphanum = true) :
    words cs ≠ [] := by
  intro hnil
  have hflat := flatten_words cs
  rw [hnil, List.flatten_nil, eq_comm, List.map_eq_nil_iff, List.filter_eq_nil_iff] at hflat
  exact hflat c hc halnum

/-- Between letters or digits everything else becomes an underscore. -/
private theorem underscore_mem_between {x c d : Char} {front rest : List Char} (hx : x.isAlphanum = false)
    (hc : c ∈ front) (hcalnum : c.isAlphanum = true) (hd : d ∈ rest) (hdalnum : d.isAlphanum = true) :
    '_' ∈ snakeChars (front ++ x :: rest) := by
  obtain ⟨word, words', hfront⟩ := List.exists_cons_of_ne_nil (words_ne_nil_of_mem hc hcalnum)
  obtain ⟨other, others, hrest⟩ := List.exists_cons_of_ne_nil (words_ne_nil_of_mem hd hdalnum)
  obtain ⟨second, later, hwords⟩ : ∃ second later, words' ++ other :: others = second :: later :=
    List.exists_cons_of_ne_nil (by simp)
  rw [snakeChars, joined, words_append_cons hx, hfront, hrest, List.cons_append, hwords, List.intercalate_cons_cons]
  simp

/-- In a text that begins and ends with letters or digits everything else becomes an underscore. -/
theorem underscore_mem_snakeChars {cs : List Char} {x : Char} (hhead : cs.head?.any Char.isAlphanum = true)
    (hlast : cs.getLast?.any Char.isAlphanum = true) (hmem : x ∈ cs) (hx : x.isAlphanum = false) :
    '_' ∈ snakeChars cs := by
  obtain ⟨front, rest, rfl⟩ := List.append_of_mem hmem
  obtain ⟨c, hc, hcalnum⟩ : ∃ c ∈ front, c.isAlphanum = true := by
    cases front with
    | nil => simp [hx] at hhead
    | cons c front => exact ⟨c, List.mem_cons_self, by simpa using hhead⟩
  obtain ⟨d, hd, hdalnum⟩ : ∃ d ∈ rest, d.isAlphanum = true := by
    rw [List.getLast?_append, List.getLast?_cons] at hlast
    cases hend : rest.getLast? with
    | none => simp [hend, hx] at hlast
    | some d => exact ⟨d, List.mem_of_getLast? hend, by simpa [hend] using hlast⟩
  exact underscore_mem_between hx hc hcalnum hd hdalnum

/-! ### Paths -/

/-- The segments of a dotted path; the empty path has none. -/
def segments (dotted : String) : List (List Char) :=
  if dotted = "" then [] else Text.splitOn '.' dotted.toList

theorem segments_append {dotted : String} (h : dotted ≠ "") (rest : String) :
    segments (dotted ++ "." ++ rest) = segments dotted ++ Text.splitOn '.' rest.toList := by
  have hchars : (dotted ++ "." ++ rest).toList = dotted.toList ++ '.' :: rest.toList := by simp
  have hne : dotted ++ "." ++ rest ≠ "" := by simp
  rw [segments, if_neg hne, hchars, Text.splitOn_append_cons, segments, if_neg h]

private theorem point_not_mem_snakeChars (cs : List Char) : '.' ∉ snakeChars cs :=
  fun h => absurd (isPlain_snakeChars cs '.' h) (by decide)

/-- The pieces of a namespace in snake case, without those that are empty. -/
theorem segments_modulePath (path : String) :
    segments (modulePath path) = ((splitAt isPathSeparator path.toList).map snakeChars).filter (!·.isEmpty) := by
  unfold segments modulePath joined
  rw [String.toList_ofList]
  have hparts : ∀ part ∈ ((splitAt isPathSeparator path.toList).map snakeChars).filter (!·.isEmpty),
      part ≠ [] ∧ '.' ∉ part := by
    intro part hpart
    obtain ⟨hmem, hne⟩ := List.mem_filter.1 hpart
    obtain ⟨piece, -, rfl⟩ := List.mem_map.1 hmem
    exact ⟨by simpa using hne, point_not_mem_snakeChars piece⟩
  generalize ((splitAt isPathSeparator path.toList).map snakeChars).filter (!·.isEmpty) = parts at hparts
  cases parts with
  | nil => rfl
  | cons part parts =>
    have hne : String.ofList (['.'].intercalate (part :: parts)) ≠ "" := by
      obtain ⟨c, part, rfl⟩ := List.exists_cons_of_ne_nil (hparts part List.mem_cons_self).1
      intro hempty
      have hchars := congrArg String.toList hempty
      rw [String.toList_ofList] at hchars
      cases parts <;> simp [List.intercalate_cons_cons] at hchars
    rw [if_neg hne, Text.splitOn_intercalate (by simp) fun p hp => (hparts p hp).2]

end CrudScaffold.Naming
