import CrudScaffold.Naming
import CrudScaffold.Proofs.Text.Lower

/-!
# Characters of names

Words, snake-case names and plurals are made of the characters that identifiers have, and a name with a letter or
digit at its front has a word.  The rules for plurals change the end of a whole name, but no more of it than its last
word (`pluralAfter_eq`).
-/

namespace CrudScaffold.Naming

open Text (isIdentChar)

/-- Only characters of identifiers. -/
def IsPlain (cs : List Char) : Prop := ∀ c ∈ cs, isIdentChar c = true

theorem isPlain_of_all {cs : List Char} (h : cs.all isIdentChar = true) : IsPlain cs :=
  List.all_eq_true.1 h

theorem IsPlain.append {xs ys : List Char} (hx : IsPlain xs) (hy : IsPlain ys) : IsPlain (xs ++ ys) := by
  intro c hc
  rcases List.mem_append.1 hc with hc | hc
  · exact hx c hc
  · exact hy c hc

/-! ### Words -/

private theorem isPlain_of_pieces {cs piece : List Char} (h : piece ∈ pieces cs) : IsPlain piece := by
  induction cs generalizing piece with
  | nil =>
    rw [pieces, List.mem_singleton] at h
    simp [h, IsPlain]
  | cons c rest ih =>
    unfold pieces at h
    by_cases hc : c.isAlphanum = true
    · have hplain : isIdentChar c = true := by simp [isIdentChar, hc]
      have hcons {piece : List Char} (hp : IsPlain piece) : IsPlain (c :: piece) := by
        simpa [IsPlain, hplain] using hp
      simp only [hc, Bool.not_true, Bool.false_eq_true, if_false] at h
      split at h
      · rcases List.mem_cons.1 h with rfl | h
        · exact hcons (by simp [IsPlain])
        · exact ih h
      · cases hp : pieces rest with
        | nil =>
          rw [hp, List.mem_singleton] at h
          exact h ▸ hcons (by simp [IsPlain])
        | cons first others =>
          rw [hp] at h ih
          rcases List.mem_cons.1 h with rfl | h
          · exact hcons (ih (by simp))
          · exact ih (by simp [h])
    · simp only [hc, Bool.not_false, if_true] at h
      rcases List.mem_cons.1 h with rfl | h
      · simp [IsPlain]
      · exact ih h

theorem isPlain_of_words {cs word : List Char} (h : word ∈ words cs) : IsPlain word ∧ word ≠ [] := by
  simp only [words, List.mem_map, List.mem_filter] at h
  obtain ⟨piece, ⟨hpiece, hne⟩, rfl⟩ := h
  constructor
  · intro c hc
    obtain ⟨d, hd, rfl⟩ := List.mem_map.1 hc
    rw [Text.isIdentChar_toLower]
    exact isPlain_of_pieces hpiece d hd
  · simpa using hne

/-- A name that begins with a letter or a digit has a word. -/
theorem words_ne_nil {c : Char} (hc : c.isAlphanum = true) (rest : List Char) : words (c :: rest) ≠ [] := by
  have hpiece : ∃ piece ∈ pieces (c :: rest), piece ≠ [] := by
    unfold pieces
    simp only [hc, Bool.not_true, Bool.false_eq_true, if_false]
    split
    · exact ⟨[c], by simp, by simp⟩
    · cases pieces rest with
      | nil => exact ⟨[c], by simp, by simp⟩
      | cons first others => exact ⟨c :: first, by simp, by simp⟩
  obtain ⟨piece, hmem, hne⟩ := hpiece
  refine List.ne_nil_of_mem (a := piece.map Char.toLower) ?_
  simp only [words, List.mem_map, List.mem_filter]
  exact ⟨piece, ⟨hmem, by simpa using hne⟩, rfl⟩

/-- Joining adds no characters but those of the separator. -/
theorem mem_joined {separator : List Char} {parts : List (List Char)} {c : Char} (h : c ∈ joined separator parts) :
    c ∈ separator ∨ ∃ part ∈ parts, c ∈ part := by
  unfold joined at h
  induction parts with
  | nil => simp at h
  | cons part parts ih =>
    cases parts with
    | nil => exact Or.inr ⟨part, by simp, by simpa using h⟩
    | cons other parts =>
      rw [List.intercalate_cons_cons, List.append_assoc, List.mem_append, List.mem_append] at h
      rcases h with h | h | h
      · exact Or.inr ⟨part, by simp, h⟩
      · exact Or.inl h
      · rcases ih h with h | ⟨found, hmem, h⟩
        · exact Or.inl h
        · exact Or.inr ⟨found, List.mem_cons_of_mem _ hmem, h⟩

theorem isPlain_snakeChars (cs : List Char) : IsPlain (snakeChars cs) := by
  intro c hc
  rcases mem_joined hc with hc | ⟨word, hword, hc⟩
  · rw [List.mem_singleton.1 hc]
    decide
  · exact (isPlain_of_words hword).1 c hc

theorem isPlain_snake (name : String) : IsPlain (snake name).toList := by
  rw [snake, String.toList_ofList]
  exact isPlain_snakeChars _

theorem snakeChars_ne_nil {c : Char} (hc : c.isAlphanum = true) (rest : List Char) :
    snakeChars (c :: rest) ≠ [] := by
  have hne := words_ne_nil hc rest
  have hword := fun word (h : word ∈ words (c :: rest)) => (isPlain_of_words h).2
  unfold snakeChars joined
  cases hw : words (c :: rest) with
  | nil => exact absurd hw hne
  | cons word others =>
    have := hword word (by simp [hw])
    cases others <;> simp [this]

/-! ### Plurals -/

/-- What a word ends with in lower case, how many of its characters are taken off, and what is added. -/
structure PluralRule where
  ending : String
  dropped : Nat
  added : String
  deriving DecidableEq

def pluralRules : List PluralRule :=
  [⟨"", 0, "es"⟩, ⟨"s", 0, ""⟩, ⟨"y", 1, "ies"⟩, ⟨"fe", 2, "ves"⟩, ⟨"f", 1, "ves"⟩, ⟨"", 0, "s"⟩]

/-- The plural of a word that is a name of its own. -/
def pluralWord (word : List Char) : List Char :=
  pluralAfter [] word

/-- A plural is one of the irregular ones, or is made by one of the rules. -/
theorem pluralWord_cases (word : List Char) :
    (∃ e ∈ irregularPlurals, Text.lower word = e.1.toList ∧
      pluralWord word = if word.head?.any Char.isUpper then Text.upperFirst e.2.toList else e.2.toList) ∨
    ∃ rule ∈ pluralRules, rule.ending.toList <:+ Text.lower word ∧
      pluralWord word = word.take (word.length - rule.dropped) ++ rule.added.toList := by
  have hwhole : word.take (word.length - 0) = word := by rw [Nat.sub_zero, List.take_length]
  have hone : word.take (word.length - 1) = word.dropLast := List.dropLast_eq_take.symm
  have htwo : word.take (word.length - 2) = word.dropLast.dropLast := by
    rw [List.dropLast_eq_take, List.dropLast_eq_take, List.take_take, List.length_take]
    congr 1
    omega
  unfold pluralWord pluralAfter
  simp only [List.nil_append]
  cases hl : irregularPlurals.lookup (String.ofList (Text.lower word)) with
  | some plural =>
    obtain ⟨before, after, he, -⟩ := List.lookup_eq_some_iff.1 hl
    exact Or.inl ⟨(String.ofList (Text.lower word), plural), by simp [he], String.toList_ofList.symm, rfl⟩
  | none =>
    right
    simp only
    split
    · exact ⟨⟨"", 0, "es"⟩, by decide, List.nil_suffix, by rw [hwhole]; rfl⟩
    split
    · rename_i hs
      exact ⟨⟨"s", 0, ""⟩, by decide, List.isSuffixOf_iff_suffix.1 hs, by rw [hwhole]; exact (List.append_nil _).symm⟩
    split
    · rename_i hy
      exact ⟨⟨"y", 1, "ies"⟩, by decide, List.isSuffixOf_iff_suffix.1 (Bool.and_eq_true_iff.1 hy).1, by rw [hone]; rfl⟩
    split
    · rename_i hfe
      exact ⟨⟨"fe", 2, "ves"⟩, by decide, List.isSuffixOf_iff_suffix.1 hfe, by rw [htwo]; rfl⟩
    split
    · rename_i hf
      exact ⟨⟨"f", 1, "ves"⟩, by decide, List.isSuffixOf_iff_suffix.1 (Bool.and_eq_true_iff.1 hf).1, by rw [hone]; rfl⟩
    split
    · exact ⟨⟨"", 0, "es"⟩, by decide, List.nil_suffix, by rw [hwhole]; rfl⟩
    · exact ⟨⟨"", 0, "s"⟩, by decide, List.nil_suffix, by rw [hwhole]; rfl⟩

/-- The end of a word that a rule goes by is an end of the whole name, so nothing is taken from what stands before. -/
theorem pluralAfter_eq (front word : List Char) : pluralAfter front word = front ++ pluralWord word := by
  have hlength {tail : String} (hascii : tail.toList.all (fun c => decide (Text.IsAscii c)) = true)
      (h : tail.toList.isSuffixOf (Text.lower word) = true) : tail.toList.length ≤ word.length :=
    Text.length_le_of_suffix_lower (fun c hc => of_decide_eq_true (List.all_eq_true.1 hascii c hc))
      (List.isSuffixOf_iff_suffix.1 h)
  have hone (h : 1 ≤ word.length) : (front ++ word).dropLast = front ++ word.dropLast :=
    List.dropLast_append_of_ne_nil (List.ne_nil_of_length_pos h)
  unfold pluralWord pluralAfter
  simp only [List.nil_append]
  cases irregularPlurals.lookup (String.ofList (Text.lower word)) with
  | some plural => rfl
  | none =>
    simp only
    split
    · exact List.append_assoc ..
    split
    · rfl
    split
    · rename_i hy
      have hword := hlength (by decide) (Bool.and_eq_true_iff.1 hy).1
      rw [hone hword, List.append_assoc]
    split
    · rename_i hfe
      have hword : 2 ≤ word.length := hlength (by decide) hfe
      have hrest : 1 ≤ word.dropLast.length := by
        rw [List.length_dropLast]
        omega
      rw [hone (Nat.le_of_succ_le hword), List.dropLast_append_of_ne_nil (List.ne_nil_of_length_pos hrest),
        List.append_assoc]
    split
    · rename_i hf
      have hword := hlength (by decide) (Bool.and_eq_true_iff.1 hf).1
      rw [hone hword, List.append_assoc]
    split
    · exact List.append_assoc ..
    · exact List.append_assoc ..

/-- The plural of a name is that of its last word, behind what stands before it. -/
theorem pluralChars_eq (cs : List Char) :
    pluralChars cs = if cs.isEmpty then [] else (splitLast cs).1 ++ pluralWord (splitLast cs).2 := by
  rw [pluralChars, pluralAfter_eq]

theorem isPlain_pluralWord {word : List Char} (h : IsPlain word) : IsPlain (pluralWord word) := by
  have hirregular : ∀ e ∈ irregularPlurals,
      (e.2.toList.all isIdentChar && (Text.upperFirst e.2.toList).all isIdentChar) = true := by decide
  have hadded : ∀ rule ∈ pluralRules, rule.added.toList.all isIdentChar = true := by decide
  rcases pluralWord_cases word with ⟨e, he, -, hplural⟩ | ⟨rule, hrule, -, hplural⟩
  · obtain ⟨hplain, hcapital⟩ := Bool.and_eq_true_iff.1 (hirregular e he)
    rw [hplural]
    split
    · exact isPlain_of_all hcapital
    · exact isPlain_of_all hplain
  · rw [hplural]
    exact IsPlain.append (fun c hc => h c (List.mem_of_mem_take hc)) (isPlain_of_all (hadded rule hrule))

theorem isPlain_pluralChars {cs : List Char} (h : IsPlain cs) : IsPlain (pluralChars cs) := by
  rw [pluralChars_eq]
  split
  · simp [IsPlain]
  · refine IsPlain.append ?_ (isPlain_pluralWord ?_)
    · intro c hc
      simp only [splitLast, List.mem_reverse] at hc
      exact h c (List.mem_reverse.1 (List.dropWhile_subset _ hc))
    · intro c hc
      simp only [splitLast, List.mem_reverse] at hc
      exact h c (List.mem_reverse.1 (List.takeWhile_subset _ hc))

theorem isPlain_plural {name : String} (h : IsPlain name.toList) : IsPlain (plural name).toList := by
  rw [plural, String.toList_ofList]
  exact isPlain_pluralChars h

/-! ### Module paths -/

/-- The path of a module is made of characters of identifiers and points. -/
theorem modulePath_chars {path : String} {c : Char} (h : c ∈ (modulePath path).toList) :
    c = '.' ∨ isIdentChar c = true := by
  rw [modulePath, String.toList_ofList] at h
  rcases mem_joined h with h | ⟨segment, hsegment, h⟩
  · exact Or.inl (List.mem_singleton.1 h)
  · rw [List.mem_filter, List.mem_map] at hsegment
    obtain ⟨⟨piece, -, rfl⟩, -⟩ := hsegment
    exact Or.inr (isPlain_snakeChars piece c h)

end CrudScaffold.Naming
