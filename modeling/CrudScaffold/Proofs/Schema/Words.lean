import CrudScaffold.Proofs.Identifier
import CrudScaffold.Proofs.Schema.Grammar
import CrudScaffold.Proofs.Schema.Split

/-!
# Reading the words of a schema

The readers of names, types and modifiers against the grammar.  The words that are read in any case are ASCII words
without `k`, so that each of their spellings is made of characters that identifiers have.
-/

namespace CrudScaffold

open Text (Blanks Padded Trimmed isBlank isIdentChar isIdentStart)

/-! ### Characters of words -/

theorem isBlank_of_isIdentChar {c : Char} (h : isIdentChar c = true) : isBlank c = false := by
  have := toNat_of_isIdentChar h
  simp only [isBlank, Bool.or_eq_false_iff, Bool.and_eq_false_iff, decide_eq_false_iff_not, beq_eq_false_iff_ne]
  omega

private theorem ne_of_isIdentChar {c d : Char} (h : isIdentChar c = true) (hd : isIdentChar d = false) : c ≠ d := by
  rintro rfl
  rw [h] at hd
  exact absurd hd (by decide)

theorem ordinary_of_isIdentChar {c : Char} (h : isIdentChar c = true) : Ordinary c where
  quote := by
    simp [isQuote, ne_of_isIdentChar h (d := '\'') (by decide), ne_of_isIdentChar h (d := '"') (by decide)]
  opening := ne_of_isIdentChar h (by decide)
  closing := ne_of_isIdentChar h (by decide)

theorem isSchemaSeparator_of_isIdentChar {c : Char} (h : isIdentChar c = true) : isSchemaSeparator c = false := by
  simp [isSchemaSeparator, ne_of_isIdentChar h (d := ',') (by decide), ne_of_isIdentChar h (d := ':') (by decide)]

theorem isSchemaSeparator_of_isBlank {c : Char} (h : isBlank c = true) : isSchemaSeparator c = false := by
  by_contra hs
  simp only [isSchemaSeparator, Bool.not_eq_false, Bool.or_eq_true, beq_iff_eq] at hs
  rcases hs with rfl | rfl <;> exact absurd h (by decide)

theorem trimmed_of_forall_isIdentChar {cs : List Char} (h : ∀ c ∈ cs, isIdentChar c = true) : Trimmed cs :=
  Text.trimmed_of_forall fun c hc => isBlank_of_isIdentChar (h c hc)

/-- Words are passed over at any depth. -/
theorem walk_of_isIdentChar {cs : List Char} (h : ∀ c ∈ cs, isIdentChar c = true) (d : Nat) :
    walk isSchemaSeparator ⟨none, d⟩ cs = some ⟨none, d⟩ :=
  walk_of_ordinary (fun c hc => ⟨ordinary_of_isIdentChar (h c hc), isSchemaSeparator_of_isIdentChar (h c hc)⟩) d

/-! ### Words in any case -/

/-- A word that has no spelling beyond ASCII. -/
private def isPlainWord (word : String) : Bool :=
  isIdentChars word.toList && word.toList.all fun c => decide (Text.IsAscii c) && c != 'k'

private theorem forall_isPlainLetter {word : String} (h : isPlainWord word = true) :
    ∀ c ∈ word.toList, Text.IsPlainLetter c := by
  intro c hc
  simp only [isPlainWord, Bool.and_eq_true, List.all_eq_true, decide_eq_true_eq, bne_iff_ne] at h
  exact h.2 c hc

/-- A spelling of a plain word is an identifier. -/
private theorem isIdentChars_of_inSomeCase {word : String} (hword : isPlainWord word = true) {cs : List Char}
    (h : InSomeCase word cs) : isIdentChars cs = true := by
  unfold InSomeCase at h
  have hplain : ∀ x ∈ Text.lower cs, Text.IsPlainLetter x := by
    rw [h]
    exact forall_isPlainLetter hword
  obtain ⟨-, hmap⟩ := Text.ascii_of_lower hplain
  rw [← isIdentChars_map_toLower, ← hmap, h]
  simp only [isPlainWord, Bool.and_eq_true] at hword
  exact hword.1

theorem isIdentChars_of_type {t : FieldType} {cs : List Char} (h : t.SpelledAs cs) : isIdentChars cs = true := by
  rcases h with h | ⟨other, hother, h⟩
  · have hword : ∀ t : FieldType, isPlainWord t.word = true := by intro t; cases t <;> decide
    exact isIdentChars_of_inSomeCase (hword t) h
  · have hword : ∀ e ∈ FieldType.aliases, isPlainWord e.1 = true := by decide
    exact isIdentChars_of_inSomeCase (hword _ hother) h

theorem isIdentChars_of_kind {k : ModifierKind} {cs : List Char} (h : InSomeCase k.word cs) :
    isIdentChars cs = true := by
  have hword : ∀ k : ModifierKind, isPlainWord k.word = true := by intro k; cases k <;> decide
  exact isIdentChars_of_inSomeCase (hword k) h

theorem isIdentChars_of_action {action : String} (ha : action ∈ deleteActions.map Prod.fst) {cs : List Char}
    (h : InSomeCase action cs) : isIdentChars cs = true := by
  have hword : ∀ a ∈ deleteActions.map Prod.fst, isPlainWord a = true := by decide
  exact isIdentChars_of_inSomeCase (hword action ha) h

theorem inSomeCase_iff {word : String} {cs : List Char} :
    InSomeCase word cs ↔ Text.lowercase (.ofList cs) = word := by
  unfold InSomeCase Text.lowercase
  rw [String.toList_ofList, ← String.toList_inj, String.toList_ofList]

/-! ### Types -/

theorem parseType_eq_ok_iff {cs : List Char} {t : FieldType} :
    Schema.parseType (.ofList cs) = .ok t ↔ t.SpelledAs cs := by
  have hword : ∀ t : FieldType, FieldType.aliases.lookup t.word = none ∧ FieldType.ofWord? t.word = some t := by
    intro t
    cases t <;> decide
  have hother : ∀ e ∈ FieldType.aliases, FieldType.aliases.lookup e.1 = some e.2 := by decide
  unfold Schema.parseType FieldType.SpelledAs
  simp only [inSomeCase_iff]
  generalize Text.lowercase (.ofList cs) = key
  constructor
  · intro h
    cases hl : FieldType.aliases.lookup key with
    | some u =>
      simp only [hl, Except.ok.injEq] at h
      subst h
      obtain ⟨before, after, he, -⟩ := List.lookup_eq_some_iff.1 hl
      exact Or.inr ⟨key, by simp [he], rfl⟩
    | none =>
      simp only [hl] at h
      cases hw : FieldType.ofWord? key with
      | none => simp [hw] at h
      | some u =>
        simp only [hw, Except.ok.injEq] at h
        subst h
        have hu : u.word = key := by simpa using List.find?_some hw
        exact Or.inl hu.symm
  · rintro (rfl | ⟨other, ho, rfl⟩)
    · simp [hword t]
    · simp [hother _ ho]

/-! ### Modifiers -/

theorem isReference_iff {cs : List Char} : Schema.isReference cs = true ↔ IsTarget cs := by
  have happend (table column : List Char) (ht : isIdentChars table = true) :
      (table ++ '.' :: column).takeWhile (· != '.') = table ∧
        (table ++ '.' :: column).dropWhile (· != '.') = '.' :: column := by
    have hne : ∀ c ∈ table, (c != '.') = true := fun c hc =>
      bne_iff_ne.2 (ne_of_isIdentChar (forall_isIdentChar ht c hc) (by decide))
    simp [List.takeWhile_append_of_pos hne, List.dropWhile_append_of_pos hne]
  unfold Schema.isReference IsTarget
  constructor
  · intro h
    have hsplit : cs.takeWhile (· != '.') ++ cs.dropWhile (· != '.') = cs := List.takeWhile_append_dropWhile
    cases hd : cs.dropWhile (· != '.') with
    | nil =>
      rw [hd, List.append_nil] at hsplit
      simp only [hd, hsplit] at h
      exact Or.inl h
    | cons c column =>
      simp only [hd, Bool.and_eq_true] at h
      have hc : c = '.' := by
        have := List.head?_dropWhile_not (· != '.') cs
        simpa [hd] using this
      rw [hd, hc] at hsplit
      exact Or.inr ⟨_, column, h.1, h.2, hsplit.symm⟩
  · rintro (h | ⟨table, column, ht, hcol, rfl⟩)
    · have hne : ∀ c ∈ cs, (c != '.') = true := fun c hc =>
        bne_iff_ne.2 (ne_of_isIdentChar (forall_isIdentChar h c hc) (by decide))
      have htake : cs.takeWhile (· != '.') = cs := List.takeWhile_eq_self_iff.2 hne
      have hdrop : cs.dropWhile (· != '.') = [] := List.dropWhile_eq_nil_iff.2 hne
      simp [htake, hdrop, h]
    · obtain ⟨htake, hdrop⟩ := happend table column ht
      simp [htake, hdrop, ht, hcol]

/-- A word, blanks, and in the second case a text that begins and ends with a parenthesis. -/
theorem rawModifier?_eq_some_iff {cs word : List Char} {argument : Option (List Char)} :
    Schema.rawModifier? cs = some ⟨.ofList word, argument⟩ ↔
      isIdentChars word = true ∧ ∃ gap, Blanks gap ∧
        cs = word ++ gap ++ argument.elim [] fun inside => '(' :: (inside ++ [')']) := by
  -- the word ends where its characters end, and the blanks end where they end
  have hread {word gap : List Char} (tail : List Char) (hw : isIdentChars word = true) (hgap : Blanks gap)
      (htail : ∀ c, tail.head? = some c → isBlank c = false ∧ isIdentChar c = false) :
      (word ++ gap ++ tail).takeWhile isIdentChar = word ∧
        ((word ++ gap ++ tail).dropWhile isIdentChar).dropWhile isBlank = tail := by
    have hrest : ∀ c, (gap ++ tail).head? = some c → isIdentChar c = false := by
      intro c hc
      cases gap with
      | nil => exact (htail c hc).2
      | cons b gap =>
        obtain rfl : b = c := by simpa using hc
        by_contra hident
        have := isBlank_of_isIdentChar (by simpa using hident)
        rw [hgap b (by simp)] at this
        exact absurd this (by decide)
    have htake : (gap ++ tail).takeWhile isIdentChar = [] := by
      cases h : gap ++ tail with
      | nil => rfl
      | cons c rest => rw [h] at hrest; simp [hrest c rfl]
    have hdrop : (gap ++ tail).dropWhile isIdentChar = gap ++ tail := by
      cases h : gap ++ tail with
      | nil => rfl
      | cons c rest => rw [h] at hrest; simp [hrest c rfl]
    have htrim : tail.dropWhile isBlank = tail := by
      cases tail with
      | nil => rfl
      | cons c rest => simp [(htail c rfl).1]
    rw [List.append_assoc, List.takeWhile_append_of_pos (forall_isIdentChar hw), htake,
      List.dropWhile_append_of_pos (forall_isIdentChar hw), hdrop, List.dropWhile_append_of_pos hgap, htrim]
    simp
  unfold Schema.rawModifier?
  constructor
  · intro h
    have hsplit : cs.takeWhile isIdentChar ++ cs.dropWhile isIdentChar = cs := List.takeWhile_append_dropWhile
    have hsplit' := List.takeWhile_append_dropWhile (p := isBlank) (l := cs.dropWhile isIdentChar)
    have hgap : Blanks ((cs.dropWhile isIdentChar).takeWhile isBlank) := fun c hc => List.mem_takeWhile_imp hc
    by_cases hw : isIdentChars (cs.takeWhile isIdentChar) = true
    · simp only [hw, Bool.not_true, Bool.false_eq_true, if_false] at h
      split at h
      next htail =>
        simp only [Option.some.injEq, Schema.RawModifier.mk.injEq, String.ofList_inj] at h
        obtain ⟨rfl, rfl⟩ := h
        refine ⟨hw, _, hgap, ?_⟩
        rw [htail, List.append_nil] at hsplit'
        simp [hsplit', hsplit]
      next rest htail =>
        split at h
        · rename_i hlast
          simp only [Option.some.injEq, Schema.RawModifier.mk.injEq, String.ofList_inj] at h
          obtain ⟨rfl, rfl⟩ := h
          refine ⟨hw, _, hgap, ?_⟩
          have hne : rest ≠ [] := by rintro rfl; simp at hlast
          have hrest : rest.dropLast ++ [')'] = rest := by
            rw [List.getLast?_eq_some_getLast hne, Option.some.injEq] at hlast
            rw [← hlast, List.dropLast_append_getLast]
          rw [htail] at hsplit'
          simp [hrest, hsplit', hsplit]
        · simp at h
      next => simp at h
    · simp [hw] at h
  · rintro ⟨hw, gap, hgap, rfl⟩
    cases argument with
    | none =>
      obtain ⟨htake, hdrop⟩ := hread [] hw hgap (by simp)
      simp only [Option.elim_none, htake, hdrop, hw]
      simp
    | some inside =>
      obtain ⟨htake, hdrop⟩ := hread ('(' :: (inside ++ [')'])) hw hgap (by simp; decide)
      simp only [Option.elim_some, htake, hdrop, hw]
      simp

end CrudScaffold
