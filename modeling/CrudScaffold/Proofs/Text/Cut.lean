import CrudScaffold.Proofs.Text.Affix

/-!
# Cut texts

Where a text is cut at another one: at the first place where that one stands (`cut?_word`), and, for texts that are
joined by commas, behind each of them (`splitOn_comma`).
-/

namespace CrudScaffold.Text

/-- What stands in front of the first occurrence of `part`, and what follows it. -/
def cut? (part : List Char) : List Char → Option (List Char × List Char)
  | [] => if part.isEmpty then some ([], []) else none
  | c :: rest =>
    if part.isPrefixOf (c :: rest) then some ([], (c :: rest).drop part.length)
    else (cut? part rest).map fun p => (c :: p.1, p.2)

/-- A text is cut at the part if no occurrence begins earlier. -/
theorem cut?_append {part before after : List Char} (hpart : part ≠ [])
    (h : ∀ tail, tail ≠ [] → tail <:+ before → ¬ part <+: tail ++ (part ++ after)) :
    cut? part (before ++ (part ++ after)) = some (before, after) := by
  induction before with
  | nil =>
    obtain ⟨c, cs, rfl⟩ := List.exists_cons_of_ne_nil hpart
    have hfront : (c :: cs).isPrefixOf (c :: (cs ++ after)) = true :=
      List.isPrefixOf_iff_prefix.2 (List.prefix_append (c :: cs) after)
    rw [List.nil_append, List.cons_append, cut?, if_pos hfront, ← List.cons_append, List.drop_left]
  | cons c before ih =>
    have hfront : ¬ part.isPrefixOf (c :: (before ++ (part ++ after))) = true := fun hstart =>
      h (c :: before) (List.cons_ne_nil _ _) (List.suffix_refl _) (List.isPrefixOf_iff_prefix.1 hstart)
    have hrest := ih fun tail hne htail => h tail hne (htail.trans (List.suffix_cons c before))
    rw [List.cons_append, cut?, if_neg hfront, hrest]
    rfl

/-- A word that the text in front of a blank begins with is a word of that text. -/
private theorem mem_splitOn_of_isPrefix {word front rest : List Char} (hblank : ' ' ∉ word)
    (h : word ++ [' '] <+: front ++ ' ' :: rest) : word ∈ splitOn ' ' front := by
  obtain ⟨others, hothers⟩ := h
  have hpieces := congrArg (splitOn ' ') hothers
  rw [List.append_assoc, List.singleton_append, splitOn_append_cons, splitOn_append_cons, splitOn_of_not_mem hblank,
    List.singleton_append] at hpieces
  obtain ⟨piece, pieces, hfront⟩ := List.exists_cons_of_ne_nil (splitOn_ne_nil (c := ' ') front)
  rw [hfront, List.cons_append] at hpieces
  rw [hfront, (List.cons.inj hpieces).1]
  exact List.mem_cons_self

/-- A word between blanks is found behind a text that does not have it as a word of its own. -/
theorem cut?_word {word before after : List Char} (hblank : ' ' ∉ word) (h : word ∉ splitOn ' ' before) :
    cut? (' ' :: (word ++ [' '])) (before ++ ' ' :: (word ++ ' ' :: after)) = some (before, after) := by
  have htext : ' ' :: (word ++ ' ' :: after) = ' ' :: (word ++ [' ']) ++ after := by simp
  rw [htext]
  refine cut?_append (List.cons_ne_nil _ _) fun tail hne htail hstart => h ?_
  obtain ⟨c, tail, rfl⟩ := List.exists_cons_of_ne_nil hne
  rw [List.cons_append, List.cons_prefix_cons] at hstart
  obtain ⟨rfl, hword⟩ := hstart
  obtain ⟨front, rfl⟩ := htail
  rw [splitOn_append_cons]
  exact List.mem_append_right _ (mem_splitOn_of_isPrefix hblank hword)

/-- Texts that are joined by a comma and a blank; the blanks are left in front of all but the first. -/
theorem splitOn_comma {first : List Char} {others : List (List Char)} (h : ∀ part ∈ first :: others, ',' ∉ part) :
    splitOn ',' ([',', ' '].intercalate (first :: others)) = first :: others.map (' ' :: ·) := by
  induction others generalizing first with
  | nil => rw [List.intercalate_singleton, splitOn_of_not_mem (h first List.mem_cons_self), List.map_nil]
  | cons second others ih =>
    rw [List.forall_mem_cons] at h
    have hrest := ih h.2
    have hblank : splitOn ',' (' ' :: [',', ' '].intercalate (second :: others)) =
        (' ' :: second) :: others.map (' ' :: ·) := by
      rw [splitOn, if_neg (by decide), hrest]
    rw [List.intercalate_cons_cons, List.append_assoc, List.cons_append, List.singleton_append, splitOn_append_cons,
      splitOn_of_not_mem h.1, hblank]
    rfl

end CrudScaffold.Text
