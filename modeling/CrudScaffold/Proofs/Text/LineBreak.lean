import CrudScaffold.Proofs.Text.Affix

/-!
# Texts with other line ends

What is left of a text when every line end is read as a line feed.  No carriage return is left
(`not_mem_translated`), parts within lines are kept (`occursIn_translated`), and the number of bytes is kept unless a
line ends with both characters (`size_translated_eq_iff`).
-/

namespace CrudScaffold.Text

variable {part cs : List Char}

/-- A line end of two characters. -/
def doubleBreak : String := "\r\n"

theorem not_mem_withLineFeeds (cs : List Char) : '\r' ∉ withLineFeeds cs := by
  induction cs using withLineFeeds.induct with
  | case1 => simp [withLineFeeds]
  | case2 rest ih => simpa [withLineFeeds] using ih
  | case3 rest hrest ih => simpa [withLineFeeds] using ih
  | case4 c rest hdouble hc ih =>
    rw [withLineFeeds.eq_4 _ _ hdouble hc, List.mem_cons, not_or]
    exact ⟨fun h => hc h.symm, ih⟩

/-- With a carriage return in it a text does not stay what it was. -/
theorem not_mem_of_prefix_withLineFeeds {rest : List Char} (h : cs <+: withLineFeeds cs ++ rest) : '\r' ∉ cs := by
  intro hmem
  induction cs using withLineFeeds.induct with
  | case1 => cases hmem
  | case2 cs _ => simp [withLineFeeds] at h
  | case3 cs hcs _ => simp [withLineFeeds] at h
  | case4 c cs hdouble hc ih =>
    rw [withLineFeeds.eq_4 _ _ hdouble hc, List.cons_append, List.cons_prefix_cons] at h
    exact ih h.2 ((List.mem_cons.1 hmem).resolve_left fun hr => hc hr.symm)

/-! ### Parts within lines -/

private theorem prefix_withLineFeeds_iff (hr : '\r' ∉ part) (hn : '\n' ∉ part) :
    part <+: withLineFeeds cs ↔ part <+: cs := by
  induction part generalizing cs with
  | nil => simp
  | cons d part ih =>
    simp only [List.mem_cons, not_or] at hr hn
    cases cs using withLineFeeds.fun_cases with
    | case1 => rfl
    | case2 rest => simp [withLineFeeds, Ne.symm hr.1, Ne.symm hn.1]
    | case3 rest hrest => simp [withLineFeeds, Ne.symm hr.1, Ne.symm hn.1]
    | case4 c rest hdouble hc =>
      rw [withLineFeeds.eq_4 _ _ hdouble hc, List.cons_prefix_cons, List.cons_prefix_cons, ih hr.2 hn.2]

/-- A part without line ends is where it was. -/
theorem infix_withLineFeeds_iff (hr : '\r' ∉ part) (hn : '\n' ∉ part) :
    part <:+: withLineFeeds cs ↔ part <:+: cs := by
  cases part with
  | nil => simp
  | cons d part =>
    simp only [List.mem_cons, not_or] at hr hn
    have hreturn : d ∉ ['\r'] := by simpa using Ne.symm hr.1
    have hline : d ∉ ['\n'] := by simpa using Ne.symm hn.1
    have hdouble : d ∉ ['\r', '\n'] := by simpa using ⟨Ne.symm hr.1, Ne.symm hn.1⟩
    induction cs using withLineFeeds.induct with
    | case1 => rfl
    | case2 rest ih =>
      rw [withLineFeeds]
      exact (cons_infix_append_iff hline).trans (ih.trans (cons_infix_append_iff hdouble).symm)
    | case3 rest hrest ih =>
      rw [withLineFeeds.eq_3 _ hrest]
      exact (cons_infix_append_iff hline).trans (ih.trans (cons_infix_append_iff hreturn).symm)
    | case4 c rest hdouble hc ih =>
      have hfront : d :: part <+: withLineFeeds (c :: rest) ↔ d :: part <+: c :: rest :=
        prefix_withLineFeeds_iff (by simpa using hr) (by simpa using hn)
      rw [withLineFeeds.eq_4 _ _ hdouble hc] at hfront ⊢
      rw [List.infix_cons_iff, List.infix_cons_iff]
      exact or_congr hfront ih

/-! ### Bytes -/

private theorem size_cons (c : Char) (cs : List Char) :
    (String.ofList (c :: cs)).utf8ByteSize = c.utf8Size + (String.ofList cs).utf8ByteSize := by
  rw [String.ofList_cons, String.utf8ByteSize_append, String.utf8ByteSize_singleton]

/-- No bytes are added, and some are lost exactly if there is a line end of two characters. -/
private theorem size_withLineFeeds (cs : List Char) :
    (String.ofList (withLineFeeds cs)).utf8ByteSize ≤ (String.ofList cs).utf8ByteSize ∧
      ((String.ofList (withLineFeeds cs)).utf8ByteSize = (String.ofList cs).utf8ByteSize ↔
        ¬ doubleBreak.toList <:+: cs) := by
  have hreturn : '\r'.utf8Size = 1 := rfl
  have hline : '\n'.utf8Size = 1 := rfl
  induction cs using withLineFeeds.induct with
  | case1 => simp [withLineFeeds, doubleBreak]
  | case2 rest ih =>
    have hfound : doubleBreak.toList <:+: '\r' :: '\n' :: rest := ⟨[], rest, rfl⟩
    simp only [withLineFeeds, size_cons, hreturn, hline, hfound, not_true_eq_false, iff_false]
    omega
  | case3 rest hrest ih =>
    have hnone : ¬ doubleBreak.toList <+: '\r' :: rest := by
      rintro ⟨after, h⟩
      exact hrest after (List.cons.inj h).2.symm
    rw [withLineFeeds.eq_3 _ hrest, List.infix_cons_iff, or_iff_right hnone, size_cons, size_cons, hreturn, hline]
    rw [← ih.2]
    omega
  | case4 c rest hdouble hc ih =>
    have hnone : ¬ doubleBreak.toList <+: c :: rest := by
      intro h
      exact hc (List.cons_prefix_cons.1 h).1.symm
    rw [withLineFeeds.eq_4 _ _ hdouble hc, List.infix_cons_iff, or_iff_right hnone, size_cons, size_cons]
    rw [← ih.2]
    omega

/-! ### Whole texts -/

/-- A text as it is read. -/
def translated (s : String) : String := .ofList (withLineFeeds s.toList)

variable {s : String}

theorem not_mem_translated (s : String) : '\r' ∉ (translated s).toList := by
  rw [translated, String.toList_ofList]
  exact not_mem_withLineFeeds s.toList

theorem translated_of_not_mem (h : '\r' ∉ s.toList) : translated s = s := by
  rw [translated, withLineFeeds_of_not_mem h, String.ofList_toList]

theorem occursIn_translated {part : String} (hr : '\r' ∉ part.toList) (hn : '\n' ∉ part.toList) :
    occursIn part (translated s) = occursIn part s := by
  rw [Bool.eq_iff_iff, occursIn_iff, occursIn_iff, translated, String.toList_ofList]
  exact infix_withLineFeeds_iff hr hn

theorem size_translated_eq_iff :
    (translated s).utf8ByteSize = s.utf8ByteSize ↔ occursIn doubleBreak s = false := by
  have hsize := (size_withLineFeeds s.toList).2
  rw [String.ofList_toList] at hsize
  rw [Bool.eq_false_iff, Ne, occursIn_iff]
  exact hsize

end CrudScaffold.Text
