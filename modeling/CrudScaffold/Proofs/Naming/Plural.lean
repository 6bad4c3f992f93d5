import CrudScaffold.Proofs.Naming.Pascal
import CrudScaffold.Proofs.Text.Affix
import Mathlib.Data.List.TakeWhile

/-!
# Plurals, and plurals without their last letter

Only the last word of a name is put into the plural, and what stands before it is kept (`pluralChars_append_cons`).
The plural of an identifier is an identifier (`isIdentChars_plural`).  A plural without an `s` at its end is the
singular again only where the plural was made by adding an `s`, and only then does the name of a model come back from
its table (`pascal_withoutS_plural_iff`).
-/

namespace CrudScaffold.Naming

open Text (isIdentChar)

/-! ### The last word of a name -/

theorem splitLast_append (cs : List Char) : (splitLast cs).1 ++ (splitLast cs).2 = cs := by
  rw [splitLast, ← List.reverse_append, List.takeWhile_append_dropWhile, List.reverse_reverse]

theorem not_mem_splitLast (cs : List Char) : '_' ∉ (splitLast cs).2 := by
  intro h
  have := List.mem_takeWhile_imp (List.mem_reverse.1 h)
  simp at this

theorem splitLast_of_not_mem {cs : List Char} (h : '_' ∉ cs) : splitLast cs = ([], cs) := by
  have hpass : ∀ c ∈ cs.reverse, (c != '_') = true := fun c hc => by
    rw [bne_iff_ne]
    rintro rfl
    exact h (List.mem_reverse.1 hc)
  rw [splitLast, List.dropWhile_eq_nil_iff.2 hpass, List.takeWhile_eq_self_iff.2 hpass, List.reverse_reverse]
  rfl

/-- What stands in front of an underscore does not matter for the last word. -/
theorem splitLast_append_cons (front rest : List Char) :
    splitLast (front ++ '_' :: rest) = (front ++ '_' :: (splitLast rest).1, (splitLast rest).2) := by
  have htake (cs ds : List Char) : (cs ++ '_' :: ds).takeWhile (· != '_') = cs.takeWhile (· != '_') := by
    induction cs with
    | nil => rfl
    | cons c cs ih => rw [List.cons_append, List.takeWhile_cons, List.takeWhile_cons, ih]
  have hdrop (cs ds : List Char) : (cs ++ '_' :: ds).dropWhile (· != '_') = cs.dropWhile (· != '_') ++ '_' :: ds := by
    induction cs with
    | nil => rfl
    | cons c cs ih =>
      rw [List.cons_append, List.dropWhile_cons, List.dropWhile_cons, ih]
      split <;> rfl
  have hreverse : (front ++ '_' :: rest).reverse = rest.reverse ++ '_' :: front.reverse := by simp
  rw [splitLast, splitLast, hreverse, htake, hdrop]
  simp

theorem pluralChars_of_not_mem {last : List Char} (hne : last ≠ []) (hlast : '_' ∉ last) :
    pluralChars last = pluralWord last := by
  rw [pluralChars_eq, if_neg (by simpa using hne), splitLast_of_not_mem hlast, List.nil_append]

/-- What stands before the last word is kept, and the last word is put into the plural as by itself. -/
theorem pluralChars_append_cons (front : List Char) {last : List Char} (hne : last ≠ []) (hlast : '_' ∉ last) :
    pluralChars (front ++ '_' :: last) = front ++ '_' :: pluralChars last := by
  rw [pluralChars_of_not_mem hne hlast, pluralChars_eq, if_neg (by simp), splitLast_append_cons,
    splitLast_of_not_mem hlast, List.append_assoc, List.singleton_append]

/-- Of words that are joined by underscores only the last one is put into the plural. -/
theorem pluralChars_joined (front : List (List Char)) {last : List Char} (hne : last ≠ []) (hlast : '_' ∉ last) :
    pluralChars (joined ['_'] (front ++ [last])) = joined ['_'] (front ++ [pluralWord last]) := by
  rw [← pluralChars_of_not_mem hne hlast, joined, joined]
  by_cases hfront : front = []
  · rw [hfront, List.nil_append, List.nil_append, List.intercalate_singleton, List.intercalate_singleton]
  · rw [Text.intercalate_append _ hfront (by simp), Text.intercalate_append _ hfront (by simp),
      List.intercalate_singleton, List.intercalate_singleton, List.singleton_append, List.singleton_append,
      pluralChars_append_cons _ hne hlast]

/-- The plural of a name that ends with a word is the name with the plural of this word at its end. -/
theorem plural_append_word (head : String) {last : String} (hne : last ≠ "") (hlast : '_' ∉ last.toList) :
    plural (head ++ "_" ++ last) = head ++ "_" ++ plural last := by
  have hchars (word : String) : (head ++ "_" ++ word).toList = head.toList ++ '_' :: word.toList := by simp
  have hword : last.toList ≠ [] := fun hnil => hne (String.toList_inj.1 hnil)
  rw [← String.toList_inj, hchars, plural, plural, String.toList_ofList, String.toList_ofList, hchars,
    pluralChars_append_cons head.toList hword hlast]

/-- The name may have other underscores and letters beyond ASCII: the capital I with a dot has a lower-case form of two
characters, so that the word is shorter than the form that the rules look at. -/
theorem plural_append_word_of_wife :
    "İWife" ≠ "" ∧ '_' ∉ "İWife".toList ∧ plural ("_Σş_" ++ "_" ++ "İWife") = "_Σş__İWives" := by
  have hlast : '_' ∉ "İWife".toList := by decide
  refine ⟨by decide, hlast, ?_⟩
  rw [plural_append_word "_Σş_" (by decide) hlast]
  decide +kernel

/-! ### Plurals of identifiers -/

private theorem isIdentChars_pluralWord {word : List Char} (h : isIdentChars word = true) :
    isIdentChars (pluralWord word) = true := by
  have hirregular : ∀ e ∈ irregularPlurals,
      isIdentChars e.2.toList = true ∧ isIdentChars (Text.upperFirst e.2.toList) = true := by decide
  have hadded : ∀ rule ∈ pluralRules, rule.added.toList.all isIdentChar = true ∧
      (rule.dropped = 0 ∨ isIdentChars rule.added.toList = true) := by decide
  rcases pluralWord_cases word with ⟨e, he, -, hplural⟩ | ⟨rule, hrule, -, hplural⟩
  · rw [hplural]
    split
    · exact (hirregular e he).2
    · exact (hirregular e he).1
  · obtain ⟨hplain, hfirst⟩ := hadded rule hrule
    rw [hplural]
    -- something is left of the word, or what is added begins the plural
    by_cases hkept : word.take (word.length - rule.dropped) = []
    · rw [hkept]
      refine hfirst.resolve_left fun hzero => ?_
      rw [hzero, Nat.sub_zero, List.take_length] at hkept
      exact ne_nil_of_isIdentChars h hkept
    · rw [← List.take_append_drop (word.length - rule.dropped) word, isIdentChars_append_iff hkept] at h
      exact (isIdentChars_append_iff hkept).2 ⟨h.1, List.all_eq_true.1 hplain⟩

theorem isIdentChars_plural {name : String} (h : isIdentChars name.toList = true) :
    isIdentChars (plural name).toList = true := by
  have hne := ne_nil_of_isIdentChars h
  have hplain := isPlain_plural (forall_isIdentChar h)
  have hsplit := splitLast_append name.toList
  rw [plural, String.toList_ofList, pluralChars_eq, if_neg (by simpa using hne)] at hplain ⊢
  by_cases hfront : (splitLast name.toList).1 = []
  · rw [hfront, List.nil_append] at hsplit ⊢
    rw [hsplit]
    exact isIdentChars_pluralWord h
  · rw [← hsplit, isIdentChars_append_iff hfront] at h
    exact (isIdentChars_append_iff hfront).2 ⟨h.1, fun c hc => hplain c (List.mem_append_right _ hc)⟩

/-! ### Without an `s` at the end -/

/-- A name without the `s` at its end, if it ends so. -/
def withoutS (name : String) : String :=
  if Text.endsWith "s" name then .ofList name.toList.dropLast else name

private def withoutSChars (cs : List Char) : List Char :=
  if cs.getLast? = some 's' then cs.dropLast else cs

private theorem toList_withoutS (name : String) : (withoutS name).toList = withoutSChars name.toList := by
  have hends : Text.endsWith "s" name = true ↔ name.toList.getLast? = some 's' := Text.endsWith_iff_getLast? rfl
  rw [withoutS, withoutSChars]
  simp only [hends]
  split
  · exact String.toList_ofList
  · rfl

private theorem withoutSChars_append (xs : List Char) {ys : List Char} (h : ys ≠ []) :
    withoutSChars (xs ++ ys) = xs ++ withoutSChars ys := by
  have hlast : (xs ++ ys).getLast? = ys.getLast? := by
    rw [List.getLast?_append, List.getLast?_eq_some_getLast h, Option.some_or]
  rw [withoutSChars, withoutSChars, hlast]
  split
  · exact List.dropLast_append_of_ne_nil h
  · rfl

theorem withoutS_append_s (name : String) : withoutS (name ++ "s") = name := by
  have hs : withoutSChars "s".toList = [] := rfl
  rw [← String.toList_inj, toList_withoutS, String.toList_append, withoutSChars_append _ (by decide), hs,
    List.append_nil]

/-- The ends of small words, each with what stands for it in the plural. -/
def pluralEndings : List (List Char × List Char) :=
  irregularPlurals.map (fun e => (e.1.toList, e.2.toList)) ++
    pluralRules.map fun rule => (rule.ending.toList,
      rule.ending.toList.take (rule.ending.toList.length - rule.dropped) ++ rule.added.toList)

/-- The plural of a small word has another end, and what stands before it is kept. -/
private theorem pluralWord_of_small {word : List Char} (h : ∀ c ∈ word, c.isAlphanum = true ∧ c.isUpper = false) :
    ∃ kept, ∃ e ∈ pluralEndings, word = kept ++ e.1 ∧ pluralWord word = kept ++ e.2 := by
  have hlower : Text.lower word = word := by
    rw [lower_of_isIdentChar fun c hc => by simp [isIdentChar, (h c hc).1]]
    exact Text.map_toLower_eq_self_iff.2 fun c hc => (h c hc).2
  have hdropped : ∀ rule ∈ pluralRules, rule.dropped ≤ rule.ending.toList.length := by decide
  rcases pluralWord_cases word with ⟨e, he, hword, hplural⟩ | ⟨rule, hrule, hending, hplural⟩
  · rw [hlower] at hword
    have hhead : ¬ word.head?.any Char.isUpper = true := by
      rw [Option.any_eq_true]
      rintro ⟨c, hc, hupper⟩
      rw [(h c (List.mem_of_head? hc)).2] at hupper
      cases hupper
    rw [if_neg hhead] at hplural
    exact ⟨[], _, List.mem_append_left _ (List.mem_map_of_mem he), hword, hplural⟩
  · rw [hlower] at hending
    obtain ⟨kept, rfl⟩ := hending
    refine ⟨kept, _, List.mem_append_right _ (List.mem_map_of_mem hrule), rfl, ?_⟩
    have := hdropped rule hrule
    rw [hplural, List.length_append, List.take_append, ← List.append_assoc, List.take_of_length_le (by omega)]
    congr 3
    omega

/-- The singular comes back exactly where the plural was made by adding an `s`. -/
private theorem withoutSChars_pluralWord_iff {word : List Char}
    (h : ∀ c ∈ word, c.isAlphanum = true ∧ c.isUpper = false) :
    withoutSChars (pluralWord word) = word ↔ pluralWord word = word ++ ['s'] := by
  have hends : ∀ e ∈ pluralEndings, e.2 ≠ [] ∧ (withoutSChars e.2 = e.1 ↔ e.2 = e.1 ++ ['s']) := by decide
  obtain ⟨kept, e, he, rfl, hplural⟩ := pluralWord_of_small h
  obtain ⟨hne, hsame⟩ := hends e he
  rw [hplural, withoutSChars_append kept hne, List.append_cancel_left_eq, List.append_assoc,
    List.append_cancel_left_eq, hsame]

/-- The plural of a small word is not empty, and its characters are letters and digits that are no capitals. -/
theorem pluralWord_small {word : List Char} (h : ∀ c ∈ word, c.isAlphanum = true ∧ c.isUpper = false) :
    pluralWord word ≠ [] ∧ ∀ c ∈ pluralWord word, c.isAlphanum = true ∧ c.isUpper = false := by
  have hends : ∀ e ∈ pluralEndings, e.2 ≠ [] ∧ e.2.all (fun c => c.isAlphanum && !c.isUpper) = true := by decide
  obtain ⟨kept, e, he, rfl, hplural⟩ := pluralWord_of_small h
  obtain ⟨hne, hsmall⟩ := hends e he
  rw [hplural]
  refine ⟨List.append_ne_nil_of_right_ne_nil kept hne, fun c hc => ?_⟩
  rcases List.mem_append.1 hc with hc | hc
  · exact h c (List.mem_append_left _ hc)
  · simpa using List.all_eq_true.1 hsmall c hc

/-! ### Names of models and of their tables -/

private theorem of_mem_withoutSChars {cs : List Char} {c : Char} (h : c ∈ withoutSChars cs) : c ∈ cs := by
  unfold withoutSChars at h
  split at h
  · exact List.dropLast_subset cs h
  · exact h

theorem isAlphanum_of_mem_pascal {name : String} {c : Char} (h : c ∈ (pascal name).toList) :
    c.isAlphanum = true := by
  have hmem := List.mem_map_of_mem (f := Char.toLower) h
  rw [map_toLower_pascal] at hmem
  obtain ⟨d, hd, hcase⟩ := List.mem_map.1 hmem
  rw [← Text.isAlphanum_toLower, ← hcase, Text.isAlphanum_toLower]
  exact (List.mem_filter.1 hd).2

/-- A name without capitals has the letters and digits of the snake-case form that its pascal case has. -/
private theorem filter_snake_pascal {name : String} (h : ∀ c ∈ name.toList, c.isUpper = false) :
    (snake (pascal name)).toList.filter Char.isAlphanum = name.toList.filter Char.isAlphanum := by
  have hpascal : (pascal name).toList.filter Char.isAlphanum = (pascal name).toList :=
    List.filter_eq_self.2 fun c hc => isAlphanum_of_mem_pascal hc
  calc (snake (pascal name)).toList.filter Char.isAlphanum
      = (pascal name).toList.map Char.toLower := by
        rw [snake, String.toList_ofList, filter_snakeChars, hpascal]
    _ = (name.toList.filter Char.isAlphanum).map Char.toLower := map_toLower_pascal name
    _ = name.toList.filter Char.isAlphanum :=
        Text.map_toLower_eq_self_iff.2 fun c hc => h c (List.mem_filter.1 hc).1

/-- A snake-case name and its plural differ in their last words only. -/
private theorem exists_plural_snake {name : String} (hne : snake name ≠ "") : ∃ front word,
    (snake name).toList = front ++ word ∧ (∀ c ∈ word, c.isAlphanum = true ∧ c.isUpper = false) ∧
      (plural (snake name)).toList = front ++ pluralWord word := by
  have hchars : (snake name).toList ≠ [] := fun hnil => hne (String.toList_inj.1 hnil)
  have hsplit := splitLast_append (snake name).toList
  refine ⟨_, _, hsplit.symm, fun c hc => ?_, ?_⟩
  · have hmem : c ∈ (snake name).toList := hsplit ▸ List.mem_append_right _ hc
    have hunderscore : c ≠ '_' := by
      rintro rfl
      exact not_mem_splitLast _ hc
    exact ⟨by simpa [isIdentChar, hunderscore] using isPlain_snake name c hmem, isUpper_of_mem_snake hmem⟩
  · rw [plural, String.toList_ofList, pluralChars_eq, if_neg (by simpa using hchars)]

/-- The name of a model comes back from its table exactly if it is in pascal case and the table is called after it with
an `s`. -/
theorem pascal_withoutS_plural_iff {name : String} (hne : snake name ≠ "") :
    pascal (withoutS (plural (snake name))) = name ↔
      IsPascal name.toList ∧ plural (snake name) = snake name ++ "s" := by
  constructor
  · intro h
    suffices hs : plural (snake name) = snake name ++ "s" by
      rw [hs, withoutS_append_s] at h
      exact ⟨pascal_snake_eq_iff.1 h, hs⟩
    obtain ⟨front, word, hsnake, hword, hplural⟩ := exists_plural_snake hne
    obtain ⟨hpluralNe, hpluralWord⟩ := pluralWord_small hword
    have hsingular : (withoutS (plural (snake name))).toList = front ++ withoutSChars (pluralWord word) := by
      rw [toList_withoutS, hplural, withoutSChars_append front hpluralNe]
    have hsmall : ∀ c ∈ (withoutS (plural (snake name))).toList, c.isUpper = false := by
      intro c hc
      rcases List.mem_append.1 (hsingular ▸ hc) with hc | hc
      · exact isUpper_of_mem_snake (hsnake ▸ List.mem_append_left word hc)
      · exact (hpluralWord c (of_mem_withoutSChars hc)).2
    -- the last words have the same letters and digits, and consist of them
    have hletters := filter_snake_pascal hsmall
    rw [h, hsnake, hsingular, List.filter_append, List.filter_append, List.append_cancel_left_eq,
      List.filter_eq_self.2 fun c hc => (hword c hc).1,
      List.filter_eq_self.2 fun c hc => (hpluralWord c (of_mem_withoutSChars hc)).1] at hletters
    rw [← String.toList_inj, String.toList_append, hplural, hsnake,
      (withoutSChars_pluralWord_iff hword).1 hletters.symm, List.append_assoc]
    rfl
  · rintro ⟨hpascal, hs⟩
    rw [hs, withoutS_append_s]
    exact pascal_snake_eq_iff.2 hpascal

end CrudScaffold.Naming
