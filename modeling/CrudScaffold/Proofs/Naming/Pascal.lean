import CrudScaffold.Proofs.Identifier
import CrudScaffold.Proofs.Naming
import Mathlib.Data.List.Flatten

/-!
# Names in pascal case

A name in pascal case has the letters and digits of the name that it was made from, in other cases, so it is an
identifier when the first of them is a letter (`isIdentChars_pascal`).  Words that are joined by underscores are found
again (`words_joined`), and so is a word with a capital in front of another one (`words_cons_append`).  A name is what
its snake-case form becomes in pascal case exactly when every capital in it begins a word and nothing stands between the
words (`pascal_snake_eq_iff`).
-/

namespace CrudScaffold.Naming

open Text (isIdentChar isIdentStart)

/-! ### Pieces -/

/-- Behind a letter or a digit a word starts with a capital; behind another capital only if a small letter follows. -/
theorem startsWord_iff {before c : Char} {after : Option Char} (h : before.isAlphanum = true) :
    startsWord before c after = true ↔
      c.isUpper = true ∧ (before.isUpper = true → after.any Char.isLower = true) := by
  have hupper : before.isUpper = true → before.isLower = false ∧ before.isDigit = false := fun hb =>
    ⟨Text.isLower_of_isUpper hb, Text.isDigit_of_isUpper hb⟩
  unfold Char.isAlphanum Char.isAlpha at h
  simp only [Bool.or_eq_true] at h
  simp only [startsWord, Bool.and_eq_true, Bool.or_eq_true]
  grind

/-- Whether a word ends with `c`, behind which stands `rest`. -/
private def endsWord (c : Char) (rest : List Char) : Bool :=
  rest.head?.any fun d => startsWord c d rest.tail.head?

private theorem pieces_ne_nil (cs : List Char) : pieces cs ≠ [] := by
  cases cs with
  | nil => simp [pieces]
  | cons c rest =>
    unfold pieces
    dsimp only
    split
    · simp
    · split
      · simp
      · split <;> simp

/-- The pieces of a text from those of the text without its first character. -/
private theorem pieces_cons (c : Char) (rest : List Char) : ∃ piece others, pieces rest = piece :: others ∧
    pieces (c :: rest) =
      if !c.isAlphanum then [] :: piece :: others
      else if endsWord c rest then [c] :: piece :: others
      else (c :: piece) :: others := by
  obtain ⟨piece, others, hrest⟩ := List.exists_cons_of_ne_nil (pieces_ne_nil rest)
  refine ⟨piece, others, hrest, ?_⟩
  rw [pieces, hrest]
  rfl

/-- What stands on both sides of a character that is no letter or digit is cut into pieces on its own. -/
theorem pieces_append_cons {x : Char} (hx : x.isAlphanum = false) (front rest : List Char) :
    pieces (front ++ x :: rest) = pieces front ++ pieces rest := by
  obtain ⟨⟨hupper, hlower⟩, -⟩ : (x.isUpper = false ∧ x.isLower = false) ∧ x.isDigit = false := by
    unfold Char.isAlphanum Char.isAlpha at hx
    simpa only [Bool.or_eq_false_iff] using hx
  induction front with
  | nil => simp [pieces, hx]
  | cons c front ih =>
    obtain ⟨piece, others, hfront, hcons⟩ := pieces_cons c front
    obtain ⟨piece', others', hall, hcons'⟩ := pieces_cons c (front ++ x :: rest)
    rw [ih, hfront, List.cons_append] at hall
    obtain ⟨rfl, rfl⟩ := List.cons.inj hall
    have hends : endsWord c (front ++ x :: rest) = endsWord c front := by
      rcases front with _ | ⟨d, _ | ⟨e, front⟩⟩
      · simp [endsWord, startsWord, hupper]
      · simp [endsWord, startsWord, hlower]
      · rfl
    rw [List.cons_append, hcons', hcons, hends]
    split
    · rfl
    · split <;> rfl

/-- Nothing but what is no letter or digit is lost between the pieces. -/
theorem flatten_pieces (cs : List Char) : (pieces cs).flatten = cs.filter Char.isAlphanum := by
  induction cs with
  | nil => rfl
  | cons c rest ih =>
    obtain ⟨piece, others, hrest, hpieces⟩ := pieces_cons c rest
    rw [hrest] at ih
    rw [hpieces]
    split
    · rename_i hc
      rw [List.filter_cons_of_neg (by simpa using hc), ← ih]
      rfl
    · rename_i hc
      rw [List.filter_cons_of_pos (by simpa using hc), ← ih]
      split <;> rfl

theorem isAlphanum_of_mem_pieces {cs piece : List Char} {c : Char} (hpiece : piece ∈ pieces cs) (hc : c ∈ piece) :
    c.isAlphanum = true := by
  have hmem := List.mem_flatten_of_mem hpiece hc
  rw [flatten_pieces] at hmem
  exact (List.mem_filter.1 hmem).2

/-- A letter or digit goes on with the piece that follows it, if that does not begin with a capital. -/
private theorem pieces_cons_of_next {c : Char} {rest piece : List Char} {others : List (List Char)}
    (hc : c.isAlphanum = true) (hnext : ∀ d, rest.head? = some d → d.isUpper = false)
    (hrest : pieces rest = piece :: others) : pieces (c :: rest) = (c :: piece) :: others := by
  obtain ⟨piece', others', hrest', hcons⟩ := pieces_cons c rest
  obtain ⟨rfl, rfl⟩ := List.cons.inj (hrest.symm.trans hrest')
  have hgoes : endsWord c rest = false := by
    unfold endsWord
    cases hhead : rest.head? with
    | none => rfl
    | some d => simp [startsWord, hnext d hhead]
  rw [hcons, if_neg (by simp [hc]), if_neg (by simp [hgoes])]

/-- A text without capitals is one piece with what follows it, if no capital follows. -/
private theorem pieces_append {word tail piece : List Char} {others : List (List Char)}
    (hword : ∀ c ∈ word, c.isAlphanum = true ∧ c.isUpper = false)
    (htail : ∀ c, tail.head? = some c → c.isUpper = false) (hpieces : pieces tail = piece :: others) :
    pieces (word ++ tail) = (word ++ piece) :: others := by
  induction word with
  | nil => exact hpieces
  | cons c word ih =>
    rw [List.forall_mem_cons] at hword
    refine pieces_cons_of_next hword.1.1 (fun d hd => ?_) (ih hword.2)
    cases word with
    | nil => exact htail d hd
    | cons e word =>
      obtain rfl := Option.some.inj hd
      exact (hword.2 e List.mem_cons_self).2

/-- A text without capitals is a piece of its own in front of a capital. -/
private theorem pieces_append_capital {word : List Char} (hne : word ≠ [])
    (hword : ∀ c ∈ word, c.isAlphanum = true ∧ c.isUpper = false) {d : Char} (hd : d.isUpper = true) (rest : List Char) :
    pieces (word ++ d :: rest) = word :: pieces (d :: rest) := by
  induction word with
  | nil => exact absurd rfl hne
  | cons c word ih =>
    rw [List.forall_mem_cons] at hword
    obtain ⟨⟨hc, hsmall⟩, hword⟩ := hword
    cases word with
    | nil =>
      obtain ⟨piece, others, hrest, hcons⟩ := pieces_cons c (d :: rest)
      have hstarts : startsWord c d rest.head? = true :=
        (startsWord_iff hc).2 ⟨hd, fun hupper => absurd hupper (by simp [hsmall])⟩
      have hends : endsWord c (d :: rest) = true := hstarts
      rw [List.singleton_append, hcons, if_neg (by simp [hc]), if_pos hends, hrest]
    | cons e word =>
      refine pieces_cons_of_next hc (fun e' he' => ?_) (ih (List.cons_ne_nil _ _) hword)
      obtain rfl := Option.some.inj he'
      exact (hword e List.mem_cons_self).2

/-! ### Words -/

theorem flatten_words (cs : List Char) : (words cs).flatten = (cs.filter Char.isAlphanum).map Char.toLower := by
  rw [words, ← List.map_flatten, List.flatten_filter_not_isEmpty, flatten_pieces]

theorem words_append_cons {x : Char} (hx : x.isAlphanum = false) (front rest : List Char) :
    words (front ++ x :: rest) = words front ++ words rest := by
  simp only [words, pieces_append_cons hx, List.filter_append, List.map_append]

theorem of_mem_words {cs word : List Char} {c : Char} (hword : word ∈ words cs) (hc : c ∈ word) :
    c.isAlphanum = true ∧ c.isUpper = false := by
  simp only [words, List.mem_map, List.mem_filter] at hword
  obtain ⟨piece, ⟨hpiece, -⟩, rfl⟩ := hword
  obtain ⟨d, hd, rfl⟩ := List.mem_map.1 hc
  rw [Text.isAlphanum_toLower]
  exact ⟨isAlphanum_of_mem_pieces hpiece hd, Text.isUpper_toLower d⟩

private theorem pieces_joined {parts : List (List Char)} (hne : parts ≠ [])
    (h : ∀ part ∈ parts, ∀ c ∈ part, c.isAlphanum = true ∧ c.isUpper = false) :
    pieces (joined ['_'] parts) = parts := by
  unfold joined
  induction parts with
  | nil => exact absurd rfl hne
  | cons part parts ih =>
    have hpart := h part List.mem_cons_self
    cases parts with
    | nil =>
      have hone : pieces (part ++ []) = [part ++ []] := pieces_append hpart (by simp) rfl
      simpa using hone
    | cons other parts =>
      have hothers := ih (List.cons_ne_nil _ _) fun p hp => h p (List.mem_cons_of_mem part hp)
      obtain ⟨piece, rest, hrest, hcons⟩ := pieces_cons '_' (['_'].intercalate (other :: parts))
      have hunderscore : ∀ c, ('_' :: ['_'].intercalate (other :: parts)).head? = some c → c.isUpper = false := by
        rintro c ⟨⟩
        decide
      rw [if_pos (by decide), ← hrest, hothers] at hcons
      rw [List.intercalate_cons_cons, List.append_assoc, List.singleton_append,
        pieces_append hpart hunderscore hcons, List.append_nil]

/-- Words without capitals that are joined by underscores are found again. -/
theorem words_joined {parts : List (List Char)}
    (h : ∀ part ∈ parts, part ≠ [] ∧ ∀ c ∈ part, c.isAlphanum = true ∧ c.isUpper = false) :
    words (joined ['_'] parts) = parts := by
  have hkept : parts.filter (!·.isEmpty) = parts :=
    List.filter_eq_self.2 fun part hpart => by simpa using (h part hpart).1
  have hsmall : parts.map (·.map Char.toLower) = parts :=
    (List.map_congr_left fun part hpart =>
      Text.map_toLower_eq_self_iff.2 fun c hc => ((h part hpart).2 c hc).2).trans (List.map_id' _)
  by_cases hne : parts = []
  · rw [hne]
    rfl
  · rw [words, pieces_joined hne fun part hpart => (h part hpart).2, hkept, hsmall]

/-- A capital with small letters or digits behind it is a word of its own, at the end or in front of a capital. -/
theorem words_cons_append {c : Char} {word rest : List Char} (hc : c.isUpper = true) (hne : word ≠ [])
    (hword : ∀ d ∈ word, d.isAlphanum = true ∧ d.isUpper = false)
    (hrest : ∀ d, rest.head? = some d → d.isUpper = true) :
    words (c :: word ++ rest) = (c.toLower :: word) :: words rest := by
  have halpha : c.isAlpha = true := Bool.or_eq_true_iff.2 (Or.inl hc)
  have halnum : c.isAlphanum = true := Bool.or_eq_true_iff.2 (Or.inl halpha)
  have hnext : ∀ d, (word ++ rest).head? = some d → d.isUpper = false := by
    obtain ⟨e, word, rfl⟩ := List.exists_cons_of_ne_nil hne
    rintro d ⟨⟩
    exact (hword e List.mem_cons_self).2
  have hsmall : word.map Char.toLower = word := Text.map_toLower_eq_self_iff.2 fun d hd => (hword d hd).2
  cases rest with
  | nil =>
    have hpieces : pieces (word ++ []) = [word ++ []] := pieces_append hword (by simp) rfl
    rw [List.cons_append, words, pieces_cons_of_next halnum hnext hpieces]
    simpa [words, pieces] using hsmall
  | cons d rest =>
    rw [List.cons_append, words,
      pieces_cons_of_next halnum hnext (pieces_append_capital hne hword (hrest d rfl) rest)]
    simpa [words] using hsmall

/-- The words of a snake-case name are those that it was made from. -/
theorem words_snakeChars (cs : List Char) : words (snakeChars cs) = words cs :=
  words_joined fun _ hword => ⟨(isPlain_of_words hword).2, fun _ hc => of_mem_words hword hc⟩

theorem isUpper_of_mem_snakeChars {cs : List Char} {c : Char} (h : c ∈ snakeChars cs) : c.isUpper = false := by
  rcases mem_joined h with h | ⟨word, hword, h⟩
  · rw [List.mem_singleton.1 h]
    decide
  · exact (of_mem_words hword h).2

theorem isUpper_of_mem_snake {name : String} {c : Char} (h : c ∈ (snake name).toList) : c.isUpper = false := by
  rw [snake, String.toList_ofList] at h
  exact isUpper_of_mem_snakeChars h

/-- The letters and digits of a snake-case name are those of the name, in lower case. -/
theorem filter_snakeChars (cs : List Char) :
    (snakeChars cs).filter Char.isAlphanum = (cs.filter Char.isAlphanum).map Char.toLower := by
  have hsmall : ((snakeChars cs).filter Char.isAlphanum).map Char.toLower = (snakeChars cs).filter Char.isAlphanum :=
    Text.map_toLower_eq_self_iff.2 fun c hc => isUpper_of_mem_snakeChars (List.mem_filter.1 hc).1
  rw [← hsmall, ← flatten_words, words_snakeChars, flatten_words]

/-! ### Pascal case -/

/-- A piece with its first letter in upper case and the others in lower case. -/
private def capitalized (piece : List Char) : List Char :=
  capital (piece.map Char.toLower)

/-- The pieces that are empty add nothing. -/
theorem toList_pascal (name : String) : (pascal name).toList = ((pieces name.toList).map capitalized).flatten := by
  rw [pascal, String.toList_ofList, words, List.map_map]
  induction pieces name.toList with
  | nil => rfl
  | cons piece pieces ih =>
    cases piece with
    | nil => exact ih
    | cons c piece =>
      rw [List.filter_cons_of_pos rfl, List.map_cons, List.map_cons, List.flatten_cons, List.flatten_cons, ih]
      rfl

private theorem map_toLower_capitalized (piece : List Char) :
    (capitalized piece).map Char.toLower = piece.map Char.toLower := by
  cases piece with
  | nil => rfl
  | cons c piece => simp [capitalized, capital]

/-- Up to case, a name in pascal case has the letters and digits of the name that it was made from. -/
theorem map_toLower_pascal (name : String) :
    (pascal name).toList.map Char.toLower = (name.toList.filter Char.isAlphanum).map Char.toLower := by
  rw [toList_pascal, List.map_flatten, List.map_map, ← flatten_pieces, List.map_flatten]
  exact congrArg List.flatten (List.map_congr_left fun piece _ => map_toLower_capitalized piece)

theorem pascal_snake (name : String) : pascal (snake name) = pascal name := by
  rw [pascal, snake, String.toList_ofList, words_snakeChars, pascal]

/-! ### Identifiers in pascal case -/

/-- A name is an identifier in pascal case exactly if the first of its letters and digits is a letter. -/
theorem isIdentChars_pascal (name : String) :
    isIdentChars (pascal name).toList = (name.toList.find? Char.isAlphanum).any Char.isAlpha := by
  rw [← isIdentChars_map_toLower, map_toLower_pascal, isIdentChars_map_toLower, ← List.head?_filter]
  have hfilter : ∀ c ∈ name.toList.filter Char.isAlphanum, c.isAlphanum = true := fun c hc => (List.mem_filter.1 hc).2
  generalize name.toList.filter Char.isAlphanum = cs at hfilter
  cases cs with
  | nil => rfl
  | cons c cs =>
    have hc : c ≠ '_' := by
      rintro rfl
      exact absurd (hfilter '_' List.mem_cons_self) (by decide)
    have hrest : cs.all isIdentChar = true :=
      List.all_eq_true.2 fun d hd => by simp [isIdentChar, hfilter d (List.mem_cons_of_mem c hd)]
    simp [isIdentChars, isIdentStart, hc, hrest]

/-! ### Names that are in pascal case -/

/-- A capital stands behind another one only in front of a small letter. -/
def CapitalsApart (cs : List Char) : Prop :=
  ∀ b c rest, b :: c :: rest <:+ cs → b.isUpper = true → c.isUpper = true → rest.head?.any Char.isLower = true

/-- Letters and digits, of which the first is no small letter and the capitals stand apart. -/
structure IsPascal (cs : List Char) : Prop where
  plain : ∀ c ∈ cs, c.isAlphanum = true
  front : ∀ c, cs.head? = some c → c.isLower = false
  capitals : CapitalsApart cs

private theorem capitalized_eq_self_iff {piece : List Char} :
    capitalized piece = piece ↔
      (∀ c, piece.head? = some c → c.isLower = false) ∧ ∀ c ∈ piece.tail, c.isUpper = false := by
  cases piece with
  | nil => simp [capitalized, capital]
  | cons c piece =>
    rw [capitalized, List.map_cons, capital, Text.toUpper_toLower, List.cons.injEq, Text.toUpper_eq_self_iff,
      Text.map_toLower_eq_self_iff]
    simp

/-- Of letters and digits, every piece but the first begins with a capital, and the first one where the text does. -/
private theorem heads_of_pieces {cs piece : List Char} {others : List (List Char)}
    (hplain : ∀ c ∈ cs, c.isAlphanum = true) (h : pieces cs = piece :: others) :
    piece.head? = cs.head? ∧ ∀ other ∈ others, other.head?.any Char.isUpper = true := by
  induction cs generalizing piece others with
  | nil =>
    obtain ⟨rfl, rfl⟩ := List.cons.inj (h : [[]] = piece :: others)
    simp
  | cons c rest ih =>
    obtain ⟨piece', others', hrest, hpieces⟩ := pieces_cons c rest
    obtain ⟨hhead, hothers⟩ := ih (fun d hd => hplain d (List.mem_cons_of_mem c hd)) hrest
    have hc := hplain c List.mem_cons_self
    rw [hpieces, if_neg (by simp [hc])] at h
    split at h
    · rename_i hends
      obtain ⟨rfl, rfl⟩ := List.cons.inj h
      obtain ⟨d, hd, hstarts⟩ := (Option.any_eq_true _ _).1 hends
      refine ⟨rfl, fun other hother => ?_⟩
      rcases List.mem_cons.1 hother with rfl | hother
      · rw [hhead, hd]
        exact ((startsWord_iff hc).1 hstarts).1
      · exact hothers other hother
    · obtain ⟨rfl, rfl⟩ := List.cons.inj h
      exact ⟨rfl, hothers⟩

private theorem capitalsApart_cons_iff {b : Char} {cs : List Char} :
    CapitalsApart (b :: cs) ↔
      (∀ c, cs.head? = some c → b.isUpper = true → c.isUpper = true → cs.tail.head?.any Char.isLower = true) ∧
        CapitalsApart cs := by
  constructor
  · intro h
    refine ⟨fun c hc => ?_, fun b' c rest hsuffix => h b' c rest (hsuffix.trans (List.suffix_cons b cs))⟩
    obtain ⟨rest, rfl⟩ := List.head?_eq_some_iff.1 hc
    exact h b c rest (List.suffix_refl _)
  · rintro ⟨hfirst, hrest⟩ b' c rest hsuffix
    rcases List.suffix_cons_iff.1 hsuffix with heq | hsuffix
    · obtain ⟨rfl, rfl⟩ := List.cons.inj heq
      exact hfirst c rfl
    · exact hrest b' c rest hsuffix

/-- Of letters and digits, no piece has a capital behind its first character exactly if capitals stand apart. -/
private theorem tails_of_pieces_iff {cs : List Char} (hplain : ∀ c ∈ cs, c.isAlphanum = true) :
    (∀ piece ∈ pieces cs, ∀ c ∈ piece.tail, c.isUpper = false) ↔ CapitalsApart cs := by
  induction cs with
  | nil => simp [pieces, CapitalsApart]
  | cons b rest ih =>
    have hb := hplain b List.mem_cons_self
    have hplain' : ∀ c ∈ rest, c.isAlphanum = true := fun c hc => hplain c (List.mem_cons_of_mem b hc)
    obtain ⟨piece, others, hrest, hpieces⟩ := pieces_cons b rest
    obtain ⟨hhead, -⟩ := heads_of_pieces hplain' hrest
    rw [capitalsApart_cons_iff, ← ih hplain', hrest, hpieces, if_neg (by simp [hb])]
    split
    · rename_i hends
      obtain ⟨d, hd, hstarts⟩ := (Option.any_eq_true _ _).1 hends
      have hfirst : ∀ c, rest.head? = some c → b.isUpper = true → c.isUpper = true →
          rest.tail.head?.any Char.isLower = true :=
        fun c _ hupper _ => ((startsWord_iff hb).1 hstarts).2 hupper
      rw [List.forall_mem_cons, and_iff_right hfirst]
      exact and_iff_right (by simp)
    · rename_i hends
      -- the next character goes on with the piece, so it must be no capital
      have hnext : (∀ c, rest.head? = some c → b.isUpper = true → c.isUpper = true →
          rest.tail.head?.any Char.isLower = true) ↔ ∀ c, rest.head? = some c → c.isUpper = false := by
        refine forall₂_congr fun c hc => ?_
        have hstays : ¬ startsWord b c rest.tail.head? = true := fun hstarts =>
          hends ((Option.any_eq_true _ _).2 ⟨c, hc, hstarts⟩)
        rw [startsWord_iff hb] at hstays
        grind
      rw [List.forall_mem_cons, List.forall_mem_cons, List.tail_cons, hnext, ← hhead, ← and_assoc]
      refine and_congr_left fun _ => ?_
      cases piece with
      | nil => simp
      | cons c piece => simp

private theorem length_capitalized (piece : List Char) : (capitalized piece).length = piece.length := by
  cases piece with
  | nil => rfl
  | cons c piece => simp [capitalized, capital]

/-- A name is in pascal case already exactly if capitals begin all words but perhaps the first, and nothing else
stands between them. -/
theorem pascal_eq_self_iff {name : String} : pascal name = name ↔ IsPascal name.toList := by
  rw [← String.toList_inj, toList_pascal]
  generalize name.toList = cs
  have hlengths : ((pieces cs).map capitalized).map List.length = (pieces cs).map List.length := by
    rw [List.map_map]
    exact List.map_congr_left fun piece _ => length_capitalized piece
  -- with nothing lost between the pieces, each of them is compared on its own
  have hpieces (hplain : ∀ c ∈ cs, c.isAlphanum = true) :
      ((pieces cs).map capitalized).flatten = cs ↔ ∀ piece ∈ pieces cs, capitalized piece = piece := by
    have hflatten : (pieces cs).flatten = cs := (flatten_pieces cs).trans (List.filter_eq_self.2 hplain)
    have hsame := @List.eq_iff_flatten_eq _ ((pieces cs).map capitalized) (pieces cs)
    rw [hflatten, and_iff_left hlengths] at hsame
    rw [← hsame, ← List.map_inj_left, List.map_id']
  have hheads (hplain : ∀ c ∈ cs, c.isAlphanum = true) :
      (∀ piece ∈ pieces cs, ∀ c, piece.head? = some c → c.isLower = false) ↔
        ∀ c, cs.head? = some c → c.isLower = false := by
    obtain ⟨piece, others, hcons⟩ := List.exists_cons_of_ne_nil (pieces_ne_nil cs)
    obtain ⟨hhead, hothers⟩ := heads_of_pieces hplain hcons
    rw [hcons, List.forall_mem_cons, hhead]
    refine and_iff_left fun other hother c hc => ?_
    have hupper := hothers other hother
    rw [hc] at hupper
    exact Text.isLower_of_isUpper hupper
  constructor
  · intro h
    have hplain : ∀ c ∈ cs, c.isAlphanum = true := by
      have hlength := congrArg List.length h
      rw [List.length_flatten, hlengths, ← List.length_flatten, flatten_pieces] at hlength
      exact List.length_filter_eq_length_iff.1 hlength
    have hall := fun piece hpiece => capitalized_eq_self_iff.1 ((hpieces hplain).1 h piece hpiece)
    exact ⟨hplain, (hheads hplain).1 fun piece hpiece => (hall piece hpiece).1,
      (tails_of_pieces_iff hplain).1 fun piece hpiece => (hall piece hpiece).2⟩
  · rintro ⟨hplain, hfront, hcapitals⟩
    refine (hpieces hplain).2 fun piece hpiece => capitalized_eq_self_iff.2 ⟨?_, ?_⟩
    · exact (hheads hplain).2 hfront piece hpiece
    · exact (tails_of_pieces_iff hplain).2 hcapitals piece hpiece

/-- A name is what becomes of its snake-case form in pascal case exactly if it is in pascal case already. -/
theorem pascal_snake_eq_iff {name : String} : pascal (snake name) = name ↔ IsPascal name.toList := by
  rw [pascal_snake, pascal_eq_self_iff]

end CrudScaffold.Naming
