import CrudScaffold.Proofs.Schema.Nested

/-!
# Splitting and joining

Splitting at the top level is the inverse of joining: the pieces of a text are the nested texts that give the text
back when they are joined with the separator (`splitTopLevel_eq_ok_iff`).  Blanks at the ends of a text end up at
the ends of its first and last piece, so that they do not change the trimmed pieces (`splitTopLevel_pad`).
-/

namespace CrudScaffold

open Nesting

/-- The cut at one separator. -/
abbrev cutOf (separator : Char) : Char → Bool := fun c => c == separator

variable {separator : Char}

theorem ordinary_comma : Ordinary ',' := ⟨rfl, by decide, by decide⟩

theorem ordinary_colon : Ordinary ':' := ⟨rfl, by decide, by decide⟩

/-! ### Pieces of a text -/

private theorem foldr_consPiece (xs piece : List Char) (pieces : List (List Char)) :
    xs.foldr consPiece (piece :: pieces) = (xs ++ piece) :: pieces := by
  induction xs with
  | nil => rfl
  | cons x xs ih => rw [List.foldr_cons, ih]; rfl

private theorem map_consPiece (c : Char) (xs : List Char) (r : Except Imbalance (List (List Char))) :
    (r.map (xs.foldr consPiece)).map (consPiece c) = r.map ((c :: xs).foldr consPiece) := by
  cases r <;> rfl

/-- What a walk passes over goes in front of the first piece of the rest. -/
theorem splitFrom_append {xs : List Char} {n m : Nesting} (h : walk (cutOf separator) n xs = some m)
    (ys : List Char) :
    splitFrom separator n.quote n.depth (xs ++ ys) =
      (splitFrom separator m.quote m.depth ys).map (xs.foldr consPiece) := by
  induction xs generalizing n with
  | nil =>
    simp only [walk_nil, Option.some.injEq] at h
    subst h
    rw [List.nil_append]
    cases splitFrom separator n.quote n.depth ys <;> rfl
  | cons c xs ih =>
    obtain ⟨k, hk, hw⟩ := Option.bind_eq_some_iff.1 h
    rw [← map_consPiece, ← ih hw]
    obtain ⟨quote, depth⟩ := n
    cases quote with
    | some q =>
      simp only [next?_quoted, Option.some.injEq] at hk
      subst hk
      simp [splitFrom]
    | none =>
      by_cases hq : isQuote c = true
      · rw [next?_quote hq, Option.some.injEq] at hk
        subst hk
        simp [splitFrom, hq]
      by_cases ho : c = '('
      · subst ho
        simp only [next?_opening, Option.some.injEq] at hk
        subst hk
        simp [splitFrom, hq]
      by_cases hc : c = ')'
      · subst hc
        cases depth with
        | zero => simp at hk
        | succ depth =>
          simp only [next?_closing_succ, Option.some.injEq] at hk
          subst hk
          simp [splitFrom, hq]
      rw [next?_ordinary ⟨by simpa using hq, ho, hc⟩] at hk
      by_cases hcut : cutOf separator c = true ∧ depth = 0
      · simp [hcut] at hk
      · rw [if_neg hcut, Option.some.injEq] at hk
        subst hk
        simp only [cutOf, beq_iff_eq] at hcut
        simp [splitFrom, hq, ho, hc, hcut]

/-- A text is split into pieces of which the first is passed over from where the text starts and the others from
the outside. -/
theorem walk_of_splitFrom {cs : List Char} {n : Nesting} {pieces : List (List Char)}
    (h : splitFrom separator n.quote n.depth cs = .ok pieces) :
    ∃ piece others, pieces = piece :: others ∧ walk (cutOf separator) n piece = some outside ∧
      (∀ p ∈ others, walk (cutOf separator) outside p = some outside) ∧
      cs = [separator].intercalate pieces := by
  -- a step that is no cut puts its character in front of the first piece
  have step {n m : Nesting} {c : Char} {cs : List Char} {r : Except Imbalance (List (List Char))}
      {pieces : List (List Char)} (hnext : n.next? (cutOf separator) c = some m)
      (hr : r.map (consPiece c) = .ok pieces)
      (ih : ∀ ps, r = .ok ps → ∃ piece others, ps = piece :: others ∧
        walk (cutOf separator) m piece = some outside ∧
        (∀ p ∈ others, walk (cutOf separator) outside p = some outside) ∧ cs = [separator].intercalate ps) :
      ∃ piece others, pieces = piece :: others ∧ walk (cutOf separator) n piece = some outside ∧
        (∀ p ∈ others, walk (cutOf separator) outside p = some outside) ∧
        c :: cs = [separator].intercalate pieces := by
    cases r with
    | error e => cases hr
    | ok ps =>
      obtain ⟨piece, others, rfl, hp, ho, rfl⟩ := ih ps rfl
      simp only [Except.map, Except.ok.injEq] at hr
      subst hr
      refine ⟨c :: piece, others, rfl, by rw [walk_cons, hnext]; exact hp, ho, ?_⟩
      cases others <;> simp [consPiece]
  induction cs generalizing n pieces with
  | nil =>
    obtain ⟨quote, depth⟩ := n
    cases quote with
    | some q => simp [splitFrom] at h
    | none =>
      by_cases hd : depth = 0
      · subst hd
        simp only [splitFrom, if_true, Except.ok.injEq] at h
        subst h
        exact ⟨[], [], rfl, rfl, by simp, rfl⟩
      · simp [splitFrom, hd] at h
  | cons c cs ih =>
    obtain ⟨quote, depth⟩ := n
    cases quote with
    | some q =>
      rw [splitFrom] at h
      exact step next?_quoted h fun ps hps => ih hps
    | none =>
      by_cases hq : isQuote c = true
      · simp only [splitFrom, hq, if_true] at h
        exact step (next?_quote hq) h fun ps hps => ih hps
      by_cases ho : c = '('
      · subst ho
        simp only [splitFrom, hq, if_true, Bool.false_eq_true, if_false] at h
        exact step next?_opening h fun ps hps => ih hps
      by_cases hc : c = ')'
      · subst hc
        cases depth with
        | zero => simp [splitFrom, hq] at h
        | succ depth =>
          simp only [splitFrom, hq, ho, if_true, Bool.false_eq_true, if_false] at h
          exact step next?_closing_succ h fun ps hps => ih hps
      by_cases hcut : c = separator ∧ depth = 0
      · -- the first piece ends here
        obtain ⟨rfl, rfl⟩ := hcut
        simp only [splitFrom, hq, ho, hc, and_self, if_true, Bool.false_eq_true, if_false] at h
        cases hr : splitFrom c none 0 cs with
        | error e => rw [hr] at h; cases h
        | ok ps =>
          obtain ⟨piece, others, rfl, hp, hothers, rfl⟩ := ih (n := outside) hr
          simp only [hr, Except.map, Except.ok.injEq] at h
          subst h
          refine ⟨[], piece :: others, rfl, rfl, ?_, by simp⟩
          intro p hp'
          rcases List.mem_cons.1 hp' with rfl | hp'
          · exact hp
          · exact hothers p hp'
      · have hnext : next? (cutOf separator) ⟨none, depth⟩ c = some ⟨none, depth⟩ := by
          rw [next?_ordinary ⟨by simpa using hq, ho, hc⟩, if_neg (by simpa using hcut)]
        simp only [splitFrom, hq, ho, hc, hcut, if_false, Bool.false_eq_true] at h
        exact step hnext h fun ps hps => ih hps

/-- Pieces that are passed over without a cut are found again in the text that joins them. -/
theorem splitFrom_intercalate (hsep : Ordinary separator) {n : Nesting} {piece : List Char}
    {others : List (List Char)} (hp : walk (cutOf separator) n piece = some outside)
    (ho : ∀ p ∈ others, walk (cutOf separator) outside p = some outside) :
    splitFrom separator n.quote n.depth ([separator].intercalate (piece :: others)) = .ok (piece :: others) := by
  induction others generalizing n piece with
  | nil =>
    have h := splitFrom_append hp []
    rw [List.append_nil] at h
    rw [List.intercalate_singleton, h]
    simp [outside, splitFrom, Except.map, foldr_consPiece]
  | cons other others ih =>
    have hrest := ih (n := outside) (ho other (by simp)) fun p hp => ho p (by simp [hp])
    rw [List.intercalate_cons_cons, List.append_assoc, splitFrom_append hp]
    have hcut : splitFrom separator none 0 ([separator] ++ [separator].intercalate (other :: others)) =
        .ok ([] :: other :: others) := by
      rw [List.singleton_append, splitFrom]
      simp only [outside] at hrest
      simp [hsep.quote, hsep.opening, hsep.closing, hrest, Except.map]
    simp only [outside, hcut, Except.map, foldr_consPiece, List.append_nil]

/-- A text is split into the nested texts that it joins. -/
theorem splitTopLevel_eq_ok_iff (hsep : Ordinary separator) {cs : List Char} {pieces : List (List Char)} :
    splitTopLevel separator cs = .ok pieces ↔
      pieces ≠ [] ∧ (∀ p ∈ pieces, Nested (cutOf separator) p) ∧ cs = [separator].intercalate pieces := by
  constructor
  · intro h
    obtain ⟨piece, others, rfl, hp, ho, hcs⟩ := walk_of_splitFrom (n := outside) h
    refine ⟨by simp, ?_, hcs⟩
    intro p hmem
    rcases List.mem_cons.1 hmem with rfl | hmem
    · exact walk_iff_nested.1 hp
    · exact walk_iff_nested.1 (ho p hmem)
  · rintro ⟨hne, hp, rfl⟩
    cases pieces with
    | nil => exact absurd rfl hne
    | cons piece others =>
      exact splitFrom_intercalate hsep (n := outside) (walk_iff_nested.2 (hp piece (by simp)))
        fun p hmem => walk_iff_nested.2 (hp p (by simp [hmem]))

private theorem exists_splitFrom {n : Nesting} {cs : List Char}
    (h : walk (fun _ => false) n cs = some outside) :
    ∃ pieces, splitFrom separator n.quote n.depth cs = .ok pieces := by
  induction cs generalizing n with
  | nil =>
    obtain rfl := Option.some.inj h
    exact ⟨[[]], rfl⟩
  | cons c cs ih =>
    obtain ⟨m, hm, hw⟩ := Option.bind_eq_some_iff.1 h
    obtain ⟨pieces, hpieces⟩ := ih hw
    have hmap (g : List (List Char) → List (List Char)) :
        ∃ pieces, (splitFrom separator m.quote m.depth cs).map g = .ok pieces := ⟨g pieces, by rw [hpieces]; rfl⟩
    obtain ⟨quote, depth⟩ := n
    cases quote with
    | some q =>
      simp only [next?_quoted, Option.some.injEq] at hm
      subst hm
      exact hmap (consPiece c)
    | none =>
      by_cases hq : isQuote c = true
      · rw [next?_quote hq, Option.some.injEq] at hm
        subst hm
        simpa only [splitFrom, hq, if_true] using hmap (consPiece c)
      by_cases ho : c = '('
      · subst ho
        simp only [next?_opening, Option.some.injEq] at hm
        subst hm
        simpa only [splitFrom, hq, Bool.false_eq_true, if_true, if_false] using hmap (consPiece '(')
      by_cases hc : c = ')'
      · subst hc
        cases depth with
        | zero => simp at hm
        | succ depth =>
          simp only [next?_closing_succ, Option.some.injEq] at hm
          subst hm
          simpa only [splitFrom, hq, ho, Bool.false_eq_true, if_true, if_false] using hmap (consPiece ')')
      rw [next?_uncut ⟨by simpa using hq, ho, hc⟩ rfl, Option.some.injEq] at hm
      subst hm
      by_cases hcut : c = separator ∧ depth = 0
      · obtain ⟨rfl, rfl⟩ := hcut
        simpa only [splitFrom, hq, ho, hc, and_self, Bool.false_eq_true, if_true, if_false] using hmap ([] :: ·)
      · simpa only [splitFrom, hq, ho, hc, hcut, Bool.false_eq_true, if_false] using hmap (consPiece c)

/-- A text in which quotes and parentheses match can be split at any separator. -/
theorem exists_splitTopLevel {cut : Char → Bool} {cs : List Char} (h : Nested cut cs) (separator : Char) :
    ∃ pieces, splitTopLevel separator cs = .ok pieces :=
  exists_splitFrom (n := outside) (walk_uncut (walk_iff_nested.2 h))

/-- Pieces and the text that joins them are nested for the same further cuts. -/
theorem nested_intercalate_iff {cut : Char → Bool} (hsep : Ordinary separator) (hcut : cut separator = false)
    {pieces : List (List Char)} (hp : ∀ p ∈ pieces, Nested (cutOf separator) p) :
    Nested cut ([separator].intercalate pieces) ↔ ∀ p ∈ pieces, Nested cut p := by
  simp only [← walk_iff_nested] at hp ⊢
  induction pieces with
  | nil => simp
  | cons piece others ih =>
    have hpiece := hp piece (by simp)
    have hothers : ∀ p ∈ others, walk (cutOf separator) outside p = some outside := fun p h => hp p (by simp [h])
    cases others with
    | nil => simp
    | cons other others =>
      have hsplit : walk cut outside ([separator].intercalate (piece :: other :: others)) = some outside ↔
          walk cut outside piece = some outside ∧
            walk cut outside ([separator].intercalate (other :: others)) = some outside := by
        have hstep : walk cut outside [separator] = some outside := by
          simp [outside, next?_uncut hsep hcut]
        rw [List.intercalate_cons_cons, walk_append, walk_append]
        constructor
        · intro h
          obtain ⟨n, hn, h⟩ := Option.bind_eq_some_iff.1 h
          obtain ⟨k, hk, hn⟩ := Option.bind_eq_some_iff.1 hn
          obtain rfl := walk_unique hk hpiece
          rw [hstep, Option.some.injEq] at hn
          exact ⟨hk, hn ▸ h⟩
        · rintro ⟨hfirst, hrest⟩
          simp only [hfirst, hstep, Option.bind_some, hrest]
      rw [hsplit, ih hothers]
      simp

/-! ### Blanks at the ends -/

theorem ordinary_of_isBlank {c : Char} (h : Text.isBlank c = true) : Ordinary c := by
  constructor
  · by_contra hq
    have : c = '\'' ∨ c = '"' := by simpa only [isQuote, Bool.not_eq_false, Bool.or_eq_true, beq_iff_eq] using hq
    rcases this with rfl | rfl <;> exact absurd h (by decide)
  · rintro rfl; exact absurd h (by decide)
  · rintro rfl; exact absurd h (by decide)

/-- Blanks are passed over when no blank is a cut. -/
theorem walk_of_blanks {cut : Char → Bool} (hcut : ∀ c, Text.isBlank c = true → cut c = false)
    {cs : List Char} (h : Text.Blanks cs) (d : Nat) : walk cut ⟨none, d⟩ cs = some ⟨none, d⟩ :=
  walk_of_ordinary (fun c hc => ⟨ordinary_of_isBlank (h c hc), hcut c (h c hc)⟩) d

/-- A blank text is one piece. -/
theorem splitTopLevel_of_blanks (hsep : Ordinary separator) (hblank : Text.isBlank separator = false)
    {cs : List Char} (h : Text.Blanks cs) : splitTopLevel separator cs = .ok [cs] := by
  refine (splitTopLevel_eq_ok_iff hsep).2 ⟨by simp, fun p hp => ?_, by simp⟩
  rw [List.mem_singleton.1 hp]
  refine walk_iff_nested.1 (walk_of_blanks (fun c hc => beq_eq_false_iff_ne.2 ?_) h 0)
  rintro rfl
  rw [hblank] at hc
  exact absurd hc (by decide)

/-- A quote that is open is a quotation mark. -/
def Nesting.WellQuoted (n : Nesting) : Prop := ∀ q, n.quote = some q → isQuote q = true

private theorem wellQuoted_next? {cut : Char → Bool} {n m : Nesting} {c : Char} (hn : n.WellQuoted)
    (h : n.next? cut c = some m) : m.WellQuoted := by
  obtain ⟨quote, depth⟩ := n
  intro q hq
  cases quote with
  | some p =>
    simp only [next?_quoted, Option.some.injEq] at h
    subst h
    by_cases hc : c = p
    · simp [hc] at hq
    · exact hn q (by simpa [hc] using hq)
  | none =>
    by_cases hc : isQuote c = true
    · rw [next?_quote hc, Option.some.injEq] at h
      subst h
      simp only [Option.some.injEq] at hq
      exact hq ▸ hc
    · exfalso
      unfold next? at h
      simp only [hc, if_false, Bool.false_eq_true] at h
      split at h <;> (try split at h) <;> (try split at h) <;> simp at h <;> subst h <;> simp at hq

theorem wellQuoted_walk {cut : Char → Bool} {cs : List Char} {n m : Nesting} (hn : n.WellQuoted)
    (h : walk cut n cs = some m) : m.WellQuoted := by
  induction cs generalizing n with
  | nil =>
    simp only [walk_nil, Option.some.injEq] at h
    exact h ▸ hn
  | cons c cs ih =>
    obtain ⟨k, hk, hw⟩ := Option.bind_eq_some_iff.1 h
    exact ih (wellQuoted_next? hn hk) hw

/-- Blanks change nothing, whether a quote is open or not. -/
theorem walk_of_blanks_anywhere {cut : Char → Bool} (hcut : ∀ c, Text.isBlank c = true → cut c = false)
    {n : Nesting} (hn : n.WellQuoted) {r : List Char} (hr : Text.Blanks r) : walk cut n r = some n := by
  obtain ⟨quote, depth⟩ := n
  cases quote with
  | none => exact walk_of_blanks hcut hr depth
  | some q =>
    induction r with
    | nil => rfl
    | cons c r ih =>
      have hc : c ≠ q := by
        rintro rfl
        exact not_ordinary_of_isQuote (hn c rfl) (ordinary_of_isBlank (hr c (by simp)))
      simp only [walk_cons, next?_quoted, hc, if_false, Option.bind_some]
      exact ih fun x hx => hr x (by simp [hx])

/-- Blanks at the ends do not matter. -/
theorem nested_pad_iff {cut : Char → Bool} (hcut : ∀ c, Text.isBlank c = true → cut c = false)
    {core cs : List Char} (h : Text.Padded core cs) : Nested cut cs ↔ Nested cut core := by
  obtain ⟨l, r, hl, hr, rfl⟩ := h
  have hleft : walk cut outside l = some outside := walk_of_blanks hcut hl 0
  rw [← walk_iff_nested, ← walk_iff_nested, walk_append, walk_append, hleft, Option.bind_some]
  cases hcore : walk cut outside core with
  | none => rfl
  | some n =>
    have hright := walk_of_blanks_anywhere hcut (wellQuoted_walk (by simp [Nesting.WellQuoted, outside]) hcore) hr
    rw [Option.bind_some, hright]

/-- Puts a text behind the last piece. -/
private def appendLast (r : List Char) : List (List Char) → List (List Char)
  | [] => [r]
  | [piece] => [piece ++ r]
  | piece :: other :: others => piece :: appendLast r (other :: others)

private theorem appendLast_consPiece (r : List Char) (c : Char) (pieces : List (List Char)) :
    appendLast r (consPiece c pieces) = consPiece c (appendLast r pieces) := by
  rcases pieces with _ | ⟨piece, _ | ⟨other, others⟩⟩ <;> rfl

private theorem map_appendLast_consPiece (r : List Char) (c : Char) (x : Except Imbalance (List (List Char))) :
    (x.map (appendLast r)).map (consPiece c) = (x.map (consPiece c)).map (appendLast r) := by
  cases x with
  | error e => rfl
  | ok pieces => simp only [Except.map, appendLast_consPiece]

/-- Blanks go to the last piece, and an open quote or parenthesis stays open over them. -/
private theorem splitFrom_blanks {quote : Option Char} (hquote : ∀ q, quote = some q → isQuote q = true)
    (hsep : Text.isBlank separator = false) (depth : Nat) {r : List Char} (hr : Text.Blanks r) :
    splitFrom separator quote depth r = (splitFrom separator quote depth []).map (appendLast r) := by
  induction r with
  | nil =>
    cases quote with
    | some q => rfl
    | none => by_cases hd : depth = 0 <;> simp [splitFrom, hd, Except.map, appendLast]
  | cons c r ih =>
    have hord : Ordinary c := ordinary_of_isBlank (hr c (by simp))
    have hrest := ih fun x hx => hr x (by simp [hx])
    cases quote with
    | some q =>
      have hc : c ≠ q := by
        rintro rfl
        exact not_ordinary_of_isQuote (hquote c rfl) hord
      simp only [splitFrom, if_neg hc, hrest]
      rfl
    | none =>
      have hc : c ≠ separator := by
        rintro rfl
        rw [hr c (by simp)] at hsep
        exact absurd hsep (by decide)
      simp only [splitFrom, hord.quote, hord.opening, hord.closing, hc, false_and, if_false, Bool.false_eq_true]
      rw [hrest]
      by_cases hd : depth = 0 <;> simp [splitFrom, hd, Except.map, appendLast, consPiece]

private theorem splitFrom_append_blanks {quote : Option Char} (hquote : ∀ q, quote = some q → isQuote q = true)
    (hsep : Text.isBlank separator = false) (depth : Nat) (cs : List Char) {r : List Char} (hr : Text.Blanks r) :
    splitFrom separator quote depth (cs ++ r) = (splitFrom separator quote depth cs).map (appendLast r) := by
  fun_induction splitFrom separator quote depth cs with
  | case1 q depth => exact splitFrom_blanks hquote hsep depth hr
  | case2 => exact splitFrom_blanks hquote hsep 0 hr
  | case3 depth hd =>
    rw [List.nil_append, splitFrom_blanks hquote hsep depth hr]
    simp [splitFrom, hd]
  | case4 q depth c rest ih =>
    rw [List.cons_append, splitFrom, ih, map_appendLast_consPiece]
    intro x hx
    by_cases hc : c = q
    · simp [hc] at hx
    · exact hquote x (by simpa [hc] using hx)
  | case5 depth c rest hq ih =>
    simp only [List.cons_append, splitFrom, if_pos hq]
    rw [ih, map_appendLast_consPiece]
    intro x hx
    simp only [Option.some.injEq] at hx
    exact hx ▸ hq
  | case6 depth rest hq ih =>
    simp only [List.cons_append, splitFrom, if_neg hq, if_true]
    rw [ih hquote, map_appendLast_consPiece]
  | case7 rest hq ho => simp [splitFrom, hq, Except.map]
  | case8 rest depth hq ho ih =>
    simp only [List.cons_append, splitFrom, if_neg hq, if_neg ho, if_true]
    rw [ih hquote, map_appendLast_consPiece]
  | case9 depth c rest hq ho hc hcut ih =>
    simp only [List.cons_append, splitFrom, if_neg hq, if_neg ho, if_neg hc, if_pos hcut]
    rw [ih hquote]
    cases h : splitFrom separator none 0 rest with
    | error e => rfl
    | ok pieces =>
      obtain ⟨piece, others, rfl, -⟩ := walk_of_splitFrom (n := outside) h
      rfl
  | case10 depth c rest hq ho hc hcut ih =>
    simp only [List.cons_append, splitFrom, if_neg hq, if_neg ho, if_neg hc, if_neg hcut]
    rw [ih hquote, map_appendLast_consPiece]

private theorem map_trim_appendLast {r : List Char} (hr : Text.Blanks r) {pieces : List (List Char)}
    (h : pieces ≠ []) : (appendLast r pieces).map Text.trim = pieces.map Text.trim := by
  induction pieces with
  | nil => exact absurd rfl h
  | cons piece others ih =>
    cases others with
    | nil => simpa [appendLast] using Text.trim_pad (l := []) Text.blanks_nil hr
    | cons other others => simp only [appendLast, List.map_cons, ih (by simp)]

/-- Blanks at the ends of a text do not change its trimmed pieces. -/
theorem splitTopLevel_pad (hsep : Text.isBlank separator = false) {l cs r : List Char} (hl : Text.Blanks l)
    (hr : Text.Blanks r) :
    (splitTopLevel separator (l ++ cs ++ r)).map (List.map Text.trim) =
      (splitTopLevel separator cs).map (List.map Text.trim) := by
  have hcut : ∀ c, Text.isBlank c = true → cutOf separator c = false := by
    intro c hc
    refine beq_eq_false_iff_ne.2 ?_
    rintro rfl
    rw [hc] at hsep
    exact absurd hsep (by decide)
  have hleft := splitFrom_append (n := outside) (walk_of_blanks hcut hl 0) (cs ++ r)
  simp only [outside] at hleft
  unfold splitTopLevel
  rw [List.append_assoc, hleft, splitFrom_append_blanks (by simp) hsep 0 cs hr]
  cases h : splitFrom separator none 0 cs with
  | error e => rfl
  | ok pieces =>
    obtain ⟨piece, others, rfl, -⟩ := walk_of_splitFrom (n := outside) h
    have hlast : (appendLast r (piece :: others)).map Text.trim = (piece :: others).map Text.trim :=
      map_trim_appendLast hr (by simp)
    have hne : ∃ first rest, appendLast r (piece :: others) = first :: rest := by
      cases others with
      | nil => exact ⟨_, _, rfl⟩
      | cons other others => exact ⟨_, _, rfl⟩
    obtain ⟨first, rest, hfirst⟩ := hne
    have hfront : Text.trim (l ++ first) = Text.trim first := by
      simpa using Text.trim_pad hl Text.blanks_nil
    simp only [Except.map, hfirst, foldr_consPiece, List.map_cons, hfront, ← hlast]

end CrudScaffold
