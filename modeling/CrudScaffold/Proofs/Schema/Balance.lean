import CrudScaffold.Proofs.Schema.Quoted
import CrudScaffold.Proofs.Schema.Split

/-!
# When a text can be split

A text can be split at the top level exactly if every quote in it is closed and the parentheses outside of quotes match.
Here the parentheses are counted: none of the fronts closes more of them than it opens, and none is left open
(`nested_iff_balanced`).  The separator does not matter for this, so that the pieces can be split again at any other
one, and an imbalance in a schema is found before any field of it is read (`splitTopLevel_balance`).
-/

namespace CrudScaffold

open Nesting

variable {separator : Char} {cs : List Char}

/-! ### Counting parentheses -/

/-- The characters outside of quotes, of a text that begins inside the given quote, if any. -/
def unquotedFrom : Option Char → List Char → List Char
  | _, [] => []
  | some q, c :: cs => unquotedFrom (if c = q then none else some q) cs
  | none, c :: cs => if isQuote c then unquotedFrom (some c) cs else c :: unquotedFrom none cs

/-- The quote that is open behind a text, which begins inside the given quote, if any. -/
def openQuoteFrom : Option Char → List Char → Option Char
  | quote, [] => quote
  | some q, c :: cs => openQuoteFrom (if c = q then none else some q) cs
  | none, c :: cs => openQuoteFrom (if isQuote c then some c else none) cs

/-- The characters of a text that stand outside of quotes. -/
def unquoted (cs : List Char) : List Char :=
  unquotedFrom none cs

/-- The quote that a text leaves open. -/
def openQuote (cs : List Char) : Option Char :=
  openQuoteFrom none cs

/-- From inside so many parentheses, no front closes more of them than are open. -/
private def Supported (depth : Nat) (cs : List Char) : Prop :=
  ∀ front, front <+: cs → front.count ')' ≤ depth + front.count '('

private theorem supported_nil (depth : Nat) : Supported depth [] := by
  intro front hfront
  simp [List.prefix_nil.1 hfront]

private theorem supported_cons_iff {depth : Nat} {c : Char} :
    Supported depth (c :: cs) ↔
      ∀ front, front <+: cs → (c :: front).count ')' ≤ depth + (c :: front).count '(' := by
  constructor
  · exact fun h front hfront => h (c :: front) (List.cons_prefix_cons.2 ⟨rfl, hfront⟩)
  · intro h front hfront
    rcases List.prefix_cons_iff.1 hfront with rfl | ⟨rest, rfl, hrest⟩
    · simp
    · exact h rest hrest

private theorem supported_opening_iff {depth : Nat} : Supported depth ('(' :: cs) ↔ Supported (depth + 1) cs := by
  rw [supported_cons_iff]
  refine forall₂_congr fun front _ => ?_
  rw [List.count_cons_self, List.count_cons_of_ne (by decide)]
  omega

private theorem not_supported_closing : ¬ Supported 0 (')' :: cs) := by
  rw [supported_cons_iff]
  intro h
  exact absurd (h [] List.nil_prefix) (by decide)

private theorem supported_closing_iff {depth : Nat} : Supported (depth + 1) (')' :: cs) ↔ Supported depth cs := by
  rw [supported_cons_iff]
  refine forall₂_congr fun front _ => ?_
  rw [List.count_cons_self, List.count_cons_of_ne (by decide)]
  omega

private theorem supported_ordinary_iff {depth : Nat} {c : Char} (hc : Ordinary c) :
    Supported depth (c :: cs) ↔ Supported depth cs := by
  rw [supported_cons_iff]
  refine forall₂_congr fun front _ => ?_
  rw [List.count_cons_of_ne hc.closing, List.count_cons_of_ne hc.opening]

/-- A walk without cuts reaches the end of a text if no front closes too many parentheses.  It is then inside the quote
that is open, and inside as many parentheses as have been opened and not closed. -/
theorem walk_eq_some_iff {quote : Option Char} {depth : Nat} {n : Nesting} :
    walk (fun _ => false) ⟨quote, depth⟩ cs = some n ↔
      (∀ front, front <+: unquotedFrom quote cs → front.count ')' ≤ depth + front.count '(') ∧
        n.quote = openQuoteFrom quote cs ∧
        n.depth + (unquotedFrom quote cs).count ')' = depth + (unquotedFrom quote cs).count '(' := by
  change _ ↔ Supported depth (unquotedFrom quote cs) ∧ _
  induction cs generalizing quote depth with
  | nil =>
    obtain ⟨quote', depth'⟩ := n
    have hunquoted : unquotedFrom quote [] = [] := by cases quote <;> rfl
    have hopen : openQuoteFrom quote [] = quote := by cases quote <;> rfl
    rw [hunquoted, hopen, and_iff_right (supported_nil depth)]
    simp [eq_comm]
  | cons c cs ih =>
    cases quote with
    | some q =>
      rw [walk_cons, next?_quoted, Option.bind_some, ih]
      rfl
    | none =>
      by_cases hq : isQuote c = true
      · rw [walk_cons, next?_quote hq, Option.bind_some, ih, unquotedFrom, openQuoteFrom, if_pos hq, if_pos hq]
      -- every other character is counted
      rw [unquotedFrom, openQuoteFrom, if_neg hq, if_neg hq]
      by_cases ho : c = '('
      · subst ho
        rw [walk_cons, next?_opening, Option.bind_some, ih, supported_opening_iff, List.count_cons_self,
          List.count_cons_of_ne (by decide)]
        grind
      by_cases hc : c = ')'
      · subst hc
        cases depth with
        | zero =>
          rw [walk_cons, next?_closing_zero, Option.bind_none]
          simp [not_supported_closing]
        | succ depth =>
          rw [walk_cons, next?_closing_succ, Option.bind_some, ih, supported_closing_iff, List.count_cons_self,
            List.count_cons_of_ne (by decide)]
          grind
      have hord : Ordinary c := ⟨by simpa using hq, ho, hc⟩
      rw [walk_cons, next?_uncut hord rfl, Option.bind_some, ih, supported_ordinary_iff hord,
        List.count_cons_of_ne hc, List.count_cons_of_ne ho]

/-- Every quote is closed, and outside of quotes no front closes more parentheses than it opens, nor is one left open. -/
@[mk_iff]
structure Balanced (cs : List Char) : Prop where
  fronts : ∀ front, front <+: unquoted cs → front.count ')' ≤ front.count '('
  quote : openQuote cs = none
  depth : (unquoted cs).count '(' ≤ (unquoted cs).count ')'

/-- Quotes and parentheses match exactly if the text is balanced. -/
theorem nested_iff_balanced : Nested (fun _ => false) cs ↔ Balanced cs := by
  rw [← walk_iff_nested, outside, walk_eq_some_iff]
  simp only [Nat.zero_add]
  constructor
  · rintro ⟨hfronts, hquote, hdepth⟩
    exact ⟨hfronts, hquote.symm, hdepth.ge⟩
  · rintro ⟨hfronts, hquote, hdepth⟩
    exact ⟨hfronts, hquote.symm, le_antisymm (hfronts _ List.prefix_rfl) hdepth⟩

/-! ### Splitting -/

/-- Whether a text can be split does not depend on the separator. -/
theorem exists_splitTopLevel_iff (hsep : Ordinary separator) :
    (∃ pieces, splitTopLevel separator cs = .ok pieces) ↔ Balanced cs := by
  rw [← nested_iff_balanced]
  constructor
  · rintro ⟨pieces, h⟩
    obtain ⟨-, hpieces, rfl⟩ := (splitTopLevel_eq_ok_iff hsep).1 h
    refine (nested_intercalate_iff hsep rfl hpieces).2 fun piece hpiece => ?_
    exact walk_iff_nested.1 (walk_uncut (walk_iff_nested.2 (hpieces piece hpiece)))
  · exact fun h => exists_splitTopLevel h separator

/-- Blanks at the ends do not matter for the balance. -/
theorem balanced_trim_iff : Balanced (Text.trim cs) ↔ Balanced cs := by
  rw [← nested_iff_balanced, ← nested_iff_balanced]
  exact (nested_pad_iff (fun _ _ => rfl) (Text.padded_trim cs)).symm

theorem balanced_of_splitTopLevel (hsep : Ordinary separator) {piece : List Char} {pieces : List (List Char)}
    (h : splitTopLevel separator cs = .ok pieces) (hpiece : piece ∈ pieces) : Balanced piece := by
  obtain ⟨-, hpieces, -⟩ := (splitTopLevel_eq_ok_iff hsep).1 h
  exact nested_iff_balanced.1 (walk_iff_nested.1 (walk_uncut (walk_iff_nested.2 (hpieces piece hpiece))))

/-- A piece is not split any further. -/
theorem splitTopLevel_piece (hsep : Ordinary separator) {piece : List Char} {pieces : List (List Char)}
    (h : splitTopLevel separator cs = .ok pieces) (hpiece : piece ∈ pieces) :
    splitTopLevel separator piece = .ok [piece] := by
  obtain ⟨-, hpieces, -⟩ := (splitTopLevel_eq_ok_iff hsep).1 h
  refine (splitTopLevel_eq_ok_iff hsep).2 ⟨by simp, fun p hp => ?_, by simp⟩
  exact List.mem_singleton.1 hp ▸ hpieces piece hpiece

/-! ### Imbalances in a schema -/

namespace Schema

variable {i : Imbalance}

private theorem parseModifier_ne_imbalance (text : List Char) : parseModifier text ≠ .error (.imbalance i) := by
  unfold parseModifier
  simp only [bind, Except.bind, throw, throwThe, MonadExceptOf.throw, pure, Except.pure]
  grind

private theorem parseModifiers_ne_imbalance (texts : List (List Char)) :
    parseModifiers texts ≠ .error (.imbalance i) := by
  intro h
  obtain ⟨text, -, hfault | ⟨_, -, hfault⟩⟩ := exists_part_of_readDistinct_error h
  · exact parseModifier_ne_imbalance text hfault
  · cases hfault

/-- What is wrong with the parts of a field is no imbalance. -/
theorem parseParts_ne_imbalance (parts : List (List Char)) : parseParts parts ≠ .error (.imbalance i) := by
  have hname (name : String) : nameFault? name ≠ some (.imbalance i) := by
    unfold nameFault?
    grind
  have htype (word : String) : parseType word ≠ .error (.imbalance i) := by
    unfold parseType
    grind
  unfold parseParts
  simp only [bind, Except.bind, throw, throwThe, MonadExceptOf.throw, pure, Except.pure]
  have hmodifiers := parseModifiers_ne_imbalance (i := i) (parts.drop 2)
  grind

/-- The text of a field in which quotes and parentheses match is split at its colons, also without the blanks around it. -/
theorem parseField_ne_imbalance {segment : List Char} (h : Balanced segment) {near : Option String} :
    parseField segment ≠ .error ⟨.imbalance i, near⟩ := by
  obtain ⟨pieces, hsplit⟩ := (exists_splitTopLevel_iff ordinary_colon).2 (balanced_trim_iff.2 h)
  unfold parseField
  simp only [hsplit]
  split
  · simp
  · intro hfault
    obtain ⟨fault, hparts, heq⟩ := mapError_eq_error_iff.1 hfault
    obtain rfl : fault = .imbalance i := congrArg SchemaError.fault heq
    exact parseParts_ne_imbalance _ hparts

/-- An imbalance in a schema is one of the whole text, and is told with all of it. -/
theorem parse_imbalance_iff {text : String} {near : Option String} :
    parse (some text) = .error ⟨.imbalance i, near⟩ ↔
      splitTopLevel ',' text.toList = .error i ∧ near = some (Text.strip text) := by
  unfold parse
  simp only
  split
  · rename_i hblank
    rw [List.isEmpty_iff, Text.trim_eq_nil_iff] at hblank
    simp [splitTopLevel_of_blanks ordinary_comma (by decide) hblank]
  cases hsplit : splitTopLevel ',' text.toList with
  | error i' => simp [eq_comm]
  | ok segments =>
    simp only [reduceCtorEq, false_and, iff_false]
    intro h
    obtain ⟨segment, hsegment, hfault⟩ := exists_part_of_readDistinct_error (map_eq_error_iff.1 h)
    rcases hfault with hfault | ⟨_, -, hfault⟩
    · exact parseField_ne_imbalance (balanced_of_splitTopLevel ordinary_comma hsplit hsegment) hfault
    · cases hfault

end Schema

/-- A text is refused exactly if outside of quotes one of its fronts closes more parentheses than it opens, or a quote or
a parenthesis is left open.  Otherwise the pieces give the text back, none of them is split again at the separator, and
each of them can be split at any other one, with the blanks at its ends or without.  So what a schema is refused for is
an imbalance of its whole text, and never one of a field. -/
theorem splitTopLevel_balance (hsep : Ordinary separator) (cs : List Char) :
    ((∃ i, splitTopLevel separator cs = .error i) ↔
      (∃ front, front <+: unquoted cs ∧ front.count '(' < front.count ')') ∨ openQuote cs ≠ none ∨
        (unquoted cs).count ')' < (unquoted cs).count '(') ∧
    (∀ pieces, splitTopLevel separator cs = .ok pieces →
      [separator].intercalate pieces = cs ∧
      ∀ piece ∈ pieces, splitTopLevel separator piece = .ok [piece] ∧
        ∀ other, Ordinary other →
          (∃ parts, splitTopLevel other piece = .ok parts) ∧
          ∃ parts, splitTopLevel other (Text.trim piece) = .ok parts) ∧
    ∀ (text : String) (i : Imbalance) (near : Option String),
      Schema.parse (some text) = .error ⟨.imbalance i, near⟩ ↔
        splitTopLevel ',' text.toList = .error i ∧ near = some (Text.strip text) := by
  refine ⟨?_, fun pieces h => ⟨?_, fun piece hpiece => ⟨splitTopLevel_piece hsep h hpiece, fun other hother => ?_⟩⟩,
    fun text i near => Schema.parse_imbalance_iff⟩
  · have hrefused : (∃ i, splitTopLevel separator cs = .error i) ↔ ¬ Balanced cs := by
      rw [← exists_splitTopLevel_iff hsep]
      cases splitTopLevel separator cs <;> simp
    rw [hrefused, balanced_iff]
    grind
  · exact ((splitTopLevel_eq_ok_iff hsep).1 h).2.2.symm
  · have hbalanced := balanced_of_splitTopLevel hsep h hpiece
    exact ⟨(exists_splitTopLevel_iff hother).2 hbalanced,
      (exists_splitTopLevel_iff hother).2 (balanced_trim_iff.2 hbalanced)⟩

/-- Of a parenthesis inside quotes inside parentheses, and of one that is closed before it is opened. -/
theorem splitTopLevel_balance_of_quoted :
    Ordinary ',' ∧
    (∃ pieces, splitTopLevel ',' "a:text:default(\"),('\") , b:text".toList = .ok pieces ∧ pieces.length = 2 ∧
      [','].intercalate pieces = "a:text:default(\"),('\") , b:text".toList ∧
      ∀ piece ∈ pieces, splitTopLevel ',' piece = .ok [piece] ∧
        ∃ parts, splitTopLevel ':' (Text.trim piece) = .ok parts) ∧
    (∃ i, splitTopLevel ',' "a:text,)(".toList = .error i) ∧
    ∃ i, Schema.parse (some " a:text:default(',) ") = .error ⟨.imbalance i, some "a:text:default(',)"⟩ := by
  have hsplit : splitTopLevel ',' "a:text:default(\"),('\") , b:text".toList =
      .ok ["a:text:default(\"),('\") ".toList, " b:text".toList] := by decide
  obtain ⟨hjoined, hpieces⟩ := (splitTopLevel_balance ordinary_comma _).2.1 _ hsplit
  refine ⟨ordinary_comma, ⟨_, hsplit, rfl, hjoined, fun piece hpiece => ?_⟩, ?_, ?_⟩
  · exact ⟨(hpieces piece hpiece).1, ((hpieces piece hpiece).2 ':' ordinary_colon).2⟩
  · exact (splitTopLevel_balance ordinary_comma _).1.2 (Or.inl ⟨"a:text,)".toList, by decide, by decide⟩)
  · refine ⟨.quoted '\'', ((splitTopLevel_balance ordinary_comma []).2.2 _ _ _).2 ⟨by decide, by decide⟩⟩

end CrudScaffold
