import CrudScaffold.Schema.Split
import CrudScaffold.Proofs.Text.Trim

/-!
# Nested texts

A text is nested when its quotes and parentheses match and nothing that could cut it stands outside of them.  The
grammar of such texts (`Nested`) is compared with a walk through the text that keeps the open quote and the number
of open parentheses: a text is nested exactly when the walk starts and ends outside of both (`walk_iff_nested`).
-/

namespace CrudScaffold

/-- Quotes and parentheses match, and no character that satisfies `cut` stands outside of them. -/
inductive Nested : (Char → Bool) → List Char → Prop
  | nil {cut : Char → Bool} : Nested cut []
  | char {cut : Char → Bool} {c : Char} {cs : List Char} (hq : isQuote c = false) (ho : c ≠ '(') (hc : c ≠ ')')
      (hcut : cut c = false) (h : Nested cut cs) : Nested cut (c :: cs)
  | quoted {cut : Char → Bool} {q : Char} {inside cs : List Char} (hq : isQuote q = true) (hi : q ∉ inside)
      (h : Nested cut cs) : Nested cut (q :: (inside ++ q :: cs))
  | parens {cut : Char → Bool} {inside cs : List Char} (hi : Nested (fun _ => false) inside)
      (h : Nested cut cs) : Nested cut ('(' :: (inside ++ ')' :: cs))

/-- Where a walk through a text stands: inside a quote or not, and inside how many parentheses. -/
structure Nesting where
  quote : Option Char
  depth : Nat
  deriving DecidableEq

namespace Nesting

/-- Outside of all quotes and parentheses. -/
def outside : Nesting := ⟨none, 0⟩

/-- The step over one character, unless it closes what is not open or is a cut on the outside. -/
def next? (cut : Char → Bool) (n : Nesting) (c : Char) : Option Nesting :=
  match n.quote with
  | some q => some ⟨if c = q then none else some q, n.depth⟩
  | none =>
    if isQuote c then some ⟨some c, n.depth⟩
    else if c = '(' then some ⟨none, n.depth + 1⟩
    else if c = ')' then if n.depth = 0 then none else some ⟨none, n.depth - 1⟩
    else if cut c ∧ n.depth = 0 then none
    else some n

end Nesting

/-- The walk over a whole text. -/
def walk (cut : Char → Bool) (n : Nesting) (cs : List Char) : Option Nesting :=
  cs.foldlM (Nesting.next? cut) n

@[simp] theorem walk_nil (cut : Char → Bool) (n : Nesting) : walk cut n [] = some n := rfl

@[simp] theorem walk_cons (cut : Char → Bool) (n : Nesting) (c : Char) (cs : List Char) :
    walk cut n (c :: cs) = (n.next? cut c).bind fun m => walk cut m cs := rfl

@[simp] theorem walk_append (cut : Char → Bool) (n : Nesting) (xs ys : List Char) :
    walk cut n (xs ++ ys) = (walk cut n xs).bind fun m => walk cut m ys := by
  simp [walk]

/-- A character that is no quote and no parenthesis. -/
structure Ordinary (c : Char) : Prop where
  quote : isQuote c = false
  opening : c ≠ '('
  closing : c ≠ ')'

theorem not_ordinary_of_isQuote {c : Char} (h : isQuote c = true) : ¬ Ordinary c := by
  rintro ⟨hq, -, -⟩
  simp [h] at hq

namespace Nesting

variable {cut : Char → Bool} {q c : Char} {d : Nat}

@[simp] theorem next?_quoted : next? cut ⟨some q, d⟩ c = some ⟨if c = q then none else some q, d⟩ := rfl

theorem next?_quote (h : isQuote c = true) : next? cut ⟨none, d⟩ c = some ⟨some c, d⟩ := by
  simp [next?, h]

@[simp] theorem next?_opening : next? cut ⟨none, d⟩ '(' = some ⟨none, d + 1⟩ := rfl

@[simp] theorem next?_closing_zero : next? cut ⟨none, 0⟩ ')' = none := rfl

@[simp] theorem next?_closing_succ : next? cut ⟨none, d + 1⟩ ')' = some ⟨none, d⟩ := rfl

theorem next?_ordinary (h : Ordinary c) :
    next? cut ⟨none, d⟩ c = if cut c ∧ d = 0 then none else some ⟨none, d⟩ := by
  simp [next?, h.quote, h.opening, h.closing]

/-- An ordinary character that is no cut is stepped over at any depth. -/
theorem next?_uncut (h : Ordinary c) (hcut : cut c = false) : next? cut ⟨none, d⟩ c = some ⟨none, d⟩ := by
  simp [next?_ordinary h, hcut]

end Nesting

open Nesting

/-! ### Walks through simple texts -/

/-- Ordinary characters that are no cuts do not change the nesting. -/
theorem walk_of_ordinary {cut : Char → Bool} {cs : List Char} (h : ∀ c ∈ cs, Ordinary c ∧ cut c = false)
    (d : Nat) : walk cut ⟨none, d⟩ cs = some ⟨none, d⟩ := by
  induction cs with
  | nil => rfl
  | cons c cs ih =>
    have hc := h c (by simp)
    simp [next?_uncut hc.1 hc.2, ih fun x hx => h x (by simp [hx])]

/-- Inside a parenthesis nothing is a cut. -/
theorem walk_of_ordinary_inside {cut : Char → Bool} {cs : List Char} (h : ∀ c ∈ cs, Ordinary c) (d : Nat) :
    walk cut ⟨none, d + 1⟩ cs = some ⟨none, d + 1⟩ := by
  induction cs with
  | nil => rfl
  | cons c cs ih => simp [next?_ordinary (h c (by simp)), ih fun x hx => h x (by simp [hx])]

/-- Up to the closing quote every character is stepped over. -/
theorem walk_quoted {cut : Char → Bool} {q : Char} {inside : List Char} (h : q ∉ inside) (d : Nat) :
    walk cut ⟨some q, d⟩ (inside ++ [q]) = some ⟨none, d⟩ := by
  induction inside with
  | nil => simp
  | cons c cs ih =>
    simp only [List.mem_cons, not_or] at h
    have : c ≠ q := fun e => h.1 e.symm
    simp only [List.cons_append, walk_cons, next?_quoted, this, if_false, Option.bind_some]
    exact ih h.2

/-- A walk that leaves a quote passes its closing quote. -/
theorem exists_of_walk_quoted {cut : Char → Bool} {q : Char} {d : Nat} {m : Option Char} {n : Nesting}
    {cs : List Char} (h : walk cut ⟨m, d⟩ cs = some n) (hm : m = some q) (hn : n.quote = none) :
    ∃ inside rest, cs = inside ++ q :: rest ∧ q ∉ inside ∧ walk cut ⟨none, d⟩ rest = some n := by
  subst hm
  induction cs with
  | nil =>
    simp only [walk_nil, Option.some.injEq] at h
    subst h
    simp at hn
  | cons c cs ih =>
    by_cases hc : c = q
    · subst hc
      exact ⟨[], cs, rfl, by simp, by simpa using h⟩
    · simp only [walk_cons, next?_quoted, hc, if_false, Option.bind_some] at h
      obtain ⟨inside, rest, rfl, hi, hr⟩ := ih h
      refine ⟨c :: inside, rest, rfl, ?_, hr⟩
      simp only [List.mem_cons, not_or]
      exact ⟨fun e => hc e.symm, hi⟩

/-! ### The grammar and the walk -/

/-- The cuts that count inside so many parentheses. -/
private def cutAt (cut : Char → Bool) (depth : Nat) : Char → Bool :=
  if depth = 0 then cut else fun _ => false

private theorem walk_of_nested {cut : Char → Bool} {cs : List Char} (h : Nested cut cs) :
    ∀ (outer : Char → Bool) (d : Nat), (d = 0 → outer = cut) →
      walk outer ⟨none, d⟩ cs = some ⟨none, d⟩ := by
  induction h with
  | nil => exact fun _ _ _ => rfl
  | @char cut c cs hq ho hc hcut _ ih =>
    intro outer d hd
    have hnext : ¬ (outer c = true ∧ d = 0) := by
      rintro ⟨h, h0⟩
      rw [hd h0, hcut] at h
      exact absurd h (by decide)
    simp only [walk_cons, next?_ordinary ⟨hq, ho, hc⟩, hnext, if_false, Option.bind_some]
    exact ih outer d hd
  | @quoted cut q inside cs hq hi _ ih =>
    intro outer d hd
    have e : q :: (inside ++ q :: cs) = q :: ((inside ++ [q]) ++ cs) := by simp
    rw [e, walk_cons, next?_quote hq, Option.bind_some, walk_append, walk_quoted hi, Option.bind_some]
    exact ih outer d hd
  | parens _ _ ihi ih =>
    intro outer d hd
    simp only [walk_cons, next?_opening, Option.bind_some, walk_append]
    rw [ihi outer (d + 1) (by simp), Option.bind_some, next?_closing_succ, Option.bind_some]
    exact ih outer d hd

/-- A walk that ends no deeper than it starts either stays over a nested text, or leaves the innermost parenthesis
behind a nested text. -/
private theorem nested_or_closing {cut : Char → Bool} {n d e : Nat} {cs : List Char} (hn : cs.length < n)
    (hed : e ≤ d) (h : walk cut ⟨none, d⟩ cs = some ⟨none, e⟩) :
    (d = e ∧ Nested (cutAt cut d) cs) ∨
      ∃ front rest, cs = front ++ ')' :: rest ∧ Nested (cutAt cut d) front ∧ 0 < d ∧
        walk cut ⟨none, d - 1⟩ rest = some ⟨none, e⟩ := by
  induction n generalizing cs d with
  | zero => omega
  | succ n ih =>
    cases cs with
    | nil =>
      simp only [walk_nil, Option.some.injEq, Nesting.mk.injEq, true_and] at h
      exact Or.inl ⟨h, .nil⟩
    | cons c cs =>
      by_cases hq : isQuote c = true
      · -- a quoted stretch is followed by a shorter text at the same depth
        rw [walk_cons, next?_quote hq, Option.bind_some] at h
        obtain ⟨inside, rest, rfl, hi, hrest⟩ := exists_of_walk_quoted h rfl rfl
        have hlen : rest.length < n := by simp at hn; omega
        rcases ih hlen hed hrest with ⟨hde, hr⟩ | ⟨front, tail, rfl, hf, hd, ht⟩
        · exact Or.inl ⟨hde, .quoted hq hi hr⟩
        · exact Or.inr ⟨c :: (inside ++ c :: front), tail, by simp, .quoted hq hi hf, hd, ht⟩
      by_cases ho : c = '('
      · -- the parenthesis is left behind a nested text, and a shorter text follows at the same depth
        subst ho
        rw [walk_cons, next?_opening, Option.bind_some] at h
        rcases ih (by simpa using hn) (by omega) h with ⟨hde, -⟩ | ⟨inside, rest, rfl, hi, -, hrest⟩
        · omega
        have hi' : Nested (fun _ => false) inside := by simpa [cutAt] using hi
        have hlen : rest.length < n := by simp at hn; omega
        rcases ih hlen hed hrest with ⟨hde, hr⟩ | ⟨front, tail, rfl, hf, hd, ht⟩
        · exact Or.inl ⟨hde, .parens hi' hr⟩
        · exact Or.inr ⟨'(' :: (inside ++ ')' :: front), tail, by simp, .parens hi' hf, hd, ht⟩
      by_cases hc : c = ')'
      · subst hc
        cases d with
        | zero => simp at h
        | succ d => exact Or.inr ⟨[], cs, rfl, .nil, by omega, by simpa using h⟩
      have hord : Ordinary c := ⟨by simpa using hq, ho, hc⟩
      rw [walk_cons, next?_ordinary hord] at h
      by_cases hcut : cut c = true ∧ d = 0
      · simp [hcut] at h
      have hcut' : cutAt cut d c = false := by
        unfold cutAt
        split
        · simpa [*] using hcut
        · rfl
      rw [if_neg hcut, Option.bind_some] at h
      rcases ih (by simpa using hn) hed h with ⟨hde, hr⟩ | ⟨front, tail, rfl, hf, hd, ht⟩
      · exact Or.inl ⟨hde, .char hord.quote ho hc hcut' hr⟩
      · exact Or.inr ⟨c :: front, tail, rfl, .char hord.quote ho hc hcut' hf, hd, ht⟩

/-- A text is nested exactly when the walk through it starts and ends outside of quotes and parentheses. -/
theorem walk_iff_nested {cut : Char → Bool} {cs : List Char} :
    walk cut outside cs = some outside ↔ Nested cut cs := by
  constructor
  · intro h
    rcases nested_or_closing (Nat.lt_succ_self _) (Nat.le_refl 0) h with ⟨-, hn⟩ | ⟨-, -, -, -, hd, -⟩
    · simpa [cutAt] using hn
    · omega
  · intro h
    exact walk_of_nested h cut 0 fun _ => rfl

/-! ### Several cuts -/

/-- A cut stops a walk on the outside and changes nothing else. -/
private theorem next?_eq_some_iff {cut : Char → Bool} {n m : Nesting} {c : Char} :
    n.next? cut c = some m ↔ n.next? (fun _ => false) c = some m ∧ ¬ (Ordinary c ∧ n = outside ∧ cut c = true) := by
  obtain ⟨quote, depth⟩ := n
  cases quote with
  | some q => simp [outside]
  | none =>
    by_cases hc : Ordinary c
    · rw [next?_ordinary hc, next?_ordinary hc]
      by_cases hd : depth = 0 <;> cases cut c <;> simp [hd, hc, outside]
    · have hsame : next? cut ⟨none, depth⟩ c = next? (fun _ => false) ⟨none, depth⟩ c := by
        unfold next?
        by_cases hq : isQuote c = true
        · simp [hq]
        by_cases ho : c = '('
        · simp [ho]
        by_cases hclose : c = ')'
        · simp [hclose]
        exact absurd ⟨by simpa using hq, ho, hclose⟩ hc
      simp [hsame, hc]

/-- Without cuts the same walk is possible. -/
theorem walk_uncut {cut : Char → Bool} {cs : List Char} {n m : Nesting} (h : walk cut n cs = some m) :
    walk (fun _ => false) n cs = some m := by
  induction cs generalizing n with
  | nil => exact h
  | cons c cs ih =>
    obtain ⟨k, hk, hw⟩ := Option.bind_eq_some_iff.1 h
    exact Option.bind_eq_some_iff.2 ⟨k, (next?_eq_some_iff.1 hk).1, ih hw⟩

/-- Where a walk gets to does not depend on the cuts, as long as it gets there. -/
theorem walk_unique {cut cut' : Char → Bool} {cs : List Char} {n m m' : Nesting} (h : walk cut n cs = some m)
    (h' : walk cut' n cs = some m') : m = m' := by
  induction cs generalizing n with
  | nil => exact Option.some.inj (h.symm.trans h')
  | cons c cs ih =>
    obtain ⟨k, hk, hw⟩ := Option.bind_eq_some_iff.1 h
    obtain ⟨k', hk', hw'⟩ := Option.bind_eq_some_iff.1 h'
    obtain rfl := Option.some.inj ((next?_eq_some_iff.1 hk).1.symm.trans (next?_eq_some_iff.1 hk').1)
    exact ih hw hw'

/-- Two sets of cuts are avoided together when each is avoided. -/
theorem walk_or_iff {cut cut' : Char → Bool} {cs : List Char} {n m : Nesting} :
    walk (fun c => cut c || cut' c) n cs = some m ↔ walk cut n cs = some m ∧ walk cut' n cs = some m := by
  have hnext {n m : Nesting} {c : Char} : n.next? (fun c => cut c || cut' c) c = some m ↔
      n.next? cut c = some m ∧ n.next? cut' c = some m := by
    rw [next?_eq_some_iff, @next?_eq_some_iff cut, @next?_eq_some_iff cut', Bool.or_eq_true]
    grind
  induction cs generalizing n with
  | nil => simp
  | cons c cs ih =>
    simp only [walk_cons, Option.bind_eq_some_iff, hnext, ih]
    constructor
    · rintro ⟨k, ⟨hk, hk'⟩, hw, hw'⟩
      exact ⟨⟨k, hk, hw⟩, k, hk', hw'⟩
    · rintro ⟨⟨k, hk, hw⟩, k', hk', hw'⟩
      obtain rfl := Option.some.inj ((next?_eq_some_iff.1 hk).1.symm.trans (next?_eq_some_iff.1 hk').1)
      exact ⟨k, ⟨hk, hk'⟩, hw, hw'⟩

end CrudScaffold
