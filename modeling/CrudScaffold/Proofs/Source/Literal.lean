import CrudScaffold.Proofs.Text.Lower
import CrudScaffold.Proofs.Text.Quoted
import CrudScaffold.Source.Literal
import Mathlib.Data.List.TakeWhile

/-!
# Literals of the language

What a literal of the generated code can be, by the rules of its language: a constant, a number with or without a
minus sign, or a string.  A default value is written as one of them unless it is one of the numerals that the language
does not know (`isLiteral_literal_iff`): those with digits of other scripts, and the integers that begin with a zero
without being zero.
-/

namespace CrudScaffold.Source

open Text (IsAscii isDecimalDigit isNumeral)
open Text.Quoted (evaluate hexValue? isOctal)

/-! ### Numbers -/

/-- One or more digits, with single underscores between them. -/
inductive Digits (p : Char → Bool) : List Char → Prop
  | last {c : Char} (h : p c = true) : Digits p [c]
  | next {c : Char} {cs : List Char} (h : p c = true) (rest : Digits p cs) : Digits p (c :: cs)
  | spaced {c : Char} {cs : List Char} (h : p c = true) (rest : Digits p cs) : Digits p (c :: '_' :: cs)

/-- The other bases: the letters that name them after a zero, and their digits. -/
def bases : List (List Char × (Char → Bool)) :=
  [(['b', 'B'], fun c => c == '0' || c == '1'), (['o', 'O'], isOctal), (['x', 'X'], fun c => (hexValue? c).isSome)]

inductive IsInteger : List Char → Prop
  | decimal {c : Char} {cs : List Char} (hc : c ≠ '0') (h : Digits Char.isDigit (c :: cs)) : IsInteger (c :: cs)
  | zero {cs : List Char} (h : Digits (· == '0') cs) : IsInteger cs
  | based {letters : List Char} {p : Char → Bool} {letter : Char} {space cs : List Char} (hbase : (letters, p) ∈ bases)
      (hletter : letter ∈ letters) (hspace : space ∈ [[], ['_']]) (h : Digits p cs) :
      IsInteger ('0' :: letter :: (space ++ cs))

/-- Digits around a point, at one of its sides at least. -/
inductive IsPointed : List Char → Prop
  | fraction {whole cs : List Char} (hwhole : whole = [] ∨ Digits Char.isDigit whole) (h : Digits Char.isDigit cs) :
      IsPointed (whole ++ '.' :: cs)
  | whole {cs : List Char} (h : Digits Char.isDigit cs) : IsPointed (cs ++ ['.'])

inductive IsFloat : List Char → Prop
  | pointed {cs : List Char} (h : IsPointed cs) : IsFloat cs
  | scaled {base sign cs : List Char} {mark : Char} (hbase : Digits Char.isDigit base ∨ IsPointed base)
      (hmark : mark ∈ ['e', 'E']) (hsign : sign ∈ [[], ['+'], ['-']]) (h : Digits Char.isDigit cs) :
      IsFloat (base ++ mark :: (sign ++ cs))

def IsNumber (cs : List Char) : Prop := IsInteger cs ∨ IsFloat cs

/-- A literal of the generated code; the names of characters are a parameter of its strings. -/
inductive IsLiteral (named : String → Option Char) : List Char → Prop
  | constant {code : String} (h : code ∈ ["True", "False", "None"]) : IsLiteral named code.toList
  | number {cs : List Char} (h : IsNumber cs) : IsLiteral named cs
  | negated {cs : List Char} (h : IsNumber cs) : IsLiteral named ('-' :: cs)
  | text {cs : List Char} (h : (evaluate named cs).isSome = true) : IsLiteral named cs

/-- A numeral that is not one of the language. -/
inductive IsForeignNumeral : List Char → Prop
  /-- One of its digits belongs to another script. -/
  | script {cs : List Char} {c : Char} (h : isNumeral cs = true) (hc : c ∈ cs) (hscript : ¬ IsAscii c) :
      IsForeignNumeral cs
  /-- A zero stands in front of an integer that is not zero. -/
  | zero {sign cs : List Char} {c : Char} (hsign : sign ∈ [[], ['-']]) (h : ∀ d ∈ cs, isDecimalDigit d = true)
      (hc : c ∈ cs) (hzero : c ≠ '0') : IsForeignNumeral (sign ++ '0' :: cs)

/-! ### Characters of numbers -/

section Characters

variable {p : Char → Bool} {cs : List Char} {c : Char}

private theorem Digits.mem (h : Digits p cs) (hc : c ∈ cs) : p c = true ∨ c = '_' := by
  induction h with
  | last h =>
    obtain rfl := List.mem_singleton.1 hc
    exact Or.inl h
  | next h _ ih =>
    rcases List.mem_cons.1 hc with rfl | hc
    · exact Or.inl h
    · exact ih hc
  | spaced h _ ih =>
    rcases List.mem_cons.1 hc with rfl | hc
    · exact Or.inl h
    rcases List.mem_cons.1 hc with rfl | hc
    · exact Or.inr rfl
    · exact ih hc

private theorem Digits.head (h : Digits p cs) : ∃ c, cs.head? = some c ∧ p c = true := by
  cases h with
  | last h => exact ⟨_, rfl, h⟩
  | next h _ => exact ⟨_, rfl, h⟩
  | spaced h _ => exact ⟨_, rfl, h⟩

private theorem digits_of_forall (hne : cs ≠ []) (h : ∀ c ∈ cs, p c = true) : Digits p cs := by
  induction cs with
  | nil => exact absurd rfl hne
  | cons c cs ih =>
    have hc := h c List.mem_cons_self
    cases cs with
    | nil => exact .last hc
    | cons d cs => exact .next hc (ih (List.cons_ne_nil _ _) fun e he => h e (List.mem_cons_of_mem _ he))

private theorem isDecimalDigit_of_ascii (h : IsAscii c) : isDecimalDigit c = c.isDigit := by
  have hall : ∀ n : Fin 128, isDecimalDigit (Char.ofNat n) = (Char.ofNat n).isDigit := by decide +kernel
  have := hall ⟨c.toNat, h⟩
  rwa [Char.ofNat_toNat] at this

private theorem ascii_of_isDigit (h : c.isDigit = true) : IsAscii c := by
  have hle : c.toNat ≤ 0x39 := by
    simp only [Char.isDigit, ge_iff_le, Bool.and_eq_true, decide_eq_true_eq] at h
    exact UInt32.le_iff_toNat_le.1 h.2
  unfold IsAscii
  omega

private theorem Digits.ascii (hp : ∀ c, p c = true → IsAscii c) (h : Digits p cs) : ∀ c ∈ cs, IsAscii c := by
  intro c hc
  rcases h.mem hc with hc | rfl
  · exact hp c hc
  · decide

private theorem ascii_of_bases : ∀ b ∈ bases, (∀ c ∈ b.1, IsAscii c) ∧ ∀ c, b.2 c = true → IsAscii c := by
  have hletters : ∀ b ∈ bases, ∀ c ∈ b.1, IsAscii c := by simp [bases, IsAscii]
  have hle {c d : Char} (hd : IsAscii d) (h : c ≤ d) : IsAscii c :=
    Nat.lt_of_le_of_lt (UInt32.le_iff_toNat_le.1 h) hd
  refine fun b hb => ⟨hletters b hb, ?_⟩
  simp only [bases, List.mem_cons, List.not_mem_nil, or_false] at hb
  rcases hb with rfl | rfl | rfl <;> intro c hc
  · simp only [Bool.or_eq_true, beq_iff_eq] at hc
    rcases hc with rfl | rfl <;> decide
  · simp only [isOctal, decide_eq_true_eq] at hc
    exact hle (by decide) hc.2
  · simp only [hexValue?] at hc
    split at hc
    · rename_i h
      exact hle (d := '9') (by decide) h.2
    split at hc
    · rename_i h
      exact hle (d := 'f') (by decide) h.2
    split at hc
    · rename_i h
      exact hle (d := 'F') (by decide) h.2
    · cases hc

private theorem IsPointed.ascii (h : IsPointed cs) : ∀ c ∈ cs, IsAscii c := by
  have hdigits {cs : List Char} (h : Digits Char.isDigit cs) : ∀ c ∈ cs, IsAscii c :=
    h.ascii fun _ => ascii_of_isDigit
  cases h with
  | fraction hwhole h =>
    simp only [List.forall_mem_append, List.forall_mem_cons]
    refine ⟨?_, by decide, hdigits h⟩
    rcases hwhole with rfl | hwhole
    · exact List.forall_mem_nil _
    · exact hdigits hwhole
  | whole h =>
    simp only [List.forall_mem_append, List.forall_mem_singleton]
    exact ⟨hdigits h, by decide⟩

theorem IsNumber.ascii (h : IsNumber cs) : ∀ c ∈ cs, IsAscii c := by
  have hdigits {cs : List Char} (h : Digits Char.isDigit cs) : ∀ c ∈ cs, IsAscii c :=
    h.ascii fun _ => ascii_of_isDigit
  rcases h with h | h
  · cases h with
    | decimal _ h => exact hdigits h
    | zero h =>
      refine h.ascii fun c hc => ?_
      obtain rfl := beq_iff_eq.1 hc
      decide
    | based hbase hletter hspace h =>
      obtain ⟨hletters, hp⟩ := ascii_of_bases _ hbase
      have hspaces : ∀ space ∈ [[], ['_']], ∀ c ∈ space, IsAscii c := by simp [IsAscii]
      simp only [List.forall_mem_append, List.forall_mem_cons]
      exact ⟨by decide, hletters _ hletter, hspaces _ hspace, h.ascii hp⟩
  · cases h with
    | pointed h => exact h.ascii
    | scaled hbase hmark hsign h =>
      have hmarks : ∀ mark ∈ ['e', 'E'], IsAscii mark := by simp [IsAscii]
      have hsigns : ∀ sign ∈ [[], ['+'], ['-']], ∀ c ∈ sign, IsAscii c := by simp [IsAscii]
      simp only [List.forall_mem_append, List.forall_mem_cons]
      exact ⟨hbase.elim hdigits IsPointed.ascii, hmarks _ hmark, hsigns _ hsign, hdigits h⟩

/-- No number begins with a sign. -/
private theorem IsNumber.head (h : IsNumber cs) : ∃ c, cs.head? = some c ∧ c ≠ '-' := by
  have hdigits {cs : List Char} (h : Digits Char.isDigit cs) : ∃ c, cs.head? = some c ∧ c ≠ '-' := by
    obtain ⟨c, hc, hdigit⟩ := h.head
    refine ⟨c, hc, ?_⟩
    rintro rfl
    exact absurd hdigit (by decide)
  have hfront {cs rest : List Char} (h : ∃ c, cs.head? = some c ∧ c ≠ '-') :
      ∃ c, (cs ++ rest).head? = some c ∧ c ≠ '-' := by
    obtain ⟨c, hc, hne⟩ := h
    exact ⟨c, by rw [List.head?_append, hc, Option.some_or], hne⟩
  have hpointed {cs : List Char} (h : IsPointed cs) : ∃ c, cs.head? = some c ∧ c ≠ '-' := by
    cases h with
    | fraction hwhole _ =>
      rcases hwhole with rfl | hwhole
      · exact ⟨'.', rfl, by decide⟩
      · exact hfront (hdigits hwhole)
    | whole h => exact hfront (hdigits h)
  rcases h with h | h
  · cases h with
    | decimal _ h => exact hdigits h
    | zero h =>
      obtain ⟨c, hc, hzero⟩ := h.head
      exact ⟨c, hc, by rw [beq_iff_eq.1 hzero]; decide⟩
    | based => exact ⟨'0', rfl, by decide⟩
  · cases h with
    | pointed h => exact hpointed h
    | scaled hbase => exact hfront (hbase.elim hdigits hpointed)

/-- A number without other characters than digits begins with a zero only if it is zero. -/
private theorem IsNumber.zeros (h : IsNumber cs) (hdigits : ∀ c ∈ cs, isDecimalDigit c = true) :
    cs.head? ≠ some '0' ∨ ∀ c ∈ cs, c = '0' := by
  have hpoint {cs : List Char} (h : IsPointed cs) (hdigits : ∀ c ∈ cs, isDecimalDigit c = true) : False := by
    have hmem : '.' ∈ cs := by cases h <;> simp
    exact absurd (hdigits _ hmem) (by decide)
  rcases h with h | h
  · cases h with
    | decimal hc _ => exact Or.inl fun h => hc (Option.some.inj h)
    | zero h =>
      refine Or.inr fun c hc => ?_
      rcases h.mem hc with hzero | rfl
      · exact beq_iff_eq.1 hzero
      · exact absurd (hdigits _ hc) (by decide)
    | based hbase hletter hspace h =>
      have hletters : ∀ b ∈ bases, ∀ c ∈ b.1, isDecimalDigit c = false := by
        simp only [bases, List.forall_mem_cons, List.not_mem_nil, false_implies, implies_true]
        decide +kernel
      have hother := hletters _ hbase _ hletter
      exact absurd (hdigits _ (List.mem_cons_of_mem _ List.mem_cons_self)) (by rw [hother]; decide)
  · cases h with
    | pointed h => exact (hpoint h hdigits).elim
    | scaled hbase hmark hsign h =>
      have hmarks : ∀ mark ∈ ['e', 'E'], isDecimalDigit mark = false := by
        simp only [List.forall_mem_cons, List.not_mem_nil, false_implies, implies_true]
        decide
      have hother := hmarks _ hmark
      exact absurd (hdigits _ (List.mem_append_right _ List.mem_cons_self)) (by rw [hother]; decide)

end Characters

/-! ### Numerals -/

section Numerals

variable {cs : List Char} {c : Char}

/-- A numeral without a sign. -/
private def isMagnitude (cs : List Char) : Bool :=
  match cs.dropWhile isDecimalDigit with
  | [] => !cs.isEmpty
  | '.' :: fraction =>
    !(cs.takeWhile isDecimalDigit).isEmpty && !fraction.isEmpty && fraction.all isDecimalDigit
  | _ => false

private theorem isNumeral_of_magnitude {sign : List Char} (hsign : sign ∈ [[], ['-']]) (hhead : cs.head? ≠ some '-') :
    isNumeral (sign ++ cs) = isMagnitude cs := by
  simp only [List.mem_cons, List.not_mem_nil, or_false] at hsign
  rcases hsign with rfl | rfl
  · unfold isNumeral
    split
    · rename_i heq
      exact absurd (congrArg List.head? heq) hhead
    · rfl
  · rfl

private theorem exists_magnitude (h : isNumeral cs = true) :
    ∃ sign magnitude, sign ∈ [[], ['-']] ∧ cs = sign ++ magnitude ∧ isMagnitude magnitude = true := by
  unfold isNumeral at h
  split at h
  · exact ⟨['-'], _, by decide, rfl, h⟩
  · exact ⟨[], cs, by decide, rfl, h⟩

private theorem isMagnitude_of_digits (hne : cs ≠ []) (h : ∀ c ∈ cs, isDecimalDigit c = true) :
    isMagnitude cs = true := by
  have hdrop : cs.dropWhile isDecimalDigit = [] := List.dropWhile_eq_nil_iff.2 h
  unfold isMagnitude
  rw [hdrop]
  simpa using hne

/-- Digits, and perhaps a point with more digits. -/
private theorem exists_fraction (h : isMagnitude cs = true) :
    ∃ whole fraction, cs = whole ++ fraction ∧ whole ≠ [] ∧ (∀ c ∈ whole, isDecimalDigit c = true) ∧
      (fraction = [] ∨ ∃ digits, fraction = '.' :: digits ∧ digits ≠ [] ∧ ∀ c ∈ digits, isDecimalDigit c = true) := by
  have hsplit : cs = cs.takeWhile isDecimalDigit ++ cs.dropWhile isDecimalDigit :=
    List.takeWhile_append_dropWhile.symm
  have hwhole : ∀ c ∈ cs.takeWhile isDecimalDigit, isDecimalDigit c = true := fun c hc => List.mem_takeWhile_imp hc
  unfold isMagnitude at h
  split at h
  · rename_i hdrop
    rw [hdrop, List.append_nil] at hsplit
    exact ⟨_, _, (List.append_nil cs).symm, by simpa using h, hsplit ▸ hwhole, Or.inl rfl⟩
  · rename_i digits hdrop
    simp only [Bool.and_eq_true, Bool.not_eq_true', List.isEmpty_eq_false_iff, List.all_eq_true] at h
    obtain ⟨⟨hne, hdigits⟩, hall⟩ := h
    exact ⟨_, _, hdrop ▸ hsplit, hne, hwhole, Or.inr ⟨digits, rfl, hdigits, hall⟩⟩
  · cases h

/-- A numeral is made of digits, with perhaps a minus sign in front of them, and a point and more digits behind. -/
theorem numeral_parts (h : isNumeral cs = true) : ∃ sign whole fraction, sign ∈ [[], ['-']] ∧
    cs = sign ++ (whole ++ fraction) ∧ whole ≠ [] ∧ (∀ c ∈ whole, isDecimalDigit c = true) ∧
      ∀ c ∈ fraction, c = '.' ∨ isDecimalDigit c = true := by
  obtain ⟨sign, magnitude, hsign, rfl, hmagnitude⟩ := exists_magnitude h
  obtain ⟨whole, fraction, rfl, hne, hwhole, hfraction⟩ := exists_fraction hmagnitude
  refine ⟨sign, whole, fraction, hsign, rfl, hne, hwhole, ?_⟩
  rcases hfraction with rfl | ⟨digits, rfl, -, hdigits⟩
  · exact fun c hc => absurd hc List.not_mem_nil
  · exact List.forall_mem_cons.2 ⟨Or.inl rfl, fun c hc => Or.inr (hdigits c hc)⟩

private theorem not_mem_digits (h : ∀ c ∈ cs, isDecimalDigit c = true) (hc : isDecimalDigit c = false) :
    cs.head? ≠ some c := by
  intro hhead
  rw [h c (List.mem_of_head? hhead)] at hc
  cases hc

private theorem IsForeignNumeral.isNumeral (h : IsForeignNumeral cs) : isNumeral cs = true := by
  cases h with
  | script h _ _ => exact h
  | @zero sign cs c hsign h _ _ =>
    have hdigits : ∀ d ∈ '0' :: cs, isDecimalDigit d = true := List.forall_mem_cons.2 ⟨by decide, h⟩
    rw [isNumeral_of_magnitude hsign (not_mem_digits hdigits (by decide))]
    exact isMagnitude_of_digits (List.cons_ne_nil _ _) hdigits

/-- A numeral begins with a minus sign or a digit. -/
private theorem exists_front (h : isNumeral cs = true) :
    ∃ c rest, cs = c :: rest ∧ (c = '-' ∨ isDecimalDigit c = true) := by
  obtain ⟨sign, magnitude, hsign, rfl, hmagnitude⟩ := exists_magnitude h
  simp only [List.mem_cons, List.not_mem_nil, or_false] at hsign
  rcases hsign with rfl | rfl
  · obtain ⟨whole, fraction, rfl, hne, hwhole, -⟩ := exists_fraction hmagnitude
    obtain ⟨c, rest, rfl⟩ := List.exists_cons_of_ne_nil hne
    exact ⟨c, _, rfl, Or.inr (hwhole c List.mem_cons_self)⟩
  · exact ⟨'-', _, rfl, Or.inl rfl⟩

/-- A literal that is a numeral is a number with or without a minus sign. -/
private theorem IsLiteral.number_of_isNumeral {named : String → Option Char} (h : IsLiteral named cs)
    (hnumeral : isNumeral cs = true) : ∃ sign rest, sign ∈ [[], ['-']] ∧ cs = sign ++ rest ∧ IsNumber rest := by
  cases h with
  | number h => exact ⟨[], cs, by decide, rfl, h⟩
  | negated h => exact ⟨['-'], _, by decide, rfl, h⟩
  | constant h =>
    have hconstants : ∀ code ∈ ["True", "False", "None"], isNumeral code.toList = false := by decide
    rw [hconstants _ h] at hnumeral
    cases hnumeral
  | text h =>
    obtain ⟨c, rest, rfl, hc⟩ := exists_front hnumeral
    have hquote : ¬ (c = '\'' ∨ c = '"') := by
      rintro (rfl | rfl) <;> exact absurd hc (by decide)
    rw [evaluate, if_neg hquote] at h
    cases h

private theorem eq_of_signs {sign sign' a b : List Char} (hsign : sign ∈ [[], ['-']]) (hsign' : sign' ∈ [[], ['-']])
    (ha : a.head? ≠ some '-') (hb : b.head? ≠ some '-') (h : sign ++ a = sign' ++ b) : a = b := by
  simp only [List.mem_cons, List.not_mem_nil, or_false] at hsign hsign'
  rcases hsign with rfl | rfl <;> rcases hsign' with rfl | rfl
  · exact h
  · exact absurd (congrArg List.head? h) ha
  · exact absurd (congrArg List.head? h).symm hb
  · exact List.append_cancel_left h

theorem not_isLiteral_of_foreign {named : String → Option Char} (h : IsForeignNumeral cs) : ¬ IsLiteral named cs := by
  intro hliteral
  obtain ⟨sign, rest, hsign, hcs, hnumber⟩ := hliteral.number_of_isNumeral h.isNumeral
  cases h with
  | script _ hc hscript =>
    have hsigns : ∀ sign ∈ [[], ['-']], ∀ c ∈ sign, IsAscii c := by simp [IsAscii]
    rw [hcs] at hc
    exact hscript ((List.mem_append.1 hc).elim (hsigns sign hsign _) (hnumber.ascii _))
  | @zero sign' cs c hsign' h hc hzero =>
    obtain ⟨d, hhead, hd⟩ := hnumber.head
    obtain rfl : '0' :: cs = rest :=
      eq_of_signs hsign' hsign (by simp) (by rw [hhead]; simpa using hd) hcs
    have hdigits : ∀ d ∈ '0' :: cs, isDecimalDigit d = true := List.forall_mem_cons.2 ⟨by decide, h⟩
    rcases hnumber.zeros hdigits with hhead | hzeros
    · exact hhead rfl
    · exact hzero (hzeros c (List.mem_cons_of_mem _ hc))

private theorem isLiteral_of_not_foreign {named : String → Option Char} (h : isNumeral cs = true)
    (hforeign : ¬ IsForeignNumeral cs) : IsLiteral named cs := by
  have hascii : ∀ c ∈ cs, IsAscii c := fun c hc => by_contra fun hscript => hforeign (.script h hc hscript)
  obtain ⟨sign, magnitude, hsign, rfl, hmagnitude⟩ := exists_magnitude h
  obtain ⟨whole, fraction, rfl, hne, hwhole, hfraction⟩ := exists_fraction hmagnitude
  have hdigits {ds : List Char} (hne : ds ≠ []) (hsub : ∀ d ∈ ds, isDecimalDigit d = true)
      (hmem : ∀ d ∈ ds, IsAscii d) : Digits Char.isDigit ds :=
    digits_of_forall hne fun d hd => isDecimalDigit_of_ascii (hmem d hd) ▸ hsub d hd
  have hnumber : IsNumber (whole ++ fraction) := by
    simp only [List.forall_mem_append] at hascii
    obtain ⟨-, hasciiWhole, hasciiFraction⟩ := hascii
    have hinteger := hdigits hne hwhole hasciiWhole
    rcases hfraction with rfl | ⟨ds, rfl, hds, hall⟩
    · rw [List.append_nil] at hforeign ⊢
      obtain ⟨c, cs, rfl⟩ := List.exists_cons_of_ne_nil hne
      by_cases hc : c = '0'
      · subst hc
        have hzeros : ∀ d ∈ cs, d = '0' := fun d hd => by_contra fun hzero =>
          hforeign (.zero hsign (fun e he => hwhole e (List.mem_cons_of_mem _ he)) hd hzero)
        refine Or.inl (.zero (digits_of_forall hne fun d hd => ?_))
        rcases List.mem_cons.1 hd with rfl | hd
        · rfl
        · exact beq_iff_eq.2 (hzeros d hd)
      · exact Or.inl (.decimal hc hinteger)
    · rw [List.forall_mem_cons] at hasciiFraction
      exact Or.inr (.pointed (.fraction (Or.inr hinteger) (hdigits hds hall hasciiFraction.2)))
  simp only [List.mem_cons, List.not_mem_nil, or_false] at hsign
  rcases hsign with rfl | rfl
  · exact .number hnumber
  · exact .negated hnumber

end Numerals

/-! ### Default values -/

/-- What is written as a constant is made of letters, in whatever case, and so it is no numeral. -/
private theorem of_lookup_constants {s code : String} (h : constants.lookup (Text.lowercase s) = some code) :
    code ∈ ["True", "False", "None"] ∧ isNumeral s.toList = false := by
  have hwords : ∀ p ∈ constants, p.2 ∈ ["True", "False", "None"] ∧
      (p.1.toList.all fun c => IsAscii c ∧ c ≠ 'k' ∧ Text.isIdentStart c = true) = true := by decide
  have hmem : (Text.lowercase s, code) ∈ constants := by
    obtain ⟨before, after, hsplit, -⟩ := List.lookup_eq_some_iff.1 h
    rw [hsplit]
    exact List.mem_append_right _ List.mem_cons_self
  obtain ⟨hcode, hletters⟩ := hwords _ hmem
  simp only [List.all_eq_true, decide_eq_true_eq] at hletters
  have hlower : Text.lower s.toList = (Text.lowercase s).toList := String.toList_ofList.symm
  rw [← hlower] at hletters
  obtain ⟨hascii, hmap⟩ := Text.ascii_of_lower fun c hc => ⟨(hletters c hc).1, (hletters c hc).2.1⟩
  refine ⟨hcode, Bool.eq_false_iff.2 fun hnumeral => ?_⟩
  obtain ⟨c, rest, hs, hc⟩ := exists_front hnumeral
  have hmem : c ∈ s.toList := hs ▸ List.mem_cons_self
  have hstart : Text.isIdentStart c = true := by
    rw [← Text.isIdentStart_toLower]
    exact (hletters _ (hmap ▸ List.mem_map_of_mem hmem)).2.2
  have hall : ∀ n : Fin 128, (Char.ofNat n = '-' ∨ isDecimalDigit (Char.ofNat n) = true) →
      Text.isIdentStart (Char.ofNat n) = false := by decide +kernel
  have hother := hall ⟨c.toNat, hascii c hmem⟩
  rw [Char.ofNat_toNat] at hother
  rw [hother hc] at hstart
  cases hstart

theorem isLiteral_textLiteral (named : String → Option Char) (value : String) :
    IsLiteral named (textLiteral value).toList := by
  refine .text ?_
  rw [textLiteral, Text.quoted, String.toList_ofList, Text.Quoted.evaluate_encode]
  rfl

/-- A value is written as a literal if and only if it is not a numeral that the language does not know. -/
theorem isLiteral_literal_iff (named : String → Option Char) (value : String) :
    IsLiteral named (literal value).toList ↔ ¬ IsForeignNumeral (Text.trim value.toList) := by
  have hstrip : (Text.strip value).toList = Text.trim value.toList := String.toList_ofList
  dsimp only [literal]
  rw [← hstrip]
  cases hlookup : constants.lookup (Text.lowercase (Text.strip value)) with
  | some code =>
    obtain ⟨hcode, hnumeral⟩ := of_lookup_constants hlookup
    exact ⟨fun _ hforeign => absurd hforeign.isNumeral (by rw [hnumeral]; decide), fun _ => .constant hcode⟩
  | none =>
    dsimp only
    split
    · rename_i hnumeral
      exact ⟨fun h hforeign => not_isLiteral_of_foreign hforeign h, isLiteral_of_not_foreign hnumeral⟩
    · rename_i hnumeral
      exact ⟨fun _ hforeign => hnumeral hforeign.isNumeral, fun _ => isLiteral_textLiteral named _⟩

end CrudScaffold.Source
