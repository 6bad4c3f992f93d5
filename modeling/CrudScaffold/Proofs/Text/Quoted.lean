import CrudScaffold.Text.Symbol
import Mathlib.Algebra.Ring.Nat

/-!
# Reading string literals

What a string literal of one line stands for, by the rules of the language that the generated code is written in: every
escape sequence it knows is read, and a backslash in front of any other character stands for itself.  A text that is
written as a literal is read back (`evaluate_encode`), and nothing in the literal ends a line
(`isPrintable_of_mem_encode`).
-/

namespace CrudScaffold.Text.Quoted

/-! ### The rules -/

/-- What a character after a backslash stands for.  A line feed there joins two lines, and stands for nothing. -/
def escapes : List (Char × List Symbol) :=
  [('\n', []), ('\\', [.char '\\']), ('\'', [.char '\'']), ('"', [.char '"']), ('a', [.char '\x07']),
    ('b', [.char '\x08']), ('f', [.char '\x0c']), ('n', [.char '\n']), ('r', [.char '\r']), ('t', [.char '\t']),
    ('v', [.char '\x0b'])]

/-- How many hexadecimal digits follow a letter after a backslash. -/
def escapeWidths : List (Char × Nat) :=
  [('x', 2), ('u', 4), ('U', 8)]

def isOctal (c : Char) : Bool :=
  '0' ≤ c ∧ c ≤ '7'

/-- The number that octal digits stand for. -/
def octalValue (digits : List Char) : Nat :=
  digits.foldl (fun n c => 8 * n + (c.toNat - 0x30)) 0

/-- The characters that cannot stand in a literal of one line; the lines of a source end with line feeds. -/
def isForeign (c : Char) : Bool :=
  c == '\n' || c == '\r' || c == '\x00'

section Evaluation

-- The character of a name in braces; the names are those of the Unicode standard.
variable (named : String → Option Char)

/-- What an escape sequence stands for, and how long it is; the backslash has been read. -/
def readEscape : List Char → Option (List Symbol × Nat)
  | [] => none
  | c :: rest =>
    match escapes.lookup c, escapeWidths.lookup c with
    | some symbols, _ => some (symbols, 1)
    | none, some width =>
      (readHex width 0 rest).bind fun (n, _) => (Symbol.ofCode? n).map fun s => ([s], width + 1)
    | none, none =>
      if c = 'N' then
        let name := (rest.drop 1).takeWhile (· ≠ '\x7d')
        if rest.head? = some '\x7b' ∧ (rest.drop (name.length + 1)).head? = some '\x7d' then
          (named (.ofList name)).map fun d => ([.char d], name.length + 3)
        else none
      else if isOctal c then
        let digits := ((c :: rest).take 3).takeWhile isOctal
        (Symbol.ofCode? (octalValue digits)).map fun s => ([s], digits.length)
      else if isForeign c then none
      else some ([.char '\\', .char c], 1)

/-- What the rest of a literal stands for up to its closing quote, which ends it. -/
def readItems (quote : Char) : List Char → Option (List Symbol)
  | [] => none
  | c :: rest =>
    if c = quote then if rest.isEmpty then some [] else none
    else if isForeign c then none
    else if c = '\\' then
      match readEscape named rest with
      | some (symbols, size) => (readItems quote (rest.drop size)).map (symbols ++ ·)
      | none => none
    else (readItems quote rest).map (.char c :: ·)
termination_by cs => cs.length
decreasing_by
  · simp only [List.length_drop, List.length_cons]
    omega
  · simp

/-- The text that a literal stands for. -/
def evaluate : List Char → Option (List Symbol)
  | quote :: rest => if quote = '\'' ∨ quote = '"' then readItems named quote rest else none
  | [] => none

end Evaluation

/-! ### Digits -/

private theorem hexValue?_hexDigit {d : Nat} (h : d < 16) : hexValue? (hexDigit d) = some d := by
  have hall : ∀ d : Fin 16, hexValue? (hexDigit d) = some d.val := by decide
  exact hall ⟨d, h⟩

private theorem length_hex (width n : Nat) : (hex width n).length = width := by
  induction width generalizing n with
  | zero => rfl
  | succ width ih => rw [hex, List.length_append, ih, List.length_singleton]

/-- Digits are read in two goes. -/
private theorem readHex_add (a b n : Nat) (cs : List Char) :
    readHex (a + b) n cs = (readHex a n cs).bind fun (m, rest) => readHex b m rest := by
  induction a generalizing n cs with
  | zero => rw [Nat.zero_add, readHex, Option.bind_some]
  | succ a ih =>
    rw [Nat.succ_add_eq_add_succ, Nat.add_succ]
    cases cs with
    | nil => rfl
    | cons c cs =>
      rw [readHex, readHex, Option.bind_assoc]
      exact congrArg _ (funext fun d => ih (16 * n + d) cs)

/-- The digits of a number are read as the number, if there are enough of them. -/
private theorem readHex_hex (width m n : Nat) (rest : List Char) :
    readHex width m (hex width n ++ rest) = some (16 ^ width * m + n % 16 ^ width, rest) := by
  induction width generalizing n rest with
  | zero => simp [readHex, hex, Nat.mod_one]
  | succ width ih =>
    have hlast : n % 16 < 16 := Nat.mod_lt _ (by decide)
    have hnumber : 16 * (16 ^ width * m + n / 16 % 16 ^ width) + n % 16 =
        16 ^ (width + 1) * m + n % 16 ^ (width + 1) := by
      have hsplit : n % 16 ^ (width + 1) = n % 16 + 16 * (n / 16 % 16 ^ width) := by
        rw [Nat.pow_succ', Nat.mod_mul]
      rw [hsplit, Nat.pow_succ', Nat.mul_assoc]
      omega
    rw [readHex_add, hex, List.append_assoc, ih, Option.bind_some, List.singleton_append]
    simp only [readHex, hexValue?_hexDigit hlast, Option.bind_some, hnumber]

/-! ### What is written is read -/

section RoundTrip

variable {named : String → Option Char} {quote : Char} {rest : List Char}

private theorem ofCode?_toNat (c : Char) : Symbol.ofCode? c.toNat = some (.char c) := by
  have hvalid : c.toNat.isValidChar := c.valid
  rw [Symbol.ofCode?, if_pos hvalid, Char.ofNat_toNat]

private theorem quote_ne_backslash (hquote : quote = '\'' ∨ quote = '"') : '\\' ≠ quote := by
  rcases hquote with rfl | rfl <;> decide

/-- An escape sequence is read, and then what follows it. -/
private theorem readItems_escape (hquote : quote = '\'' ∨ quote = '"') {cs : List Char} {symbols : List Symbol}
    (h : readEscape named (cs ++ rest) = some (symbols, cs.length)) :
    readItems named quote ('\\' :: cs ++ rest) = (readItems named quote rest).map (symbols ++ ·) := by
  rw [List.cons_append, readItems, if_neg (quote_ne_backslash hquote), if_neg (by decide), if_pos rfl, h]
  simp only [List.drop_left]

/-- The code of a character is read as the character. -/
private theorem readEscape_code {letter : Char} {width : Nat} (hletter : (letter, width) ∈ escapeWidths) {c : Char}
    (hc : c.toNat < 16 ^ width) :
    readEscape named (letter :: hex width c.toNat ++ rest) =
      some ([.char c], (letter :: hex width c.toNat).length) := by
  have hletters : ∀ p ∈ escapeWidths, escapes.lookup p.1 = none ∧ escapeWidths.lookup p.1 = some p.2 := by
    decide
  obtain ⟨hplain, hwidth⟩ := hletters _ hletter
  dsimp only at hplain hwidth
  rw [List.cons_append, readEscape, hplain, hwidth]
  simp only [readHex_hex, Option.bind_some, Nat.mul_zero, Nat.zero_add, Nat.mod_eq_of_lt hc, ofCode?_toNat,
    Option.map_some, List.length_cons, length_hex]

private theorem readEscape_plain {c : Char} {symbols : List Symbol} (h : escapes.lookup c = some symbols) :
    readEscape named ([c] ++ rest) = some (symbols, [c].length) := by
  rw [List.singleton_append, readEscape, h]
  rfl

/-- What one character is written as is read as the character. -/
private theorem readItems_escapeChar (hquote : quote = '\'' ∨ quote = '"') (c : Char) :
    readItems named quote (escapeChar quote c ++ rest) = (readItems named quote rest).map (.char c :: ·) := by
  have hescape (cs : List Char) (h : readEscape named (cs ++ rest) = some ([.char c], cs.length)) :
      readItems named quote ('\\' :: cs ++ rest) = (readItems named quote rest).map (.char c :: ·) :=
    readItems_escape hquote h
  unfold escapeChar
  split
  · rename_i hself
    refine hescape [c] (readEscape_plain ?_)
    rcases hself with rfl | rfl
    · rcases hquote with rfl | rfl <;> rfl
    · rfl
  rename_i hself
  rw [not_or] at hself
  split
  · rename_i hc
    exact hc ▸ hescape ['n'] (hc ▸ readEscape_plain rfl)
  split
  · rename_i hc
    exact hc ▸ hescape ['r'] (hc ▸ readEscape_plain rfl)
  split
  · rename_i hc
    exact hc ▸ hescape ['t'] (hc ▸ readEscape_plain rfl)
  split
  · rename_i hn hr _ hprintable
    have hnull : c ≠ '\x00' := by
      rintro rfl
      exact absurd hprintable (by decide +kernel)
    rw [List.singleton_append, readItems, if_neg hself.1, if_neg (by simp [isForeign, hn, hr, hnull]), if_neg hself.2]
  split
  · rename_i hsize
    exact hescape ('x' :: hex 2 c.toNat) (readEscape_code (by decide) (by omega))
  split
  · rename_i hsize
    exact hescape ('u' :: hex 4 c.toNat) (readEscape_code (by decide) (by omega))
  · have hsize : c.toNat < 16 ^ 8 := Nat.lt_of_lt_of_le c.val.toNat_lt (by decide)
    exact hescape ('U' :: hex 8 c.toNat) (readEscape_code (by decide) hsize)

theorem quoteFor_cases (cs : List Char) : quoteFor cs = '\'' ∨ quoteFor cs = '"' := by
  unfold quoteFor
  split
  · exact Or.inr rfl
  · exact Or.inl rfl

/-- The literal of a text stands for the text. -/
theorem evaluate_encode (named : String → Option Char) (cs : List Char) :
    evaluate named (encode cs) = some (Symbol.ofChars cs) := by
  have hquote := quoteFor_cases cs
  have hitems (quote : Char) (hquote : quote = '\'' ∨ quote = '"') (cs : List Char) :
      readItems named quote (escape quote cs ++ [quote]) = some (Symbol.ofChars cs) := by
    induction cs with
    | nil => simp [escape, readItems, Symbol.ofChars]
    | cons c cs ih =>
      rw [escape, List.flatMap_cons, List.append_assoc, readItems_escapeChar hquote]
      rw [escape] at ih
      rw [ih]
      rfl
  rw [encode, List.cons_append, evaluate, if_pos hquote]
  exact hitems _ hquote cs

end RoundTrip

/-! ### Lines -/

/-- The characters that end a line somewhere. -/
def lineEnds : List Char :=
  ['\n', '\x0b', '\x0c', '\r', '\x1c', '\x1d', '\x1e', '\x85', '\u2028', '\u2029']

private theorem isPrintable_hexDigit {d : Nat} (h : d < 16) : isPrintable (hexDigit d) = true := by
  have hall : ∀ d : Fin 16, isPrintable (hexDigit d) = true := by decide
  exact hall ⟨d, h⟩

/-- The characters that escape sequences begin with, and the quotes. -/
private def marks : List Char :=
  ['\\', '\'', '"', 'n', 'r', 't', 'x', 'u', 'U']

/-- Printable characters are escaped if they are marks, and digits are written for those that are not. -/
private theorem mem_escapeChar {quote c d : Char} (hquote : quote = '\'' ∨ quote = '"') (h : d ∈ escapeChar quote c) :
    d ∈ marks ∨ d = c ∧ isPrintable c = true ∨ ∃ width, d ∈ hex width c.toNat := by
  have hmarks {cs : List Char} (hsub : cs ⊆ marks) (h : d ∈ cs) :
      d ∈ marks ∨ d = c ∧ isPrintable c = true ∨ ∃ width, d ∈ hex width c.toNat :=
    Or.inl (hsub h)
  have hcode {letter : Char} {width : Nat} (hsub : ['\\', letter] ⊆ marks)
      (h : d ∈ ['\\', letter] ++ hex width c.toNat) :
      d ∈ marks ∨ d = c ∧ isPrintable c = true ∨ ∃ width, d ∈ hex width c.toNat :=
    (List.mem_append.1 h).elim (hmarks hsub) fun h => Or.inr (Or.inr ⟨width, h⟩)
  unfold escapeChar at h
  split at h
  · rename_i hself
    refine hmarks ?_ h
    rcases hself with rfl | rfl
    · rcases hquote with rfl | rfl <;> decide
    · decide
  split at h
  · exact hmarks (by decide) h
  split at h
  · exact hmarks (by decide) h
  split at h
  · exact hmarks (by decide) h
  split at h
  · rename_i hprintable
    exact Or.inr (Or.inl ⟨List.mem_singleton.1 h, hprintable⟩)
  split at h
  · exact hcode (by decide) h
  split at h
  · exact hcode (by decide) h
  · exact hcode (by decide) h

private theorem isPrintable_of_mem_hex {width n : Nat} {c : Char} (h : c ∈ hex width n) : isPrintable c = true := by
  induction width generalizing n with
  | zero => cases h
  | succ width ih =>
    rw [hex, List.mem_append, List.mem_singleton] at h
    rcases h with h | rfl
    · exact ih h
    · exact isPrintable_hexDigit (Nat.mod_lt _ (by decide))

/-- Everything in a literal is printable. -/
theorem isPrintable_of_mem_encode {cs : List Char} {c : Char} (h : c ∈ encode cs) : isPrintable c = true := by
  have hmark : ∀ mark ∈ marks, isPrintable mark = true := List.all_eq_true.1 (by decide)
  have hquote : isPrintable (quoteFor cs) = true :=
    hmark _ (by rcases quoteFor_cases cs with hq | hq <;> rw [hq] <;> decide)
  rw [encode, List.cons_append, List.mem_cons, List.mem_append, List.mem_singleton, escape, List.mem_flatMap] at h
  rcases h with rfl | ⟨d, -, hd⟩ | rfl
  · exact hquote
  · rcases mem_escapeChar (quoteFor_cases cs) hd with hd | ⟨rfl, hd⟩ | ⟨width, hd⟩
    · exact hmark c hd
    · exact hd
    · exact isPrintable_of_mem_hex hd
  · exact hquote

/-- A literal is one line. -/
theorem not_mem_encode_of_mem_lineEnds {c : Char} (hc : c ∈ lineEnds) (cs : List Char) : c ∉ encode cs := by
  have hends : ∀ c ∈ lineEnds, isPrintable c = false := by
    simp only [lineEnds, List.forall_mem_cons, List.not_mem_nil, false_implies, implies_true]
    decide +kernel
  intro h
  exact absurd (isPrintable_of_mem_encode h) (by rw [hends c hc]; decide)

end CrudScaffold.Text.Quoted
