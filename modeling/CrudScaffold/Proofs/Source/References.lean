import CrudScaffold.Proofs.Identifier
import CrudScaffold.Proofs.Source.Literal
import CrudScaffold.Proofs.Text.Affix
import CrudScaffold.Source.SourceFile

/-!
# Names that lines refer to

What lines of code refer to, read from their text: the words outside of string literals, without numbers and keywords.
A word with points refers to the name in front of the first one.  What a line defines is no reference, and neither is
the name of an argument.

Texts are read character by character.  The names of a text that is put together from others are those of its parts if a
part never begins in the middle of a word (`Reads.append`), and so the text of an expression refers to the names of the
expression (`Expr.reads`).
-/

namespace CrudScaffold.Source

open Text (isDecimalDigit isIdentChar isNumeral)

/-! ### Reading -/

def keywords : List String :=
  ["False", "None", "True", "and", "as", "assert", "async", "await", "break", "class", "continue", "def", "del", "elif",
    "else", "except", "finally", "for", "from", "global", "if", "import", "in", "is", "lambda", "nonlocal", "not", "or",
    "pass", "raise", "return", "try", "while", "with", "yield"]

def isQuote (c : Char) : Bool :=
  c == '\'' || c == '"'

/-- A character of words with points. The ones of other scripts are among them. -/
def isWordPart (c : Char) : Bool :=
  isIdentChar c || c == '.' || 0x80 ≤ c.toNat

/-- What a word refers to, if it is neither a number nor a keyword. -/
def wordNames (word : List Char) : List String :=
  let first := word.takeWhile (· != '.')
  if first.head?.any (!isDecimalDigit ·) && !keywords.contains (.ofList first) then [.ofList first] else []

/-- Where the reading of a text has come to. -/
inductive Reading
  /-- A word, of which so much has been read. -/
  | word (read : List Char)
  /-- A string literal between such quotes. -/
  | text (quote : Char)
  /-- A string literal, behind a backslash. -/
  | escaped (quote : Char)

namespace Reading

/-- The names that are known with the next character. A word right in front of a quote belongs to the literal, and one
in front of an equals sign is the name of an argument. -/
def step : Reading → Char → List String × Reading
  | word read, c =>
    if isQuote c then ([], text c)
    else if isWordPart c then ([], word (read ++ [c]))
    else (if c = '=' then [] else wordNames read, word [])
  | text quote, c => ([], if c = '\\' then escaped quote else if c = quote then word [] else text quote)
  | escaped quote, _ => ([], text quote)

def run : Reading → List Char → List String × Reading
  | s, [] => ([], s)
  | s, c :: cs => ((s.step c).1 ++ (run (s.step c).2 cs).1, (run (s.step c).2 cs).2)

/-- What is referred to if the text ends here. It cannot end in a literal. -/
def names? : Reading → Option (List String)
  | word read => some (wordNames read)
  | text _ | escaped _ => none

theorem run_append (s : Reading) (cs ds : List Char) :
    s.run (cs ++ ds) = ((s.run cs).1 ++ ((s.run cs).2.run ds).1, ((s.run cs).2.run ds).2) := by
  induction cs generalizing s with
  | nil => simp [run]
  | cons c cs ih => simp [run, ih]

end Reading

/-- The names that code refers to. -/
def codeNames (code : List Char) : List String :=
  ((Reading.word []).run code).1 ++ ((Reading.word []).run code).2.names?.getD []

/-- The code ends every literal that it begins, and these are the names that it refers to. -/
def Reads (code : List Char) (names : List String) : Prop :=
  ((Reading.word []).run code).2.names?.map (((Reading.word []).run code).1 ++ ·) = some names

instance (code : List Char) (names : List String) : Decidable (Reads code names) :=
  inferInstanceAs (Decidable (_ = _))

/-- A character between words. -/
def isBreak (c : Char) : Bool :=
  !isQuote c && !isWordPart c

/-- Code that does not go on with a word. -/
def IsBroken (code : List Char) : Prop :=
  code.head?.all (fun c => isBreak c && c != '=') = true

instance (code : List Char) : Decidable (IsBroken code) :=
  inferInstanceAs (Decidable (_ = _))

section Texts

variable {read code rest word text : List Char} {names more : List String} {quote c : Char}

theorem reads_iff :
    Reads code names ↔ ∃ front read, (Reading.word []).run code = (front, .word read) ∧ front ++ wordNames read = names := by
  unfold Reads
  rcases (Reading.word []).run code with ⟨front, read | quote | quote⟩ <;> simp [Reading.names?]

theorem Reads.codeNames_eq (h : Reads code names) : codeNames code = names := by
  obtain ⟨front, read, hrun, hnames⟩ := reads_iff.1 h
  simpa [codeNames, hrun, Reading.names?] using hnames

theorem reads_nil : Reads [] [] := by decide

theorem isBroken_cons (h : (isBreak c && c != '=') = true) (rest : List Char) : IsBroken (c :: rest) := by
  simpa [IsBroken] using h

/-! ### Words and literals -/

theorem isQuote_of_isWordPart (h : isWordPart c = true) : isQuote c = false := by
  rw [Bool.eq_false_iff]
  intro hquote
  simp only [isQuote, Bool.or_eq_true, beq_iff_eq] at hquote
  rcases hquote with rfl | rfl <;> exact absurd h (by decide)

private theorem run_word (h : ∀ c ∈ word, isWordPart c = true) :
    (Reading.word read).run word = ([], .word (read ++ word)) := by
  induction word generalizing read with
  | nil => simp [Reading.run]
  | cons c word ih =>
    rw [List.forall_mem_cons] at h
    simp [Reading.run, Reading.step, isQuote_of_isWordPart h.1, h.1, ih h.2]

/-- A literal goes on over everything but its quote and backslashes. -/
private theorem run_text (h : ∀ c ∈ text, c ≠ quote ∧ c ≠ '\\') :
    (Reading.text quote).run text = ([], .text quote) := by
  induction text with
  | nil => rfl
  | cons c text ih =>
    rw [List.forall_mem_cons] at h
    simp [Reading.run, Reading.step, h.1, ih h.2]

theorem reads_word (h : ∀ c ∈ word, isWordPart c = true) : Reads word (wordNames word) :=
  reads_iff.2 ⟨[], word, run_word h, rfl⟩

/-- A literal refers to nothing, and neither does a word right in front of it. -/
theorem reads_text (hword : ∀ c ∈ word, isWordPart c = true) (hquote : isQuote quote = true)
    (h : ∀ c ∈ text, c ≠ quote ∧ c ≠ '\\') : Reads (word ++ quote :: (text ++ [quote])) [] := by
  have hback : quote ≠ '\\' := by
    rintro rfl
    exact absurd hquote (by decide)
  refine reads_iff.2 ⟨[], [], ?_, by decide⟩
  rw [Reading.run_append, run_word hword]
  simp [Reading.run, Reading.step, hquote, Reading.run_append, run_text h, hback]

/-- So does a text between three quotes on each side. -/
theorem reads_doc (h : ∀ c ∈ text, c ≠ '"' ∧ c ≠ '\\') : Reads ('"' :: '"' :: '"' :: (text ++ ['"', '"', '"'])) [] := by
  refine reads_iff.2 ⟨[], [], ?_, by decide⟩
  have hquote : isQuote '"' = true := by decide
  simp [Reading.run, Reading.step, hquote, Reading.run_append, run_text h]

/-! ### Texts that are put together -/

/-- Between words nothing is left over from what was read before. -/
private theorem run_broken (h : IsBroken code) :
    (Reading.word read).run code = if code = [] then ([], .word read) else
      (wordNames read ++ ((Reading.word []).run code).1, ((Reading.word []).run code).2) := by
  cases code with
  | nil => rfl
  | cons c code =>
    have hempty : wordNames [] = [] := by decide
    simp only [IsBroken, isBreak, List.head?_cons, Option.all_some, Bool.and_eq_true, Bool.not_eq_true', bne_iff_ne] at h
    obtain ⟨⟨hquote, hpart⟩, heq⟩ := h
    simp [Reading.run, Reading.step, hquote, hpart, heq, hempty]

/-- The names of two texts, when the second one does not begin with a word. -/
theorem Reads.append (h : Reads code names) (hrest : Reads rest more) (hbroken : IsBroken rest) :
    Reads (code ++ rest) (names ++ more) := by
  obtain ⟨front, read, hrun, rfl⟩ := reads_iff.1 h
  obtain ⟨front', read', hrun', rfl⟩ := reads_iff.1 hrest
  rw [reads_iff, Reading.run_append, hrun, run_broken hbroken]
  split
  · rename_i hnil
    subst hnil
    obtain ⟨rfl, rfl⟩ : [] = front' ∧ [] = read' := by simpa [Reading.run] using hrun'
    exact ⟨_, _, rfl, by simp [wordNames]⟩
  · exact ⟨_, _, by rw [hrun'], by simp⟩

/-- Something that is no word may stand in front of everything. -/
theorem Reads.cons (h : Reads code names) (hc : isBreak c = true) : Reads (c :: code) names := by
  have hempty : wordNames [] = [] := by decide
  simp only [isBreak, Bool.and_eq_true, Bool.not_eq_true'] at hc
  obtain ⟨front, read, hrun, rfl⟩ := reads_iff.1 h
  refine reads_iff.2 ⟨front, read, ?_, rfl⟩
  simp [Reading.run, Reading.step, hc, hempty, hrun]

/-- The name of an argument does not count. -/
theorem Reads.argument (h : Reads code names) (hword : ∀ c ∈ word, isWordPart c = true) :
    Reads (word ++ '=' :: code) names := by
  obtain ⟨front, read, hrun, rfl⟩ := reads_iff.1 h
  have hquote : isQuote '=' = false := by decide
  have hpart : isWordPart '=' = false := by decide
  refine reads_iff.2 ⟨front, read, ?_, rfl⟩
  rw [Reading.run_append, run_word hword]
  simp [Reading.run, Reading.step, hquote, hpart, hrun]

end Texts

/-! ### Values that are written out -/

private theorem isWordPart_of_isDecimalDigit {c : Char} (h : isDecimalDigit c = true) : isWordPart c = true := by
  have hall : ∀ n : Fin 128, isDecimalDigit (Char.ofNat n) = true → isWordPart (Char.ofNat n) = true := by
    decide +kernel
  by_cases hc : c.toNat < 128
  · have hdigit := hall ⟨c.toNat, hc⟩
    rw [Char.ofNat_toNat] at hdigit
    exact hdigit h
  · simp only [isWordPart, Bool.or_eq_true, decide_eq_true_eq]
    omega

private theorem reads_of_isNumeral {cs : List Char} (h : isNumeral cs = true) : Reads cs [] := by
  obtain ⟨sign, whole, fraction, hsign, rfl, hne, hwhole, hfraction⟩ := Source.numeral_parts h
  obtain ⟨c, whole, rfl⟩ := List.exists_cons_of_ne_nil hne
  have hc : isDecimalDigit c = true := hwhole c List.mem_cons_self
  have hpoint : c ≠ '.' := by
    rintro rfl
    exact absurd hc (by decide)
  have hparts : ∀ d ∈ c :: whole ++ fraction, isWordPart d = true := by
    rw [List.forall_mem_append]
    refine ⟨fun d hd => isWordPart_of_isDecimalDigit (hwhole d hd), fun d hd => ?_⟩
    rcases hfraction d hd with rfl | hd
    · decide
    · exact isWordPart_of_isDecimalDigit hd
  have hnames : wordNames (c :: whole ++ fraction) = [] := by
    simp [wordNames, hpoint, hc]
  have hmagnitude : Reads (c :: whole ++ fraction) [] := hnames ▸ reads_word hparts
  simp only [List.mem_cons, List.not_mem_nil, or_false] at hsign
  rcases hsign with rfl | rfl
  · exact hmagnitude
  · exact hmagnitude.cons (by decide)

private theorem isIdentChar_of_mem_hex {width n : Nat} {c : Char} (h : c ∈ Text.Quoted.hex width n) :
    isIdentChar c = true := by
  have hdigit : ∀ d : Fin 16, isIdentChar (Text.Quoted.hexDigit d) = true := by decide
  induction width generalizing n with
  | zero => cases h
  | succ width ih =>
    rw [Text.Quoted.hex, List.mem_append, List.mem_singleton] at h
    rcases h with h | rfl
    · exact ih h
    · exact hdigit ⟨n % 16, Nat.mod_lt _ (by decide)⟩

/-- A literal goes on over what is escaped in it. -/
private theorem run_escapeChar {quote : Char} (hquote : isQuote quote = true) (c : Char) :
    (Reading.text quote).run (Text.Quoted.escapeChar quote c) = ([], .text quote) := by
  have hescape (d : Char) {digits : List Char} (h : ∀ c ∈ digits, isIdentChar c = true) :
      (Reading.text quote).run ('\\' :: d :: digits) = ([], .text quote) := by
    have hdigits : ∀ c ∈ digits, c ≠ quote ∧ c ≠ '\\' := by
      intro c hc
      simp only [isQuote, Bool.or_eq_true, beq_iff_eq] at hquote
      refine ⟨?_, ?_⟩ <;> rintro rfl
      · rcases hquote with rfl | rfl <;> exact absurd (h _ hc) (by decide)
      · exact absurd (h _ hc) (by decide)
    simp [Reading.run, Reading.step, run_text hdigits]
  have hnone : ∀ c ∈ ([] : List Char), isIdentChar c = true := List.forall_mem_nil _
  unfold Text.Quoted.escapeChar
  split
  · exact hescape c hnone
  rename_i hself
  split
  · exact hescape 'n' hnone
  split
  · exact hescape 'r' hnone
  split
  · exact hescape 't' hnone
  split
  · exact run_text (List.forall_mem_singleton.2 (not_or.1 hself))
  split
  · exact hescape 'x' fun c => isIdentChar_of_mem_hex
  split
  · exact hescape 'u' fun c => isIdentChar_of_mem_hex
  · exact hescape 'U' fun c => isIdentChar_of_mem_hex

private theorem reads_encode (cs : List Char) : Reads (Text.Quoted.encode cs) [] := by
  have hquote : isQuote (Text.Quoted.quoteFor cs) = true := by
    rcases Text.Quoted.quoteFor_cases cs with hq | hq <;> rw [hq] <;> decide
  have hback : Text.Quoted.quoteFor cs ≠ '\\' := by
    rcases Text.Quoted.quoteFor_cases cs with hq | hq <;> rw [hq] <;> decide
  have hescape : ∀ ds : List Char, (Reading.text (Text.Quoted.quoteFor cs)).run
      (Text.Quoted.escape (Text.Quoted.quoteFor cs) ds) = ([], .text (Text.Quoted.quoteFor cs)) := by
    intro ds
    induction ds with
    | nil => rfl
    | cons d ds ih =>
      rw [Text.Quoted.escape] at ih ⊢
      rw [List.flatMap_cons, Reading.run_append, run_escapeChar hquote, ih]
      rfl
  refine reads_iff.2 ⟨[], [], ?_, by decide⟩
  simp [Text.Quoted.encode, Reading.run, Reading.step, hquote, Reading.run_append, hescape cs, hback]

theorem reads_textLiteral (value : String) : Reads (textLiteral value).toList [] := by
  rw [textLiteral, Text.quoted, String.toList_ofList]
  exact reads_encode _

/-- A value that is written out refers to nothing. -/
theorem reads_literal (value : String) : Reads (literal value).toList [] := by
  have hconstants : ∀ p ∈ constants, Reads p.2.toList [] := by decide
  unfold literal
  dsimp only
  split
  · rename_i code hlookup
    obtain ⟨before, after, hsplit, -⟩ := List.lookup_eq_some_iff.1 hlookup
    exact hconstants (_, code) (hsplit ▸ List.mem_append_right _ List.mem_cons_self)
  split
  · rename_i hnumeral
    exact reads_of_isNumeral hnumeral
  · exact reads_textLiteral _

/-! ### Expressions -/

/-- A name, perhaps with points in it, that refers to its first part. -/
def isReference (dotted : String) : Bool :=
  decide (Reads dotted.toList [headName dotted])

theorem isWordPart_of_isIdentChars {name : List Char} (h : isIdentChars name = true) :
    ∀ c ∈ name, isWordPart c = true :=
  fun c hc => by simp [isWordPart, forall_isIdentChar h c hc]

private theorem takeWhile_point {name : List Char} (h : isIdentChars name = true) :
    name.takeWhile (· != '.') = name := by
  refine List.takeWhile_eq_self_iff.2 fun c hc => ?_
  rw [bne_iff_ne]
  rintro rfl
  exact absurd (forall_isIdentChar h _ hc) (by decide)

/-- An identifier refers to itself, unless it is a keyword. -/
theorem wordNames_of_isIdentChars {name : String} (h : isIdentChars name.toList = true) :
    wordNames name.toList = if name ∈ keywords then [] else [name] := by
  have hdigit : name.toList.head?.any (fun c => !isDecimalDigit c) = true := by
    have hall : ∀ n : Fin 128, Text.isIdentStart (Char.ofNat n) = true → isDecimalDigit (Char.ofNat n) = false := by
      decide +kernel
    obtain ⟨c, cs, hcs, hc, -⟩ := isIdentChars_iff.1 h
    have hletter := hall ⟨c.toNat, isAscii_of_isIdentChar (isIdentChar_of_isIdentStart hc)⟩
    rw [Char.ofNat_toNat] at hletter
    simp [hcs, hletter hc]
  simp only [wordNames, takeWhile_point h, String.ofList_toList, hdigit, Bool.true_and, Bool.not_eq_true',
    List.contains_eq_mem, decide_eq_false_iff_not, ite_not]

theorem isReference_of_isIdentChars {name : String} (h : isIdentChars name.toList = true) (hkeyword : name ∉ keywords) :
    isReference name = true ∧ headName name = name := by
  have hhead : headName name = name := by rw [headName, takeWhile_point h, String.ofList_toList]
  have hread := reads_word (isWordPart_of_isIdentChars h)
  rw [wordNames_of_isIdentChars h, if_neg hkeyword] at hread
  exact ⟨decide_eq_true (hhead.symm ▸ hread), hhead⟩

/-- A word, which may name an argument. -/
def isWord (name : String) : Bool :=
  name.toList.all isWordPart

mutual

/-- What is referred to by its name is a name, and what is written out refers to nothing. -/
def Expr.isClear : Expr → Bool
  | .path dotted => isReference dotted
  | .literal code => decide (Reads code.toList [])
  | .quoted text => text.toList.all fun c => c != '"' && c != '\\'
  | .call callee arguments => isReference callee && arguments.isClear
  | .index base arguments => isReference base && arguments.isClear
  | .list items => items.isClear

def Arguments.isClear : Arguments → Bool
  | .nil => true
  | .positional e rest => e.isClear && rest.isClear
  | .keyword name e rest => isWord name && e.isClear && rest.isClear

end

/-- Words without quotes and backslashes are clear between quotes. -/
theorem isClear_quoted {text : String} (h : ∀ c ∈ text.toList, isIdentChar c = true ∨ c = ' ' ∨ c = '.') :
    (Expr.quoted text).isClear = true := by
  rw [Expr.isClear, List.all_eq_true]
  intro c hc
  rcases h c hc with h | rfl | rfl
  · rw [Bool.and_eq_true, bne_iff_ne, bne_iff_ne]
    constructor <;> rintro rfl <;> exact absurd h (by decide)
  · decide
  · decide

theorem Arguments.nil_append (b : Arguments) : (.nil ++ b : Arguments) = b := rfl

theorem Arguments.positional_append (e : Expr) (rest b : Arguments) :
    (.positional e rest ++ b : Arguments) = .positional e (rest ++ b) := rfl

theorem Arguments.keyword_append (name : String) (e : Expr) (rest b : Arguments) :
    (.keyword name e rest ++ b : Arguments) = .keyword name e (rest ++ b) := rfl

theorem Arguments.isClear_append (a b : Arguments) : (a ++ b).isClear = (a.isClear && b.isClear) := by
  cases a with
  | nil => simp [isClear, nil_append]
  | positional e rest => simp [isClear, positional_append, isClear_append rest b, Bool.and_assoc]
  | keyword name e rest => simp [isClear, keyword_append, isClear_append rest b, Bool.and_assoc]

theorem Arguments.names_append (a b : Arguments) : (a ++ b).names = a.names ++ b.names := by
  cases a with
  | nil => simp [names, nil_append]
  | positional e rest => simp [names, positional_append, names_append rest b]
  | keyword name e rest => simp [names, keyword_append, names_append rest b]

theorem Arguments.isClear_ofValues (es : List Expr) : (ofValues es).isClear = es.all Expr.isClear := by
  induction es with
  | nil => rfl
  | cons e es ih => simp [ofValues, isClear, ih]

theorem Arguments.names_ofValues (es : List Expr) : (ofValues es).names = es.flatMap Expr.names := by
  induction es with
  | nil => rfl
  | cons e es ih => simp [ofValues, names, ih]

theorem Arguments.isClear_ofKeywords (settings : List (String × Expr)) :
    (ofKeywords settings).isClear = settings.all fun p => isWord p.1 && p.2.isClear := by
  induction settings with
  | nil => rfl
  | cons p settings ih => simp [ofKeywords, isClear, ih]

theorem Arguments.names_ofKeywords (settings : List (String × Expr)) :
    (ofKeywords settings).names = settings.flatMap fun p => p.2.names := by
  induction settings with
  | nil => rfl
  | cons p settings ih => simp [ofKeywords, names, ih]

section Applied

variable {callee : String} (hcallee : isReference callee = true ∧ headName callee = callee)

include hcallee

/-- A call refers to what is called, and to what its arguments refer to. -/
theorem clear_call (a : Arguments) :
    (Expr.call callee a).isClear = a.isClear ∧ (Expr.call callee a).names = callee :: a.names := by
  simp [Expr.isClear, Expr.names, hcallee]

/-- So does a type that is applied to another one. -/
theorem clear_of (e : Expr) :
    (Expr.of callee e).isClear = e.isClear ∧ (Expr.of callee e).names = callee :: e.names := by
  rw [Expr.of, Expr.isClear, Expr.names, Arguments.isClear_ofValues, Arguments.names_ofValues]
  simp [hcallee]

end Applied

theorem Reads.joined {text : String} {texts names more : List String} (h : Reads text.toList names)
    (hrest : Reads (", ".intercalate texts).toList more) :
    Reads (", ".intercalate (text :: texts)).toList (names ++ more) := by
  cases texts with
  | nil =>
    have hnone : codeNames (", ".intercalate []).toList = [] := by decide
    obtain rfl : [] = more := hnone ▸ hrest.codeNames_eq
    simpa using h
  | cons next texts =>
    have hcomma : (", " ++ ", ".intercalate (next :: texts)).toList =
        ',' :: ' ' :: (", ".intercalate (next :: texts)).toList := by
      rw [String.toList_append]
      rfl
    rw [String.intercalate_cons_cons, String.append_assoc, String.toList_append, hcomma]
    exact h.append ((hrest.cons (by decide)).cons (by decide)) (isBroken_cons (by decide) _)

/-- What stands between two brackets. -/
theorem Reads.enclosed {code : List Char} {names : List String} {opening closing : Char} (h : Reads code names)
    (hopening : isBreak opening = true) (hclosing : (isBreak closing && closing != '=') = true) :
    Reads (opening :: (code ++ [closing])) names := by
  have hend : Reads [closing] [] := reads_nil.cons (Bool.and_eq_true_iff.1 hclosing).1
  simpa using (h.append hend (isBroken_cons hclosing [])).cons hopening

/-- Something that is called or indexed. -/
private theorem Reads.applied {callee : String} {code : List Char} {names : List String} {opening closing : Char}
    (h : Reads code names) (hcallee : isReference callee = true) (hopening : (isBreak opening && opening != '=') = true)
    (hclosing : (isBreak closing && closing != '=') = true) :
    Reads (callee.toList ++ opening :: (code ++ [closing])) (headName callee :: names) :=
  have henclosed := h.enclosed (Bool.and_eq_true_iff.1 hopening).1 hclosing
  (of_decide_eq_true hcallee : Reads _ _).append henclosed (isBroken_cons hopening _)

mutual

/-- The text of an expression refers to the names of the expression. -/
theorem Expr.reads (e : Expr) (h : e.isClear = true) : Reads e.render.toList e.names := by
  cases e with
  | path dotted => exact of_decide_eq_true h
  | literal code => exact of_decide_eq_true h
  | quoted text =>
    have htext : ∀ c ∈ text.toList, c ≠ '"' ∧ c ≠ '\\' := by
      simpa [Expr.isClear, List.all_eq_true] using h
    have hreads := reads_text (List.forall_mem_nil _) (by decide : isQuote '"' = true) htext
    simpa [Expr.render, Expr.names] using hreads
  | call callee arguments =>
    obtain ⟨hcallee, harguments⟩ := Bool.and_eq_true_iff.1 h
    have happlied := (arguments.reads harguments).applied hcallee (by decide : (isBreak '(' && '(' != '=') = true)
      (by decide : (isBreak ')' && ')' != '=') = true)
    simpa [Expr.render, Expr.names] using happlied
  | index base arguments =>
    obtain ⟨hbase, harguments⟩ := Bool.and_eq_true_iff.1 h
    have happlied := (arguments.reads harguments).applied hbase (by decide : (isBreak '[' && '[' != '=') = true)
      (by decide : (isBreak ']' && ']' != '=') = true)
    simpa [Expr.render, Expr.names] using happlied
  | list items =>
    have hitems := (items.reads h).enclosed (by decide : isBreak '[' = true)
      (by decide : (isBreak ']' && ']' != '=') = true)
    simpa [Expr.render, Expr.names] using hitems

theorem Arguments.reads (a : Arguments) (h : a.isClear = true) : Reads (", ".intercalate a.texts).toList a.names := by
  cases a with
  | nil => exact reads_nil
  | positional e rest =>
    obtain ⟨he, hrest⟩ := Bool.and_eq_true_iff.1 h
    exact (e.reads he).joined (rest.reads hrest)
  | keyword name e rest =>
    obtain ⟨hfirst, hrest⟩ := Bool.and_eq_true_iff.1 h
    obtain ⟨hname, he⟩ := Bool.and_eq_true_iff.1 hfirst
    have hargument : Reads (name ++ "=" ++ e.render).toList e.names := by
      have hreads := (e.reads he).argument (List.all_eq_true.1 hname)
      simpa using hreads
    exact hargument.joined (rest.reads hrest)

end

/-! ### Lines -/

/-- A line without the name that it defines: that of a value or an attribute, of a function, or of a class. -/
def withoutDefined (code : List Char) : List Char :=
  let first := code.takeWhile isWordPart
  let rest := code.dropWhile isWordPart
  if " = ".toList.isPrefixOf rest || ": ".toList.isPrefixOf rest then rest
  else if first = "def".toList ∨ first = "class".toList then rest.tail.dropWhile isWordPart
  else code

/-- The names that a line of code refers to. -/
def lineReferences (line : String) : List String :=
  codeNames (withoutDefined (line.toList.dropWhile (· == ' ')))

theorem lineReferences_indented (depth : Nat) (text : String) :
    lineReferences (indented depth text) = lineReferences text := by
  have hdrop (n : Nat) (cs : List Char) :
      (List.replicate n ' ' ++ cs).dropWhile (· == ' ') = cs.dropWhile (· == ' ') := by
    induction n with
    | zero => rfl
    | succ n ih => simp [List.replicate_succ, ih]
  rw [lineReferences, indented, String.toList_append, String.toList_ofList, hdrop, lineReferences]

/-- A word at the front of a line, and what follows it. -/
private theorem span_word {word rest : List Char} (hword : ∀ c ∈ word, isWordPart c = true)
    (hrest : rest.head?.all (fun c => !isWordPart c) = true) :
    (word ++ rest).takeWhile isWordPart = word ∧ (word ++ rest).dropWhile isWordPart = rest := by
  rw [List.takeWhile_append_of_pos hword, List.dropWhile_append_of_pos hword]
  cases rest with
  | nil => simp
  | cons c rest => simp_all

private theorem dropWhile_blank {c : Char} (hc : c ≠ ' ') (cs : List Char) :
    (c :: cs).dropWhile (· == ' ') = c :: cs := by
  simp [hc]

/-- An identifier at the front of a line. -/
private theorem span_isIdentChars {name : List Char} (h : isIdentChars name = true) (rest : List Char)
    (hrest : rest.head?.all (fun c => !isWordPart c) = true) :
    (name ++ rest).dropWhile (· == ' ') = name ++ rest ∧ (name ++ rest).takeWhile isWordPart = name ∧
      (name ++ rest).dropWhile isWordPart = rest := by
  have hname := isWordPart_of_isIdentChars h
  refine ⟨?_, span_word hname hrest⟩
  obtain ⟨c, cs, rfl⟩ := List.exists_cons_of_ne_nil (ne_nil_of_isIdentChars h)
  refine dropWhile_blank ?_ _
  rintro rfl
  exact absurd (hname ' ' List.mem_cons_self) (by decide)

/-- A line that defines nothing: no value follows its first word. -/
theorem lineReferences_of_word {line : String} {word rest : List Char} (hline : line.toList = word ++ rest)
    (hword : ∀ c ∈ word, isWordPart c = true) (hrest : rest.head?.all (fun c => !isWordPart c) = true)
    (hblank : line.toList.head? ≠ some ' ')
    (hgiven : (" = ".toList.isPrefixOf rest || ": ".toList.isPrefixOf rest) = false)
    (hhead : ¬ (word = "def".toList ∨ word = "class".toList)) : lineReferences line = codeNames line.toList := by
  obtain ⟨hbefore, hafter⟩ := span_word hword hrest
  have hdrop : line.toList.dropWhile (· == ' ') = line.toList := by
    cases hcs : line.toList with
    | nil => rfl
    | cons c cs =>
      rw [hcs] at hblank
      exact dropWhile_blank (by simpa using hblank) cs
  rw [lineReferences, hdrop, withoutDefined, hline]
  simp only [hbefore, hafter, hgiven, hhead, Bool.false_eq_true, if_false]

/-- A line that gives something to a name. -/
theorem lineReferences_defined {name : String} (h : isIdentChars name.toList = true) (rest : String)
    (hrest : " = ".toList <+: rest.toList ∨ ": ".toList <+: rest.toList) :
    lineReferences (name ++ rest) = codeNames rest.toList := by
  have hhead : rest.toList.head?.all (!isWordPart ·) = true := by
    have hmarks : isWordPart ' ' = false ∧ isWordPart ':' = false := by decide
    rcases hrest with ⟨tail, htail⟩ | ⟨tail, htail⟩ <;> rw [← htail] <;> simp [hmarks]
  obtain ⟨hblank, -, hafter⟩ := span_isIdentChars h _ hhead
  rw [lineReferences, String.toList_append, hblank, withoutDefined]
  simp only [hafter]
  rw [if_pos (by simpa [List.isPrefixOf_iff_prefix] using hrest)]

/-- The line that a function or a class begins with. -/
theorem lineReferences_headed {word name : String} (hword : word = "def" ∨ word = "class")
    (h : isIdentChars name.toList = true) (rest : String) (hrest : rest.toList.head?.all (fun c => !isWordPart c) = true) :
    lineReferences (word ++ " " ++ name ++ rest) = codeNames rest.toList := by
  have hkeyword : isIdentChars word.toList = true := by rcases hword with rfl | rfl <;> decide
  have hfirst : word.toList = "def".toList ∨ word.toList = "class".toList := hword.imp (by simp [·]) (by simp [·])
  have htext : (word ++ " " ++ name ++ rest).toList = word.toList ++ (' ' :: (name.toList ++ rest.toList)) := by simp
  obtain ⟨hblank, hbefore, hafter⟩ := span_isIdentChars hkeyword (' ' :: (name.toList ++ rest.toList)) (by
    have hmark : isWordPart ' ' = false := by decide
    simp [hmark])
  obtain ⟨-, -, hname⟩ := span_isIdentChars h _ hrest
  -- what follows the keyword is a name, and so nothing is given to the keyword
  have hgiven : (" = ".toList.isPrefixOf (' ' :: (name.toList ++ rest.toList)) ||
      ": ".toList.isPrefixOf (' ' :: (name.toList ++ rest.toList))) = false := by
    obtain ⟨c, cs, hc⟩ := List.exists_cons_of_ne_nil (ne_nil_of_isIdentChars h)
    have hchar : isIdentChar c = true := forall_isIdentChar h c (hc ▸ List.mem_cons_self)
    have hequals : ('=' == c) = false := by
      rw [beq_eq_false_iff_ne]
      rintro rfl
      exact absurd hchar (by decide)
    rw [hc]
    simp [List.isPrefixOf, hequals]
  rw [lineReferences, htext, hblank, withoutDefined]
  simp only [hafter, hbefore, hgiven, hfirst, List.tail_cons, hname, if_true, Bool.false_eq_true, if_false]

/-- An entry of a mapping refers to what its value refers to. -/
theorem references_entry {key : String} {value : Expr} (hkey : (Expr.quoted key).isClear = true)
    (hvalue : value.isClear = true) (depth d : Nat) :
    lineReferences ((Statement.entry d key value).line depth) = value.names := by
  have hquoted := Expr.reads (.quoted key) hkey
  have htext : ("\"" ++ key ++ "\": " ++ value.render ++ ",").toList =
      (Expr.quoted key).render.toList ++ ':' :: ' ' :: (value.render.toList ++ [',']) := by
    simp [Expr.render]
  have hend := (value.reads hvalue).append (by decide : Reads [','] []) (by decide)
  have hafter := (hend.cons (by decide : isBreak ' ' = true)).cons (by decide : isBreak ':' = true)
  have hread := hquoted.append hafter (isBroken_cons (by decide) _)
  rw [← htext] at hread
  have hquote : ("\"" ++ key ++ "\": " ++ value.render ++ ",").toList =
      [] ++ '"' :: (key.toList ++ '"' :: ':' :: ' ' :: (value.render.toList ++ [','])) := by simp
  have hplain := lineReferences_of_word hquote (List.forall_mem_nil _)
    (by simp [(by decide : isWordPart '"' = false)]) (by simp) (by simp [List.isPrefixOf]) (by decide)
  rw [Statement.line, lineReferences_indented, hplain, hread.codeNames_eq]
  simp [Expr.names]

/-! ### Functions -/

private theorem lineReferences_line (s : Statement) (depth : Nat) :
    lineReferences (s.line depth) = lineReferences (s.line 0) := by
  cases s <;> simp [Statement.line, lineReferences_indented]

/-- A function that is written in one line refers to what stands in its decorators, in the types of its parameters and
of its result, and in its body.  Parameters count as names of their own. -/
theorem Function.mem_references_iff {f : Function} {type name : String} {parameters result : List String}
    (hspread : f.spread = false) (hname : isIdentChars f.name.toList = true)
    (hparameters : Reads (", ".intercalate f.parameters).toList parameters) (hresult : f.result = some type)
    (htype : Reads type.toList result) (depth : Nat) :
    name ∈ (f.lines depth).flatMap lineReferences ↔ name ∈ f.decorators.flatMap lineReferences ∨ name ∈ parameters ∨
      name ∈ result ∨ ∃ s ∈ f.body, name ∈ lineReferences (s.line 0) := by
  have harrow := (((((htype.append (by decide : Reads [':'] []) (by decide)).cons (by decide : isBreak ' ' = true)).cons
    (by decide : isBreak '>' = true)).cons (by decide : isBreak '-' = true)).cons (by decide : isBreak ' ' = true))
  have hbrackets := hparameters.enclosed (by decide : isBreak '(' = true) (by decide : (isBreak ')' && ')' != '=') = true)
  have hread := hbrackets.append harrow (isBroken_cons (by decide) _)
  have htext : ("(" ++ ", ".intercalate f.parameters ++ ")" ++ (" -> " ++ type) ++ ":").toList =
      '(' :: ((", ".intercalate f.parameters).toList ++ [')']) ++ ' ' :: '-' :: '>' :: ' ' :: (type.toList ++ [':']) := by
    simp
  rw [← htext] at hread
  have hdef : "def" = "def" ∨ "def" = "class" := Or.inl rfl
  have hhead := lineReferences_headed hdef hname ("(" ++ ", ".intercalate f.parameters ++ ")" ++ (" -> " ++ type) ++ ":")
    (by simp [(by decide : isWordPart '(' = false)])
  rw [hread.codeNames_eq, List.append_nil] at hhead
  have hline : "def " ++ f.name ++ "(" ++ ", ".intercalate f.parameters ++ ")" ++ (" -> " ++ type) ++ ":" =
      "def" ++ " " ++ f.name ++ ("(" ++ ", ".intercalate f.parameters ++ ")" ++ (" -> " ++ type) ++ ":") := by
    rw [← String.toList_inj]
    simp
  have hlines : f.lines depth = f.decorators.map (indented depth) ++
      [indented depth ("def " ++ f.name ++ "(" ++ ", ".intercalate f.parameters ++ ")" ++ (" -> " ++ type) ++ ":")] ++
      f.body.map (Statement.line (depth + 1)) := by
    simp [Function.lines, hspread, hresult]
  rw [hlines, hline]
  simp only [List.flatMap_append, List.flatMap_map, List.flatMap_singleton, lineReferences_indented, hhead,
    lineReferences_line _ (depth + 1), List.mem_append, or_assoc, List.mem_flatMap]

/-! ### Members, classes and files -/

private theorem reads_given {mark : String} (hmark : mark = " = " ∨ mark = ": ") {e : Expr} (h : e.isClear = true) :
    Reads (mark ++ e.render).toList e.names ∧ IsBroken (mark ++ e.render).toList := by
  have hreads := (e.reads h).cons (by decide : isBreak ' ' = true)
  rcases hmark with rfl | rfl
  · have htext : (" = " ++ e.render).toList = ' ' :: '=' :: ' ' :: e.render.toList := by simp
    rw [htext]
    exact ⟨(hreads.cons (by decide)).cons (by decide), isBroken_cons (by decide) _⟩
  · have htext : (": " ++ e.render).toList = ':' :: ' ' :: e.render.toList := by simp
    rw [htext]
    exact ⟨hreads.cons (by decide), isBroken_cons (by decide) _⟩

/-- The line of an attribute refers to what its type and its value refer to. -/
theorem Member.references_attribute {name : String} {hint value : Option Expr} (hname : isIdentChars name.toList = true)
    (hsome : hint ≠ none ∨ value ≠ none) (hclear : ∀ e ∈ hint.toList ++ value.toList, e.isClear = true) :
    (Member.attribute name hint value).lines.flatMap lineReferences = (Member.attribute name hint value).names := by
  have hfront (mark text : String) : mark.toList <+: (mark ++ text).toList := by
    rw [String.toList_append]
    exact List.prefix_append _ _
  cases hint with
  | none =>
    cases value with
    | none => simp at hsome
    | some e =>
      have hread := (reads_given (Or.inl rfl) (hclear e (by simp))).1
      have hline := lineReferences_defined hname (" = " ++ e.render) (Or.inl (hfront _ _))
      rw [hread.codeNames_eq] at hline
      simp [Member.lines, Member.names, lineReferences_indented, hline]
  | some t =>
    have hhint := (reads_given (Or.inr rfl) (hclear t (by simp))).1
    cases value with
    | none =>
      have hline := lineReferences_defined hname (": " ++ t.render) (Or.inr (hfront _ _))
      rw [hhint.codeNames_eq] at hline
      simp [Member.lines, Member.names, lineReferences_indented, hline]
    | some e =>
      obtain ⟨hvalue, hbroken⟩ := reads_given (Or.inl rfl) (hclear e (by simp))
      have hread := hhint.append hvalue hbroken
      rw [← String.toList_append] at hread
      have hline := lineReferences_defined hname (": " ++ t.render ++ (" = " ++ e.render)) (Or.inr (by
        rw [String.append_assoc]
        exact hfront _ _))
      simp only [Member.lines, List.flatMap_singleton, lineReferences_indented]
      rw [String.append_assoc, hline, hread.codeNames_eq]
      simp [Member.names]

theorem Member.references_doc {text : String} (h : (Expr.quoted text).isClear = true) :
    (Member.doc text).lines.flatMap lineReferences = [] := by
  have htext : ("\"\"\"" ++ text ++ "\"\"\"").toList =
      [] ++ '"' :: '"' :: '"' :: (text.toList ++ ['"', '"', '"']) := by simp
  have hclear : ∀ c ∈ text.toList, c ≠ '"' ∧ c ≠ '\\' := by
    simpa [Expr.isClear, List.all_eq_true] using h
  have hread := reads_doc hclear
  rw [← List.nil_append ('"' :: _), ← htext] at hread
  have hplain := lineReferences_of_word htext (List.forall_mem_nil _)
    (by simp [(by decide : isWordPart '"' = false)]) (by simp) (by simp [List.isPrefixOf]) (by decide)
  rw [Member.lines, List.flatMap_singleton, lineReferences_indented, hplain, hread.codeNames_eq]

/-- The names that the lines of a class refer to, apart from its first line. -/
def ClassBody.references (c : ClassBody) : List String :=
  c.lines.tail.flatMap lineReferences

/-- The lines of a file below its imports. -/
def SourceFile.codeLines (f : SourceFile) : List String :=
  (if f.assignments.isEmpty then [] else "" :: f.assignments.map fun a => a.1 ++ " = " ++ a.2.render) ++
    f.definitions.flatMap (fun d => "" :: "" :: d.lines) ++ [""]

/-- The names that the code of a file refers to. -/
def SourceFile.references (f : SourceFile) : List String :=
  f.codeLines.flatMap lineReferences

private theorem lineReferences_empty : lineReferences "" = [] := by decide

theorem ClassBody.mem_references_iff {c : ClassBody} {name : String} :
    name ∈ c.references ↔ ∃ m ∈ c.groups.flatten, name ∈ m.lines.flatMap lineReferences := by
  simp only [ClassBody.references, ClassBody.lines, List.tail_cons, List.mem_flatMap, List.mem_flatten]
  constructor
  · rintro ⟨line, hline, hname⟩
    have hne : line ≠ "" := by
      rintro rfl
      rw [lineReferences_empty] at hname
      cases hname
    obtain ⟨part, hpart, hmem⟩ := (Text.mem_intercalate_iff hne).1 hline
    obtain ⟨group, hgroup, rfl⟩ := List.mem_map.1 hpart
    obtain ⟨m, hm, hmem⟩ := List.mem_flatMap.1 hmem
    exact ⟨m, ⟨group, hgroup, hm⟩, line, hmem, hname⟩
  · rintro ⟨m, ⟨group, hgroup, hm⟩, line, hline, hname⟩
    have hne : line ≠ "" := by
      rintro rfl
      rw [lineReferences_empty] at hname
      cases hname
    exact ⟨line, (Text.mem_intercalate_iff hne).2 ⟨_, List.mem_map_of_mem hgroup, List.mem_flatMap.2 ⟨m, hm, hline⟩⟩,
      hname⟩

/-- The first line of a class refers to what the class is built upon. -/
theorem ClassBody.exists_lines_iff {c : ClassBody} {name : String} (hname : isIdentChars c.name.toList = true)
    (hbase : c.base.all isReference = true) : (∃ line ∈ c.lines, name ∈ lineReferences line) ↔
      name ∈ c.base.toList.map headName ∨ name ∈ c.references := by
  have hline : ∃ first rest, c.lines = first :: rest ∧ lineReferences first = c.base.toList.map headName := by
    refine ⟨_, _, rfl, ?_⟩
    cases hc : c.base with
    | none =>
      have hcolon : codeNames [':'] = [] := by decide
      have hhead := lineReferences_headed (Or.inr rfl) hname ":" (by decide)
      simpa [String.append_assoc, hcolon] using hhead
    | some base =>
      rw [hc, Option.all_some] at hbase
      have hread := ((of_decide_eq_true hbase : Reads _ _).enclosed (by decide : isBreak '(' = true)
        (by decide : (isBreak ')' && ')' != '=') = true)).append (by decide : Reads [':'] []) (by decide)
      have htext : ("(" ++ base ++ "):").toList = '(' :: (base.toList ++ [')']) ++ [':'] := by simp
      have hclass : "class" = "def" ∨ "class" = "class" := Or.inr rfl
      have hhead := lineReferences_headed hclass hname ("(" ++ base ++ "):") (by
        rw [htext]
        simp [(by decide : isWordPart '(' = false)])
      rw [htext, hread.codeNames_eq] at hhead
      simpa [String.append_assoc] using hhead
  obtain ⟨first, rest, hlines, hfirst⟩ := hline
  unfold references
  rw [hlines, List.exists_mem_cons_iff, hfirst, List.tail_cons, List.mem_flatMap]

theorem SourceFile.mem_references_iff {f : SourceFile} {name : String} : name ∈ f.references ↔
    (∃ a ∈ f.assignments, name ∈ lineReferences (a.1 ++ " = " ++ a.2.render)) ∨
      ∃ d ∈ f.definitions, ∃ line ∈ d.lines, name ∈ lineReferences line := by
  simp only [references, codeLines, List.flatMap_append, List.mem_append, List.flatMap_singleton, lineReferences_empty,
    List.not_mem_nil, or_false]
  refine or_congr ?_ ?_
  · split
    · rename_i hnone
      simp [List.isEmpty_iff.1 hnone]
    · simp [lineReferences_empty]
  · rw [List.mem_flatMap]
    constructor
    · rintro ⟨line, hline, hname⟩
      obtain ⟨d, hd, hline⟩ := List.mem_flatMap.1 hline
      have hne : line ≠ "" := by
        rintro rfl
        rw [lineReferences_empty] at hname
        cases hname
      exact ⟨d, hd, line, by simpa [hne] using hline, hname⟩
    · rintro ⟨d, hd, line, hline, hname⟩
      exact ⟨line, List.mem_flatMap.2 ⟨d, hd, by simp [hline]⟩, hname⟩

end CrudScaffold.Source
