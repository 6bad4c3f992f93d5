import CrudScaffold.Fault
import CrudScaffold.Proofs.Outcome
import CrudScaffold.Proofs.Text.Symbol

/-!
# Values of a document

What texts are read from values (`checkSymbols_eq_ok_iff`), and what writing under a key does to a mapping
(`find?_putKey_self`, `find?_putKey_of_ne`).  Values without numbers and bytes can be compared (`eq_of_same`).
-/

namespace CrudScaffold

open Text (Symbol Symbols)

theorem both_eq_ok_iff {α β : Type} {a : Checked α} {b : Checked β} {p : α × β} :
    Checked.both a b = .ok p ↔ a = .ok p.1 ∧ b = .ok p.2 := by
  cases a <;> cases b <;> simp [Checked.both, Prod.ext_iff]

/-! ### Texts -/

namespace Scalar

theorem ofSymbols_ofString (s : String) : ofSymbols (Symbol.ofString s) = text s := by
  rw [ofSymbols, Symbol.string?_ofString]

/-- A text is one scalar or another, by whether surrogates occur in it. -/
theorem ofSymbols_cases (symbols : Symbols) :
    (∃ s, symbols = Symbol.ofString s ∧ ofSymbols symbols = text s) ∨
      Symbol.string? symbols = none ∧ ofSymbols symbols = brokenText symbols := by
  cases h : Symbol.string? symbols with
  | some s => exact Or.inl ⟨s, Symbol.string?_eq_some_iff.1 h, by rw [ofSymbols, h]⟩
  | none => exact Or.inr ⟨rfl, by rw [ofSymbols, h]⟩

theorem symbols?_ofSymbols (symbols : Symbols) : (ofSymbols symbols).symbols? = some symbols := by
  obtain ⟨s, rfl, h⟩ | ⟨-, h⟩ := ofSymbols_cases symbols <;> rw [h] <;> rfl

theorem name_ofSymbols (symbols : Symbols) : (ofSymbols symbols).name = symbols := by
  obtain ⟨s, rfl, h⟩ | ⟨-, h⟩ := ofSymbols_cases symbols <;> rw [h] <;> rfl

theorem ofSymbols_inj {symbols other : Symbols} : ofSymbols symbols = ofSymbols other ↔ symbols = other :=
  ⟨fun h => by rw [← name_ofSymbols symbols, h, name_ofSymbols], fun h => h ▸ rfl⟩

end Scalar

namespace Value

variable {v : Value} {s : String} {symbols : Symbols}

/-- The text that a value is, or that its bytes are the encoding of; surrogates may occur in it. -/
def word? : Value → Option Symbols
  | .scalar (.bytes b) => (String.fromUTF8? b).map Symbol.ofString
  | .scalar s => s.symbols?
  | _ => none

/-- The text that a value is, or that its bytes are the encoding of. -/
def text? : Value → Option String
  | .scalar (.text s) => some s
  | .scalar (.brokenText symbols) => Symbol.string? symbols
  | .scalar (.bytes b) => String.fromUTF8? b
  | _ => none

theorem eq_null_of_isNull (h : v.isNull = true) : v = .null := by
  unfold isNull at h
  split at h
  · rfl
  · cases h

theorem word?_symbols (symbols : Symbols) : (Value.symbols symbols).word? = some symbols := by
  obtain ⟨s, rfl, h⟩ | ⟨-, h⟩ := Scalar.ofSymbols_cases symbols <;> rw [Value.symbols, h] <;> rfl

/-- Texts in characters are those texts in which no surrogate occurs. -/
theorem text?_eq (v : Value) : v.text? = v.word?.bind Symbol.string? := by
  cases v with
  | scalar a =>
    cases a with
    | text s => exact (Symbol.string?_ofString s).symm
    | bytes b =>
      change String.fromUTF8? b = ((String.fromUTF8? b).map Symbol.ofString).bind Symbol.string?
      cases String.fromUTF8? b <;> simp
    | _ => rfl
  | _ => rfl

theorem checkSymbols_eq_ok_iff : v.checkSymbols = .ok symbols ↔ v.word? = some symbols := by
  cases v with
  | scalar a =>
    cases a with
    | bytes b => cases hb : String.fromUTF8? b <;> simp [checkSymbols, word?, hb]
    | _ => simp [checkSymbols, word?, Scalar.symbols?]
  | _ => simp [checkSymbols, word?]

theorem checkText_eq_ok_iff : v.checkText = .ok s ↔ v.text? = some s := by
  simp only [checkText, bind_eq_ok_iff, checkSymbols_eq_ok_iff, text?_eq, Option.bind_eq_some_iff]
  refine exists_congr fun symbols => and_congr_right fun _ => ?_
  cases Symbol.string? symbols <;> simp

theorem checkNonemptyText_eq_ok_iff : v.checkNonemptyText = .ok s ↔ v.text? = some s ∧ s ≠ "" := by
  rw [← checkText_eq_ok_iff, checkNonemptyText]
  cases v.checkText with
  | error kind => simp
  | ok t =>
    simp only [refuse_eq_ok_iff, Except.ok.injEq]
    constructor
    · rintro ⟨hne, rfl⟩
      exact ⟨rfl, hne⟩
    · rintro ⟨rfl, hne⟩
      exact ⟨hne, rfl⟩

theorem checkSymbols_symbols (symbols : Symbols) : (Value.symbols symbols).checkSymbols = .ok symbols :=
  checkSymbols_eq_ok_iff.2 (word?_symbols symbols)

theorem checkText_text (s : String) : (Value.text s).checkText = .ok s :=
  checkText_eq_ok_iff.2 rfl

theorem checkNonemptyText_text (h : s ≠ "") : (Value.text s).checkNonemptyText = .ok s :=
  checkNonemptyText_eq_ok_iff.2 ⟨rfl, h⟩

theorem checkText_symbols_of_none (h : Symbol.string? symbols = none) :
    (Value.symbols symbols).checkText = .error .undecodable := by
  rw [checkText, checkSymbols_symbols]
  simp only [bind, Except.bind, h]

/-- A text with surrogates does not pass where characters are counted. -/
theorem checkNonemptyText_symbols_of_none (h : Symbol.string? symbols = none) :
    (Value.symbols symbols).checkNonemptyText = .error .undecodable := by
  rw [checkNonemptyText, checkText_symbols_of_none h]

end Value

/-! ### Entries under texts -/

theorem Scalar.sameKey_text_iff {key : Scalar} {s : String} : key.sameKey (.text s) = true ↔ key = .text s := by
  cases key <;> simp [sameKey, integer?]

theorem Scalar.text_sameKey_iff {key : Scalar} {s : String} : (Scalar.text s).sameKey key = true ↔ key = .text s := by
  cases key with
  | text t => simpa [sameKey] using eq_comm
  | _ => simp [sameKey, integer?]

/-- Texts are one key if they are the same. -/
theorem Scalar.ofSymbols_sameKey_iff {symbols other : Symbols} :
    (ofSymbols symbols).sameKey (ofSymbols other) = true ↔ symbols = other := by
  obtain ⟨s, rfl, hs⟩ | ⟨hnone, hs⟩ := ofSymbols_cases symbols <;>
    obtain ⟨t, rfl, ht⟩ | ⟨hnone', ht⟩ := ofSymbols_cases other <;> rw [hs, ht]
  · simp [sameKey, Symbol.ofString_inj]
  · refine iff_of_false (by simp [sameKey, integer?]) ?_
    rintro rfl
    simp at hnone'
  · refine iff_of_false (by simp [sameKey, integer?]) ?_
    rintro rfl
    simp at hnone
  · simp [sameKey]

namespace Value

variable {entries : List (Scalar × Value)} {key : String} {v : Value}

theorem find?_cons_self (key : String) (v : Value) (rest : List (Scalar × Value)) :
    find? key ((.text key, v) :: rest) = some v := by
  rw [find?, List.find?_cons, Scalar.sameKey_text_iff.2 rfl]
  rfl

theorem find?_cons_of_ne {other : Scalar} (h : other ≠ .text key) (v : Value) (rest : List (Scalar × Value)) :
    find? key ((other, v) :: rest) = find? key rest := by
  rw [find?, List.find?_cons, Bool.eq_false_iff.2 (mt Scalar.sameKey_text_iff.1 h)]
  rfl

theorem find?_putKey_self (key : String) (v : Value) (entries : List (Scalar × Value)) :
    find? key (putKey (.text key) v entries) = some v := by
  induction entries with
  | nil => exact find?_cons_self key v []
  | cons e rest ih =>
    obtain ⟨other, old⟩ := e
    rw [putKey]
    by_cases hkey : other = .text key
    · subst hkey
      rw [if_pos (Scalar.text_sameKey_iff.2 rfl), find?_cons_self]
    · rw [if_neg (mt Scalar.text_sameKey_iff.1 hkey), find?_cons_of_ne hkey, ih]

theorem find?_putKey_of_ne {name : String} (h : key ≠ name) (v : Value) (entries : List (Scalar × Value)) :
    find? name (putKey (.text key) v entries) = find? name entries := by
  have hother : Scalar.text key ≠ .text name := fun heq => h (Scalar.text.inj heq)
  induction entries with
  | nil => exact find?_cons_of_ne hother v []
  | cons e rest ih =>
    obtain ⟨other, old⟩ := e
    rw [putKey]
    split
    · rename_i hsame
      obtain rfl := Scalar.text_sameKey_iff.1 hsame
      rw [find?_cons_of_ne hother, find?_cons_of_ne hother]
    · by_cases hname : other = .text name
      · subst hname
        rw [find?_cons_self, find?_cons_self]
      · rw [find?_cons_of_ne hname, find?_cons_of_ne hname, ih]

/-- Writing under a key that is there leaves the keys. -/
theorem map_fst_putKey (h : (find? key entries).isSome = true) (v : Value) :
    (putKey (.text key) v entries).map Prod.fst = entries.map Prod.fst := by
  induction entries with
  | nil => cases h
  | cons e rest ih =>
    obtain ⟨other, old⟩ := e
    rw [putKey]
    split
    · rfl
    · rename_i hother
      rw [Scalar.text_sameKey_iff] at hother
      rw [find?_cons_of_ne hother] at h
      exact congrArg (other :: ·) (ih h)

end Value

/-! ### Values that can be compared -/

/-- Whether two scalars are the same null, truth value or text. -/
def Scalar.same : Scalar → Scalar → Bool
  | .null, .null => true
  | .bool b, .bool c => b == c
  | .text s, .text t => s == t
  | .brokenText s, .brokenText t => s == t
  | _, _ => false

theorem Scalar.eq_of_same {a b : Scalar} (h : a.same b = true) : a = b := by
  cases a <;> cases b <;> simp_all [Scalar.same]

namespace Value

mutual

/-- Whether two values are the same mappings of nulls, truth values and texts. -/
def same : Value → Value → Bool
  | .scalar a, .scalar b => a.same b
  | .mapping entries, .mapping others => sameEntries entries others
  | _, _ => false

def sameEntries : List (Scalar × Value) → List (Scalar × Value) → Bool
  | [], [] => true
  | (key, v) :: entries, (other, u) :: others => key.same other && same v u && sameEntries entries others
  | _, _ => false

end

mutual

theorem eq_of_same : ∀ {v u : Value}, same v u = true → v = u
  | .scalar a, .scalar b, h => by
    rw [same] at h
    rw [Scalar.eq_of_same h]
  | .mapping entries, .mapping others, h => by
    rw [same] at h
    rw [eq_of_sameEntries h]

theorem eq_of_sameEntries : ∀ {entries others : List (Scalar × Value)}, sameEntries entries others = true →
    entries = others
  | [], [], _ => rfl
  | (key, v) :: entries, (other, u) :: others, h => by
    simp only [sameEntries, Bool.and_eq_true] at h
    obtain ⟨⟨hkey, hv⟩, hentries⟩ := h
    rw [Scalar.eq_of_same hkey, eq_of_same hv, eq_of_sameEntries hentries]

end

end Value

end CrudScaffold
