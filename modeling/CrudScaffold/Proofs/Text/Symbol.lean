import CrudScaffold.Text.Symbol

/-!
# Texts with surrogates

A string is a text in which no surrogate occurs, and it is read back from its symbols (`string?_eq_some_iff`).
-/

namespace CrudScaffold.Text.Symbol

theorem chars?_ofChars (cs : List Char) : chars? (ofChars cs) = some cs := by
  induction cs with
  | nil => rfl
  | cons c cs ih =>
    unfold chars? ofChars at ih ⊢
    rw [List.map_cons, List.mapM_cons, ih]
    rfl

theorem chars?_eq_some_iff {text : Symbols} {cs : List Char} : chars? text = some cs ↔ text = ofChars cs := by
  refine ⟨fun h => ?_, fun h => h ▸ chars?_ofChars cs⟩
  induction text generalizing cs with
  | nil =>
    obtain rfl : [] = cs := Option.some.inj h
    rfl
  | cons s text ih =>
    unfold chars? at h ih
    rw [List.mapM_cons, Option.bind_eq_bind, Option.bind_eq_some_iff] at h
    obtain ⟨c, hc, hrest⟩ := h
    obtain ⟨rest, htext, hcs⟩ := Option.bind_eq_some_iff.1 hrest
    obtain rfl : c :: rest = cs := Option.some.inj hcs
    cases s with
    | char d =>
      obtain rfl : d = c := Option.some.inj hc
      exact congrArg (Symbol.char d :: ·) (ih htext)
    | surrogate n => cases hc

theorem string?_eq_some_iff {text : Symbols} {s : String} : string? text = some s ↔ text = ofString s := by
  simp only [string?, Option.map_eq_some_iff, chars?_eq_some_iff, ofString]
  constructor
  · rintro ⟨cs, rfl, rfl⟩
    rw [String.toList_ofList]
  · exact fun h => ⟨s.toList, h, String.ofList_toList⟩

@[simp] theorem string?_ofString (s : String) : string? (ofString s) = some s :=
  string?_eq_some_iff.2 rfl

theorem ofString_inj {s t : String} : ofString s = ofString t ↔ s = t := by
  refine ⟨fun h => ?_, fun h => h ▸ rfl⟩
  rw [← string?_eq_some_iff, string?_ofString, Option.some.injEq] at h
  exact h

theorem ofString_eq_nil_iff {s : String} : ofString s = [] ↔ s = "" :=
  ofString_inj (t := "")

end CrudScaffold.Text.Symbol
