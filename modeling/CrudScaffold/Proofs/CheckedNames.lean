import CrudScaffold.Proofs.Request
import CrudScaffold.Proofs.Schema.Accepts
import CrudScaffold.Proofs.Text.Affix

/-!
# Names that have been checked

A model, and a field made from loose values, have a name that is no reserved word.  It is an identifier from its first
character to its last exactly if no line break stands at its end, because one line break there is passed over by the
checks.  The parser takes the blanks around names away first, so the fields that it reads have identifiers for names
(`names_checked`).
-/

namespace CrudScaffold

open Text (isIdentChar)

/-- A capital letter, then letters, digits and underscores. -/
def isClassName (cs : List Char) : Bool :=
  cs.head?.any Char.isUpper && cs.tail.all isIdentChar

/-! ### Line breaks that are passed over -/

/-- What is an identifier but for a line break at its end is one exactly if there is none. -/
private theorem isIdentChars_iff_of_withoutFinalBreak {cs : List Char}
    (h : isIdentChars (withoutFinalBreak cs) = true) : isIdentChars cs = true ↔ cs.getLast? ≠ some '\n' := by
  constructor
  · intro hident hlast
    exact absurd (forall_isIdentChar hident _ (List.mem_of_getLast? hlast)) (by decide)
  · intro hlast
    rwa [withoutFinalBreak, if_neg hlast] at h

private theorem isAscii_of_withoutFinalBreak {cs : List Char} (h : isIdentChars (withoutFinalBreak cs) = true) :
    ∀ c ∈ cs, Text.IsAscii c := by
  have hplain : ∀ c ∈ withoutFinalBreak cs, Text.IsAscii c := fun c hc =>
    isAscii_of_isIdentChar (forall_isIdentChar h c hc)
  unfold withoutFinalBreak at hplain
  split at hplain
  · rename_i hlast
    obtain ⟨front, rfl⟩ := List.getLast?_eq_some_iff.1 hlast
    rw [List.dropLast_concat] at hplain
    have hbreak : Text.IsAscii '\n' := by decide
    intro c hc
    rcases List.mem_append.1 hc with hc | hc
    · exact hplain c hc
    · exact List.mem_singleton.1 hc ▸ hbreak
  · exact hplain

private theorem endsWith_break_iff {name : String} :
    Text.endsWith "\n" name = false ↔ name.toList.getLast? ≠ some '\n' := by
  rw [Bool.eq_false_iff]
  exact not_congr (Text.endsWith_iff_getLast? rfl)

/-! ### Models -/

theorem lowercase_not_mem_of_modelName {words : List String} {name model : String}
    (h : modelName words name = .ok model) : Text.lowercase name ∉ words := by
  unfold modelName at h
  split at h
  · cases h
  · rename_i hreserved
    simpa [isReserved] using hreserved

/-- The capital at its front is the only difference between a model's name and the name that was given, so both have
the same lower-case form. -/
theorem lowercase_of_modelName {words : List String} {name model : String} (h : modelName words name = .ok model) :
    Text.lowercase model = Text.lowercase name := by
  obtain ⟨c, rest, hname, hident, hc, hmodel⟩ := modelName_cons h
  have hascii := isAscii_of_withoutFinalBreak hident
  have hcapital : Text.IsAscii c.toUpper :=
    isAscii_of_isIdentChar (by simp [isIdentChar, Char.isAlphanum, isAlpha_toUpper hc])
  have hlower : Text.lower (c.toUpper :: rest) = Text.lower (c :: rest) := by
    rw [Text.lower_of_ascii hascii, Text.lower_of_ascii]
    · simp
    · exact List.forall_mem_cons.2 ⟨hcapital, (List.forall_mem_cons.1 hascii).2⟩
  rw [Text.lowercase, Text.lowercase, hname, hmodel, hlower]

/-- The name of a model is that of a class, unless a line break was passed over. -/
private theorem isClassName_iff_of_modelName {words : List String} {name model : String}
    (h : modelName words name = .ok model) :
    isClassName model.toList = true ↔ Text.endsWith "\n" name = false := by
  obtain ⟨c, rest, hname, hident, hc, hmodel⟩ := modelName_cons h
  have hsame : isClassName (c.toUpper :: rest) = isIdentChars (c :: rest) := by
    simp [isClassName, isIdentChars, Text.isUpper_toUpper hc, Text.isIdentStart, hc]
  rw [endsWith_break_iff, hname, hmodel, hsame]
  exact isIdentChars_iff_of_withoutFinalBreak hident

/-! ### Fields -/

private theorem Field.of_checkName {v : Value} {name : String} (h : checkName v = .ok name) :
    isIdentifier name = true ∧ Text.lowercase name ∉ reservedWords := by
  unfold checkName at h
  split at h
  · cases h
  split at h
  · cases h
  rename_i hident
  split at h
  · cases h
  rename_i hreserved
  obtain rfl := Except.ok.inj h
  exact ⟨by simpa using hident, by simpa [isReserved] using hreserved⟩

/-- The name of a field is an identifier, unless a line break was passed over, and no reserved word. -/
private theorem Field.name_of_ofValues {name type : Value} {modifiers : List (Value × Value)} {f : Field}
    (h : Field.ofValues name type modifiers = .ok f) :
    Text.lowercase f.name ∉ reservedWords ∧
      (isIdentChars f.name.toList = true ↔ Text.endsWith "\n" f.name = false) := by
  simp only [Field.ofValues, map_eq_ok_iff, both_eq_ok_iff] at h
  obtain ⟨_, ⟨⟨hname, -⟩, -⟩, rfl⟩ := h
  obtain ⟨hident, hunreserved⟩ := of_checkName hname
  refine ⟨hunreserved, ?_⟩
  rw [endsWith_break_iff]
  exact isIdentChars_iff_of_withoutFinalBreak hident

/-! ### Both -/

/-- No name that has been checked is a reserved word.  That of a model is the name of a class, and that of a field made
from loose values an identifier, exactly if there is no line break at its end; that of a field which is read is an
identifier in any case. -/
theorem names_checked (words : List String) (raw : String) (name type : Value) (modifiers : List (Value × Value))
    (text : Option String) :
    (∀ model, modelName words raw = .ok model →
      Text.lowercase model ∉ words ∧ (isClassName model.toList = true ↔ Text.endsWith "\n" raw = false)) ∧
    (∀ f, Field.ofValues name type modifiers = .ok f →
      Text.lowercase f.name ∉ reservedWords ∧
        (isIdentChars f.name.toList = true ↔ Text.endsWith "\n" f.name = false)) ∧
    ∀ s, Schema.parse text = .ok s → ∀ f ∈ s.fields,
      Text.lowercase f.name ∉ reservedWords ∧ isIdentChars f.name.toList = true := by
  refine ⟨fun model h => ⟨?_, isClassName_iff_of_modelName h⟩, fun f h => Field.name_of_ofValues h, fun s h f hf => ?_⟩
  · rw [lowercase_of_modelName h]
    exact lowercase_not_mem_of_modelName h
  · have hwell := (wellFormed_of_parse h).fields f hf
    exact ⟨hwell.unreserved, hwell.identifier⟩

theorem names_checked_of_post :
    let f : Field := ⟨"Title_2", .string, []⟩
    (modelName reservedWords "blog_post" = .ok "Blog_post" ∧ isClassName "Blog_post".toList = true) ∧
      Field.ofValues (.text "Title_2") (.text "string") [] = .ok f ∧ isIdentChars f.name.toList = true := by
  intro f
  have hmodel : modelName reservedWords "blog_post" = .ok "Blog_post" := by decide +kernel
  have hfield : Field.ofValues (.text "Title_2") (.text "string") [] = .ok f :=
    Field.ofValues_of_name (f := f) (by decide +kernel) (by decide +kernel)
  obtain ⟨hmodels, hfields, -⟩ :=
    names_checked reservedWords "blog_post" (.text "Title_2") (.text "string") [] none
  exact ⟨⟨hmodel, (hmodels _ hmodel).2.2 (by decide +kernel)⟩, hfield, (hfields f hfield).2.2 (by decide +kernel)⟩

/-- With a line break behind it, even a reserved word is taken for a name. -/
theorem not_isClassName_of_break :
    let f : Field := ⟨"class\n", .string, []⟩
    (modelName reservedWords "Post\n" = .ok "Post\n" ∧ isClassName "Post\n".toList = false) ∧
      (modelName reservedWords "class\n" = .ok "Class\n" ∧ isClassName "Class\n".toList = false) ∧
      Field.ofValues (.text "class\n") (.text "string") [] = .ok f ∧ isIdentChars f.name.toList = false := by
  intro f
  have hfield : Field.ofValues (.text "class\n") (.text "string") [] = .ok f :=
    Field.ofValues_of_name (f := f) (by decide +kernel) (by decide +kernel)
  exact ⟨by decide +kernel, by decide +kernel, hfield, by decide +kernel⟩

end CrudScaffold
