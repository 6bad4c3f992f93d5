import CrudScaffold.Proofs.Schema.Fields

/-!
# Which texts are schemas

The parser inverts the grammar: a text is read as a schema with fields exactly when the schema is well formed and
the text is one of its spellings, and a blank text is the schema without fields (`parse_eq_ok_iff`).  The pieces of
the outer split become fields one by one, and each field is split and read in the same way.
-/

namespace CrudScaffold

/-- Pieces are read as fields one by one. -/
private theorem parseField_forall_iff {segments : List (List Char)} {fs : List Field} :
    (List.Forall₂ (fun f segment => Schema.parseField segment = .ok f) fs segments ∧
        ∀ segment ∈ segments, Nested (cutOf ',') segment) ↔
      (∀ f ∈ fs, f.WellFormed) ∧ List.Forall₂ Field.SpelledAs fs segments := by
  induction segments generalizing fs with
  | nil => cases fs <;> simp
  | cons segment segments ih =>
    cases fs with
    | nil => simp
    | cons f fs =>
      have hfirst := @parseField_eq_ok_iff segment f
      simp only [List.forall₂_cons, List.mem_cons, forall_eq_or_imp]
      constructor
      · rintro ⟨⟨hread, hreads⟩, hnested, hrest⟩
        obtain ⟨hwell, hspelled⟩ := hfirst.1 ⟨hread, hnested⟩
        obtain ⟨hwells, hspelleds⟩ := ih.1 ⟨hreads, hrest⟩
        exact ⟨⟨hwell, hwells⟩, hspelled, hspelleds⟩
      · rintro ⟨⟨hwell, hwells⟩, hspelled, hspelleds⟩
        obtain ⟨hread, hnested⟩ := hfirst.2 ⟨hwell, hspelled⟩
        obtain ⟨hreads, hrest⟩ := ih.2 ⟨hwells, hspelleds⟩
        exact ⟨⟨hread, hreads⟩, hnested, hrest⟩

/-- The fields of a text, whether it is blank or not. -/
private theorem parseFields_eq_ok_iff {cs : List Char} {s : Schema} :
    (∃ segments, splitTopLevel ',' cs = .ok segments ∧ Schema.parseFields segments = .ok s.fields) ↔
      s.fields ≠ [] ∧ s.WellFormed ∧ s.SpelledAs cs := by
  simp only [splitTopLevel_eq_ok_iff ordinary_comma, Schema.parseFields, readDistinct_eq_ok_iff]
  constructor
  · rintro ⟨segments, ⟨hne, hnested, rfl⟩, hreads, hnames, -⟩
    obtain ⟨hwells, hspelled⟩ := parseField_forall_iff.1 ⟨hreads, hnested⟩
    refine ⟨?_, ⟨hnames, hwells⟩, segments, hspelled, rfl⟩
    rintro hnil
    rw [hnil, List.forall₂_nil_left_iff] at hspelled
    exact hne hspelled
  · rintro ⟨hne, hwell, segments, hspelled, rfl⟩
    obtain ⟨hreads, hnested⟩ := parseField_forall_iff.2 ⟨hwell.fields, hspelled⟩
    refine ⟨segments, ⟨?_, hnested, rfl⟩, hreads, hwell.names, by simp⟩
    rintro rfl
    exact hne (List.forall₂_nil_right_iff.1 hspelled)

/-- A schema that is read is well formed, whatever the text is. -/
theorem wellFormed_of_parse {raw : Option String} {s : Schema} (h : Schema.parse raw = .ok s) : s.WellFormed := by
  have hempty : (⟨[]⟩ : Schema).WellFormed := ⟨List.nodup_nil, fun _ hf => absurd hf List.not_mem_nil⟩
  unfold Schema.parse at h
  cases raw with
  | none => exact Except.ok.inj h ▸ hempty
  | some text =>
    simp only at h
    split at h
    · exact Except.ok.inj h ▸ hempty
    · cases hsplit : splitTopLevel ',' text.toList with
      | error i =>
        rw [hsplit] at h
        cases h
      | ok segments =>
        rw [hsplit] at h
        obtain ⟨fields, hread, rfl⟩ := map_eq_ok_iff.1 h
        exact (parseFields_eq_ok_iff.1 ⟨segments, hsplit, hread⟩).2.1

/-- A blank text holds no field. -/
private theorem not_spelledAs_of_blanks {cs : List Char} (h : Text.Blanks cs) {s : Schema} (hne : s.fields ≠ [])
    (hs : s.WellFormed) : ¬ s.SpelledAs cs := by
  intro hspelled
  obtain ⟨segments, hsplit, hread⟩ := parseFields_eq_ok_iff.2 ⟨hne, hs, hspelled⟩
  have hone := splitTopLevel_of_blanks ordinary_comma (by decide) h
  obtain rfl : [cs] = segments := Except.ok.inj (hone.symm.trans hsplit)
  obtain ⟨hfields, -⟩ := readDistinct_eq_ok_iff.1 hread
  match hfs : s.fields, hfields with
  | [f], hfields =>
    have hempty : Schema.parseField cs = .error ⟨.emptyField, none⟩ := by
      simp [Schema.parseField, Text.trim_of_blanks h]
    simp [hempty] at hfields

/-- A text is read as a schema exactly when it is blank and the schema has no fields, or the schema has fields, is
well formed and is spelled by the text. -/
theorem parse_eq_ok_iff (text : String) (s : Schema) :
    Schema.parse (some text) = .ok s ↔
      (Text.Blanks text.toList ∧ s.fields = []) ∨ (s.fields ≠ [] ∧ s.WellFormed ∧ s.SpelledAs text.toList) := by
  have heta (fields : List Field) : (⟨fields⟩ : Schema) = s ↔ fields = s.fields := by
    cases s
    simp
  have hempty : (Text.trim text.toList).isEmpty = true ↔ Text.Blanks text.toList := by
    rw [List.isEmpty_iff, Text.trim_eq_nil_iff]
  by_cases hblank : Text.Blanks text.toList
  · have hparse : Schema.parse (some text) = .ok ⟨[]⟩ := if_pos (hempty.2 hblank)
    rw [hparse, Except.ok.injEq, heta]
    constructor
    · exact fun h => Or.inl ⟨hblank, h.symm⟩
    · rintro (⟨-, h⟩ | ⟨hne, hwell, hspelled⟩)
      · exact h.symm
      · exact absurd hspelled (not_spelledAs_of_blanks hblank hne hwell)
  · simp only [Schema.parse, mt hempty.1 hblank, hblank, false_and, false_or, if_false, Bool.false_eq_true]
    rw [← parseFields_eq_ok_iff]
    cases splitTopLevel ',' text.toList with
    | error i => simp
    | ok segments => simp [map_eq_ok_iff, heta]

end CrudScaffold
