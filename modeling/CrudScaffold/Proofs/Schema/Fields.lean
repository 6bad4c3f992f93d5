import CrudScaffold.Proofs.Schema.Modifiers

/-!
# Reading fields

A text without a comma on its outside is read as a field exactly when the field is well formed and the text spells
it (`parseField_eq_ok_iff`).
-/

namespace CrudScaffold

open Text (Blanks Padded Trimmed)

/-! ### Names -/

/-- A trimmed text has no line break at its end. -/
private theorem withoutFinalBreak_of_trimmed {cs : List Char} (h : Trimmed cs) : withoutFinalBreak cs = cs := by
  unfold withoutFinalBreak
  refine if_neg fun hlast => ?_
  exact absurd (h.2 _ hlast) (by decide)

theorem nameFault?_eq_none_iff {cs : List Char} (h : Trimmed cs) :
    Schema.nameFault? (.ofList cs) = none ↔
      isIdentChars cs = true ∧ Text.lowercase (.ofList cs) ∉ reservedWords ∧
        Text.lowercase (.ofList cs) ∉ Schema.implicitColumns ∧ String.ofList cs ∉ Schema.codeNames := by
  have hident : isIdentifier (.ofList cs) = isIdentChars cs := by
    rw [isIdentifier, String.toList_ofList, withoutFinalBreak_of_trimmed h]
  unfold Schema.nameFault? isReserved
  rw [hident]
  by_cases hcs : isIdentChars cs = true
  · have hne : String.ofList cs ≠ "" := by
      intro he
      exact ne_nil_of_isIdentChars hcs (by simpa using congrArg String.toList he)
    simp only [hne, hcs, if_false, Bool.not_true, Bool.false_eq_true, true_and, List.contains_iff_mem]
    grind
  · simp only [hcs]
    split <;> simp

/-! ### Parts -/

theorem has_iff {f : Field} {kind : ModifierKind} :
    f.has kind = true ↔ kind ∈ f.modifiers.map Modifier.kind := by
  simp [Field.has, Field.modifier?]

theorem isForeignKey_iff {f : Field} :
    f.isForeignKey = true ↔ f.type = .foreignId ∨ .references ∈ f.modifiers.map Modifier.kind := by
  simp only [Field.isForeignKey, Bool.or_eq_true, beq_iff_eq, has_iff]

/-- A field is read from its name, its type and its modifiers. -/
theorem parseParts_eq_ok_iff {parts : List (List Char)} {f : Field} :
    Schema.parseParts parts = .ok f ↔
      ∃ name word texts, parts = name :: word :: texts ∧ f.name = .ofList name ∧
        Schema.nameFault? (.ofList name) = none ∧ Schema.parseType (.ofList word) = .ok f.type ∧
        Schema.parseModifiers texts = .ok f.modifiers ∧
        (.onDelete ∈ f.modifiers.map Modifier.kind →
          f.type = .foreignId ∨ .references ∈ f.modifiers.map Modifier.kind) := by
  unfold Schema.parseParts
  simp only [bind, Except.bind, throw, throwThe, MonadExceptOf.throw, pure, Except.pure]
  constructor
  · intro h
    cases hname : Schema.nameFault? (.ofList (parts.headD [])) with
    | some fault => simp only [hname, reduceCtorEq] at h
    | none =>
      simp only [hname, refuse_eq_ok_iff] at h
      obtain ⟨hword, h⟩ := h
      rcases parts with _ | ⟨name, _ | ⟨word, texts⟩⟩
      · exact absurd rfl hword
      · exact absurd rfl hword
      · simp only [List.headD_cons, List.tail_cons, List.drop_succ_cons, List.drop_zero] at h hname
        cases htype : Schema.parseType (.ofList word) with
        | error fault => simp [htype] at h
        | ok type =>
          cases hmodifiers : Schema.parseModifiers texts with
          | error fault => simp [htype, hmodifiers] at h
          | ok modifiers =>
            simp only [htype, hmodifiers] at h
            obtain ⟨haction, hf⟩ := refuse_eq_ok_iff.1 h
            obtain rfl := Except.ok.inj hf
            refine ⟨name, word, texts, rfl, rfl, hname, htype, hmodifiers, fun hon => ?_⟩
            by_contra hforeign
            rw [has_iff, Bool.not_eq_true', ← Bool.not_eq_true, isForeignKey_iff] at haction
            exact haction ⟨hon, hforeign⟩
  · rintro ⟨name, word, texts, rfl, hf, hname, htype, hmodifiers, haction⟩
    obtain ⟨fname, type, modifiers⟩ := f
    obtain rfl : fname = .ofList name := hf
    have hword : ¬ word.isEmpty = true := fun h =>
      ne_nil_of_isIdentChars (isIdentChars_of_type (parseType_eq_ok_iff.1 htype)) (by simpa using h)
    have hstray : ¬ ((⟨.ofList name, type, modifiers⟩ : Field).has .onDelete = true ∧
        (!(⟨.ofList name, type, modifiers⟩ : Field).isForeignKey) = true) := by
      rintro ⟨hon, hforeign⟩
      rw [Bool.not_eq_true', ← Bool.not_eq_true, isForeignKey_iff] at hforeign
      exact hforeign (haction (has_iff.1 hon))
    simp only [List.headD_cons, List.tail_cons, List.drop_succ_cons, List.drop_zero, hname, hword, htype,
      hmodifiers, hstray, if_false, Bool.false_eq_true]

/-! ### Whole fields -/

private theorem isBlank_colon : Text.isBlank ':' = false := by decide

/-- The blanks around a field do not matter, so that it is split as it stands. -/
theorem parseField_eq_ok_iff_parts {cs : List Char} {f : Field} :
    Schema.parseField cs = .ok f ↔
      ∃ pieces, splitTopLevel ':' cs = .ok pieces ∧ Schema.parseParts (pieces.map Text.trim) = .ok f := by
  have hpieces : (splitTopLevel ':' cs).map (List.map Text.trim) =
      (splitTopLevel ':' (Text.trim cs)).map (List.map Text.trim) := by
    obtain ⟨l, r, hl, hr, hcs⟩ := Text.padded_trim cs
    have hpad := @splitTopLevel_pad ':' isBlank_colon l (Text.trim cs) r hl hr
    rwa [← hcs] at hpad
  have hmap {e : Except Imbalance (List (List Char))} :
      (∃ pieces, e = .ok pieces ∧ Schema.parseParts (pieces.map Text.trim) = .ok f) ↔
        ∃ parts, e.map (List.map Text.trim) = .ok parts ∧ Schema.parseParts parts = .ok f := by
    cases e <;> simp [Except.map]
  rw [hmap, hpieces, ← hmap]
  unfold Schema.parseField
  by_cases hempty : (Text.trim cs).isEmpty = true
  · simp only [hempty, if_true, reduceCtorEq, false_iff]
    rw [List.isEmpty_iff] at hempty
    rw [hempty]
    rintro ⟨pieces, hsplit, hparts⟩
    obtain rfl : [[]] = pieces := by simpa [splitTopLevel, splitFrom] using hsplit
    obtain ⟨name, word, texts, hcons, -⟩ := parseParts_eq_ok_iff.1 hparts
    simp at hcons
  · simp only [hempty, Bool.false_eq_true, if_false]
    cases splitTopLevel ':' (Text.trim cs) with
    | error i => simp
    | ok pieces => simp [mapError_eq_ok_iff]

/-- The name of a field that is read passed the checks for names. -/
theorem nameFault?_of_parseField {cs : List Char} {f : Field} (h : Schema.parseField cs = .ok f) :
    Schema.nameFault? f.name = none := by
  obtain ⟨pieces, -, hparts⟩ := parseField_eq_ok_iff_parts.1 h
  obtain ⟨name, _, _, -, hname, hfault, -⟩ := parseParts_eq_ok_iff.1 hparts
  rw [hname]
  exact hfault

/-- A separator of schemas is a comma or a colon. -/
private theorem nested_separator_iff {cs : List Char} :
    Nested isSchemaSeparator cs ↔ Nested (cutOf ',') cs ∧ Nested (cutOf ':') cs := by
  simp only [← walk_iff_nested]
  exact walk_or_iff

private theorem nested_of_padded_word {word cs : List Char} (hw : isIdentChars word = true) (h : Padded word cs) :
    Nested isSchemaSeparator cs :=
  (nested_pad_iff (fun _ => isSchemaSeparator_of_isBlank) h).2
    (walk_iff_nested.1 (walk_of_isIdentChar (forall_isIdentChar hw) 0))

private theorem parseModifier_trim_eq_ok_iff {cs : List Char} {m : Modifier} :
    (Schema.parseModifier (Text.trim cs) = .ok m ∧ Nested isSchemaSeparator cs) ↔
      m.WellFormed ∧ ∃ core, m.SpelledAs core ∧ Padded core cs := by
  have hnested {core : List Char} (h : Padded core cs) :
      Nested isSchemaSeparator cs ↔ Nested isSchemaSeparator core :=
    nested_pad_iff (fun _ => isSchemaSeparator_of_isBlank) h
  constructor
  · rintro ⟨hread, hcs⟩
    have htrim := (hnested (Text.padded_trim cs)).1 hcs
    obtain ⟨hwell, hspelled⟩ := parseModifier_eq_ok_iff.1 ⟨Text.trimmed_trim cs, hread, htrim⟩
    exact ⟨hwell, _, hspelled, Text.padded_trim cs⟩
  · rintro ⟨hwell, core, hspelled, hpad⟩
    obtain ⟨htrim, hread, hcore⟩ := parseModifier_eq_ok_iff.2 ⟨hwell, hspelled⟩
    exact ⟨(Text.trim_of_padded htrim hpad).symm ▸ hread, (hnested hpad).2 hcore⟩

private theorem parseModifiers_trim_iff {texts : List (List Char)} {ms : List Modifier} :
    (List.Forall₂ (fun m text => Schema.parseModifier text = .ok m) ms (texts.map Text.trim) ∧
        ∀ text ∈ texts, Nested isSchemaSeparator text) ↔
      (∀ m ∈ ms, m.WellFormed) ∧
        List.Forall₂ (fun m text => ∃ core, m.SpelledAs core ∧ Padded core text) ms texts := by
  induction texts generalizing ms with
  | nil => cases ms <;> simp
  | cons text texts ih =>
    cases ms with
    | nil => simp
    | cons m ms =>
      have hfirst := @parseModifier_trim_eq_ok_iff text m
      simp only [List.map_cons, List.forall₂_cons, List.mem_cons, forall_eq_or_imp]
      constructor
      · rintro ⟨⟨hread, hreads⟩, hcs, hrest⟩
        obtain ⟨hwell, hspelled⟩ := hfirst.1 ⟨hread, hcs⟩
        obtain ⟨hwells, hspelleds⟩ := ih.1 ⟨hreads, hrest⟩
        exact ⟨⟨hwell, hwells⟩, hspelled, hspelleds⟩
      · rintro ⟨⟨hwell, hwells⟩, hspelled, hspelleds⟩
        obtain ⟨hread, hcs⟩ := hfirst.2 ⟨hwell, hspelled⟩
        obtain ⟨hreads, hrest⟩ := ih.2 ⟨hwells, hspelleds⟩
        exact ⟨⟨hread, hreads⟩, hcs, hrest⟩

/-- A text that no comma cuts is read as a field exactly when it spells a well-formed one. -/
theorem parseField_eq_ok_iff {cs : List Char} {f : Field} :
    (Schema.parseField cs = .ok f ∧ Nested (cutOf ',') cs) ↔ f.WellFormed ∧ f.SpelledAs cs := by
  rw [parseField_eq_ok_iff_parts]
  constructor
  · rintro ⟨⟨pieces, hsplit, hparts⟩, hnested⟩
    obtain ⟨-, hcolon, rfl⟩ := (splitTopLevel_eq_ok_iff ordinary_colon).1 hsplit
    rw [nested_intercalate_iff ordinary_colon rfl hcolon] at hnested
    have hpieces : ∀ p ∈ pieces, Nested isSchemaSeparator p := fun p hp =>
      nested_separator_iff.2 ⟨hnested p hp, hcolon p hp⟩
    obtain ⟨_, _, _, hcons, hname, hfault, htype, hmodifiers, haction⟩ := parseParts_eq_ok_iff.1 hparts
    obtain ⟨name, rest, rfl, rfl, hrest⟩ := List.map_eq_cons_iff.1 hcons
    obtain ⟨type, texts, rfl, rfl, rfl⟩ := List.map_eq_cons_iff.1 hrest
    obtain ⟨hident, hunreserved, hexplicit, hunshadowing⟩ :=
      (nameFault?_eq_none_iff (Text.trimmed_trim name)).1 hfault
    rw [← hname] at hunreserved hexplicit hunshadowing
    have htrim : f.name.toList = Text.trim name := by rw [hname, String.toList_ofList]
    obtain ⟨hreads, hkinds, -⟩ := readDistinct_eq_ok_iff.1 hmodifiers
    obtain ⟨hwells, hspelled⟩ := parseModifiers_trim_iff.1 ⟨hreads, fun text h => hpieces text (by simp [h])⟩
    refine ⟨⟨htrim ▸ hident, hunreserved, hexplicit, hunshadowing, hkinds, hwells, haction⟩, ?_⟩
    exact ⟨name, type, texts, htrim ▸ Text.padded_trim name,
      ⟨_, parseType_eq_ok_iff.1 htype, Text.padded_trim type⟩, hspelled, rfl⟩
  · rintro ⟨hwell, name, type, texts, hname, ⟨word, htype, hword⟩, hspelled, rfl⟩
    obtain ⟨hreads, hnested⟩ := parseModifiers_trim_iff.2 ⟨hwell.modifiers, hspelled⟩
    have hwordIdent := isIdentChars_of_type htype
    have hpieces : ∀ p ∈ name :: type :: texts, Nested isSchemaSeparator p := by
      intro p hp
      simp only [List.mem_cons] at hp
      rcases hp with rfl | rfl | hp
      · exact nested_of_padded_word hwell.identifier hname
      · exact nested_of_padded_word hwordIdent hword
      · exact hnested p hp
    have hcolon : ∀ p ∈ name :: type :: texts, Nested (cutOf ':') p := fun p hp =>
      (nested_separator_iff.1 (hpieces p hp)).2
    have htrimmed {cs : List Char} (h : isIdentChars cs = true) : Trimmed cs :=
      trimmed_of_forall_isIdentChar (forall_isIdentChar h)
    refine ⟨⟨_, (splitTopLevel_eq_ok_iff ordinary_colon).2 ⟨by simp, hcolon, rfl⟩, ?_⟩, ?_⟩
    · have hnameTrim := Text.trim_of_padded (htrimmed hwell.identifier) hname
      have hwordTrim := Text.trim_of_padded (htrimmed hwordIdent) hword
      refine parseParts_eq_ok_iff.2 ⟨_, _, _, rfl, ?_, ?_, ?_, ?_, hwell.action⟩
      · rw [hnameTrim, String.ofList_toList]
      · rw [hnameTrim, nameFault?_eq_none_iff (htrimmed hwell.identifier), String.ofList_toList]
        exact ⟨hwell.identifier, hwell.unreserved, hwell.explicit, hwell.unshadowing⟩
      · rw [hwordTrim]
        exact parseType_eq_ok_iff.2 htype
      · exact readDistinct_eq_ok_iff.2 ⟨hreads, hwell.kinds, by simp⟩
    · rw [nested_intercalate_iff ordinary_colon rfl hcolon]
      exact fun p hp => (nested_separator_iff.1 (hpieces p hp)).1

/-! ### Whole schemas -/

/-- A text that is not blank is read piece by piece. -/
theorem parse_of_split {text : String} {segments : List (List Char)} (htext : ¬ Text.Blanks text.toList)
    (hsplit : splitTopLevel ',' text.toList = .ok segments) :
    Schema.parse (some text) = (Schema.parseFields segments).map Schema.mk := by
  have hempty : ¬ (Text.trim text.toList).isEmpty = true := by
    rwa [List.isEmpty_iff, Text.trim_eq_nil_iff]
  simp only [Schema.parse, hempty, hsplit, Bool.false_eq_true, if_false]

theorem parseFields_of_parse {text : String} {segments : List (List Char)} {s : Schema}
    (htext : ¬ Text.Blanks text.toList) (hsplit : splitTopLevel ',' text.toList = .ok segments)
    (h : Schema.parse (some text) = .ok s) : Schema.parseFields segments = .ok s.fields := by
  rw [parse_of_split htext hsplit, map_eq_ok_iff] at h
  obtain ⟨fields, hread, rfl⟩ := h
  exact hread

end CrudScaffold
