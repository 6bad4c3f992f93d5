import CrudScaffold.Proofs.Schema.Accepts
import Mathlib.Data.List.Perm.Basic

/-!
# Modifiers in another order

A text is reordered when the modifiers of its fields are put in another order, each field for itself.  The reordered
text is a schema exactly when the text is one, and then both are read as the same fields up to the order of their
modifiers (`exists_parse_of_reordered`): no two modifiers of a field are of one kind in any order, and whether an
action on deletion is allowed is decided when all of them have been read.
-/

namespace CrudScaffold

open Text (Blanks)

/-- The same name and type, and the same modifiers in some order. -/
structure Field.Reordered (f f' : Field) : Prop where
  name : f'.name = f.name
  type : f'.type = f.type
  modifiers : f.modifiers.Perm f'.modifiers

/-- The parts behind a name and a type stand in another order. -/
structure ReorderedParts (parts parts' : List (List Char)) : Prop where
  front : parts'.take 2 = parts.take 2
  modifiers : (parts.drop 2).Perm (parts'.drop 2)

/-- The text of a field with its modifiers in another order. -/
def ReorderedField (cs cs' : List Char) : Prop :=
  ∃ parts parts', splitTopLevel ':' cs = .ok parts ∧ ReorderedParts parts parts' ∧ cs' = [':'].intercalate parts'

/-- The text of a schema with the modifiers of each field in another order. -/
def ReorderedSchema (cs cs' : List Char) : Prop :=
  ∃ segments segments', splitTopLevel ',' cs = .ok segments ∧ List.Forall₂ ReorderedField segments segments' ∧
    cs' = [','].intercalate segments'

/-! ### Parts -/

namespace ReorderedParts

variable {parts parts' : List (List Char)}

theorem refl (parts : List (List Char)) : ReorderedParts parts parts := ⟨rfl, .refl _⟩

theorem symm (h : ReorderedParts parts parts') : ReorderedParts parts' parts :=
  ⟨h.front.symm, h.modifiers.symm⟩

theorem perm (h : ReorderedParts parts parts') : parts.Perm parts' := by
  have hperm := (List.Perm.of_eq h.front.symm).append h.modifiers
  rwa [List.take_append_drop, List.take_append_drop] at hperm

theorem map (h : ReorderedParts parts parts') (g : List Char → List Char) :
    ReorderedParts (parts.map g) (parts'.map g) := by
  refine ⟨?_, ?_⟩
  · rw [← List.map_take, ← List.map_take, h.front]
  · rw [← List.map_drop, ← List.map_drop]
    exact h.modifiers.map g

/-- Behind a name and a type the modifiers are left. -/
theorem exists_cons {name word : List Char} {texts : List (List Char)}
    (h : ReorderedParts (name :: word :: texts) parts') :
    ∃ texts', parts' = name :: word :: texts' ∧ texts.Perm texts' := by
  refine ⟨parts'.drop 2, ?_, h.modifiers⟩
  have hparts := List.take_append_drop 2 parts'
  rw [h.front] at hparts
  exact hparts.symm

end ReorderedParts

/-! ### Texts -/

namespace ReorderedField

variable {cs cs' : List Char}

/-- The reordered field is split into the reordered parts. -/
theorem exists_split (h : ReorderedField cs cs') :
    ∃ parts parts', splitTopLevel ':' cs = .ok parts ∧ splitTopLevel ':' cs' = .ok parts' ∧
      ReorderedParts parts parts' := by
  obtain ⟨parts, parts', hsplit, hparts, rfl⟩ := h
  obtain ⟨hne, hnested, -⟩ := (splitTopLevel_eq_ok_iff ordinary_colon).1 hsplit
  refine ⟨parts, parts', hsplit, (splitTopLevel_eq_ok_iff ordinary_colon).2 ⟨?_, ?_, rfl⟩, hparts⟩
  · rintro rfl
    exact hne hparts.perm.eq_nil
  · exact fun p hp => hnested p (hparts.perm.mem_iff.2 hp)

theorem symm (h : ReorderedField cs cs') : ReorderedField cs' cs := by
  obtain ⟨parts, parts', hsplit, hsplit', hparts⟩ := h.exists_split
  exact ⟨parts', parts, hsplit', hparts.symm, ((splitTopLevel_eq_ok_iff ordinary_colon).1 hsplit).2.2⟩

/-- A field without a comma on its outside stays one field. -/
theorem nested (h : ReorderedField cs cs') (hcs : Nested (cutOf ',') cs) : Nested (cutOf ',') cs' := by
  obtain ⟨parts, parts', hsplit, hsplit', hparts⟩ := h.exists_split
  obtain ⟨-, hcolon, rfl⟩ := (splitTopLevel_eq_ok_iff ordinary_colon).1 hsplit
  obtain ⟨-, hcolon', rfl⟩ := (splitTopLevel_eq_ok_iff ordinary_colon).1 hsplit'
  rw [nested_intercalate_iff ordinary_colon rfl hcolon] at hcs
  rw [nested_intercalate_iff ordinary_colon rfl hcolon']
  exact fun p hp => hcs p (hparts.perm.mem_iff.2 hp)

theorem eq_of_blanks (h : ReorderedField cs cs') (hcs : Blanks cs) : cs' = cs := by
  obtain ⟨parts, parts', hsplit, hparts, rfl⟩ := h
  obtain rfl : [cs] = parts :=
    Except.ok.inj ((splitTopLevel_of_blanks ordinary_colon (by decide) hcs).symm.trans hsplit)
  rw [List.perm_singleton.1 hparts.perm.symm, List.intercalate_singleton]

end ReorderedField

namespace ReorderedSchema

variable {cs cs' : List Char}

/-- The fields of a text that can be split can be split as well, so that they can be reordered. -/
theorem refl {segments : List (List Char)} (h : splitTopLevel ',' cs = .ok segments) : ReorderedSchema cs cs := by
  obtain ⟨-, hnested, hcs⟩ := (splitTopLevel_eq_ok_iff ordinary_comma).1 h
  refine ⟨segments, segments, h, List.forall₂_same.2 fun segment hsegment => ?_, hcs⟩
  obtain ⟨parts, hparts⟩ := exists_splitTopLevel (hnested segment hsegment) ':'
  exact ⟨parts, parts, hparts, .refl parts, ((splitTopLevel_eq_ok_iff ordinary_colon).1 hparts).2.2⟩

/-- The reordered text is split into the reordered fields. -/
theorem exists_split (h : ReorderedSchema cs cs') :
    ∃ segments segments', splitTopLevel ',' cs = .ok segments ∧ splitTopLevel ',' cs' = .ok segments' ∧
      List.Forall₂ ReorderedField segments segments' := by
  obtain ⟨segments, segments', hsplit, hsegments, rfl⟩ := h
  obtain ⟨hne, hnested, -⟩ := (splitTopLevel_eq_ok_iff ordinary_comma).1 hsplit
  refine ⟨segments, segments', hsplit, (splitTopLevel_eq_ok_iff ordinary_comma).2 ⟨?_, ?_, rfl⟩, hsegments⟩
  · rintro rfl
    exact hne (List.forall₂_nil_right_iff.1 hsegments)
  · intro p' hp'
    obtain ⟨i, hi, rfl⟩ := List.getElem_of_mem hp'
    have hi' : i < segments.length := by rwa [hsegments.length_eq]
    exact (hsegments.get hi' hi).nested (hnested _ (List.getElem_mem hi'))

theorem symm (h : ReorderedSchema cs cs') : ReorderedSchema cs' cs := by
  obtain ⟨segments, segments', hsplit, hsplit', hsegments⟩ := h.exists_split
  refine ⟨segments', segments, hsplit', ?_, ((splitTopLevel_eq_ok_iff ordinary_comma).1 hsplit).2.2⟩
  exact hsegments.flip.imp fun _ _ => ReorderedField.symm

theorem eq_of_blanks (h : ReorderedSchema cs cs') (hcs : Blanks cs) : cs' = cs := by
  obtain ⟨segments, segments', hsplit, hsegments, rfl⟩ := h
  obtain rfl : [cs] = segments :=
    Except.ok.inj ((splitTopLevel_of_blanks ordinary_comma (by decide) hcs).symm.trans hsplit)
  obtain ⟨segment', rest, hfield, hrest, rfl⟩ := List.forall₂_cons_left_iff.1 hsegments
  obtain rfl := List.forall₂_nil_left_iff.1 hrest
  rw [List.intercalate_singleton, hfield.eq_of_blanks hcs]

end ReorderedSchema

/-! ### What is read -/

/-- Modifiers are read one by one, and in any order no two are of one kind. -/
private theorem exists_parseModifiers_of_perm {texts texts' : List (List Char)} {ms : List Modifier}
    (h : Schema.parseModifiers texts = .ok ms) (hperm : texts.Perm texts') :
    ∃ ms', Schema.parseModifiers texts' = .ok ms' ∧ ms.Perm ms' := by
  obtain ⟨hreads, hkinds, -⟩ := readDistinct_eq_ok_iff.1 h
  obtain ⟨ms', hreads', hms⟩ := List.perm_comp_forall₂ hperm.symm hreads.flip
  refine ⟨ms', readDistinct_eq_ok_iff.2 ⟨hreads'.flip, ?_, by simp⟩, hms.symm⟩
  exact (hms.symm.map Modifier.kind).nodup_iff.1 hkinds

private theorem exists_parseParts_of_reordered {parts parts' : List (List Char)} {f : Field}
    (h : Schema.parseParts parts = .ok f) (hparts : ReorderedParts parts parts') :
    ∃ f', Schema.parseParts parts' = .ok f' ∧ f.Reordered f' := by
  obtain ⟨name, word, texts, rfl, hname, hfault, htype, hmodifiers, haction⟩ := parseParts_eq_ok_iff.1 h
  obtain ⟨texts', rfl, htexts⟩ := hparts.exists_cons
  obtain ⟨ms', hms', hperm⟩ := exists_parseModifiers_of_perm hmodifiers htexts
  have hkind (kind : ModifierKind) : kind ∈ ms'.map Modifier.kind ↔ kind ∈ f.modifiers.map Modifier.kind :=
    (hperm.map Modifier.kind).mem_iff.symm
  refine ⟨⟨f.name, f.type, ms'⟩, parseParts_eq_ok_iff.2 ?_, ⟨rfl, rfl, hperm⟩⟩
  refine ⟨name, word, texts', rfl, hname, hfault, htype, hms', ?_⟩
  simpa only [hkind] using haction

private theorem exists_parseField_of_reordered {cs cs' : List Char} {f : Field} (h : Schema.parseField cs = .ok f)
    (hcs : ReorderedField cs cs') : ∃ f', Schema.parseField cs' = .ok f' ∧ f.Reordered f' := by
  obtain ⟨parts, parts', hsplit, hsplit', hparts⟩ := hcs.exists_split
  obtain ⟨pieces, hpieces, hread⟩ := parseField_eq_ok_iff_parts.1 h
  obtain rfl := Except.ok.inj (hsplit.symm.trans hpieces)
  obtain ⟨f', hf', hfield⟩ := exists_parseParts_of_reordered hread (hparts.map Text.trim)
  exact ⟨f', parseField_eq_ok_iff_parts.2 ⟨parts', hsplit', hf'⟩, hfield⟩

theorem map_name_of_reordered {fs fs' : List Field} (h : List.Forall₂ Field.Reordered fs fs') :
    fs'.map Field.name = fs.map Field.name := by
  induction h with
  | nil => rfl
  | cons hf _ ih => rw [List.map_cons, List.map_cons, hf.name, ih]

private theorem exists_parseFields_of_reordered {segments segments' : List (List Char)} {fs : List Field}
    (h : Schema.parseFields segments = .ok fs) (hsegments : List.Forall₂ ReorderedField segments segments') :
    ∃ fs', Schema.parseFields segments' = .ok fs' ∧ List.Forall₂ Field.Reordered fs fs' := by
  obtain ⟨hreads, hnames, -⟩ := readDistinct_eq_ok_iff.1 h
  obtain ⟨fs', hreads', hfields⟩ : ∃ fs',
      List.Forall₂ (fun f segment => Schema.parseField segment = .ok f) fs' segments' ∧
        List.Forall₂ Field.Reordered fs fs' := by
    clear h hnames
    induction hsegments generalizing fs with
    | nil => exact ⟨[], .nil, by rw [List.forall₂_nil_right_iff.1 hreads]; exact .nil⟩
    | cons hsegment _ ih =>
      obtain ⟨f, rest, hf, hrest, rfl⟩ := List.forall₂_cons_right_iff.1 hreads
      obtain ⟨f', hf', hfield⟩ := exists_parseField_of_reordered hf hsegment
      obtain ⟨rest', hrest', hfields⟩ := ih hrest
      exact ⟨f' :: rest', .cons hf' hrest', .cons hfield hfields⟩
  refine ⟨fs', readDistinct_eq_ok_iff.2 ⟨hreads', ?_, by simp⟩, hfields⟩
  rwa [map_name_of_reordered hfields]

/-- A schema with its modifiers in another order is read as the same fields, up to the order of their modifiers. -/
theorem exists_parse_of_reordered {a b : String} {s : Schema} (hab : ReorderedSchema a.toList b.toList)
    (h : Schema.parse (some a) = .ok s) :
    ∃ s', Schema.parse (some b) = .ok s' ∧ List.Forall₂ Field.Reordered s.fields s'.fields := by
  by_cases ha : Blanks a.toList
  · obtain rfl : b = a := String.toList_injective (hab.eq_of_blanks ha)
    exact ⟨s, h, List.forall₂_same.2 fun f _ => ⟨rfl, rfl, .refl _⟩⟩
  · have hb : ¬ Blanks b.toList := fun hb => ha (hab.symm.eq_of_blanks hb ▸ hb)
    obtain ⟨segments, segments', hsplit, hsplit', hsegments⟩ := hab.exists_split
    obtain ⟨fs', hread, hfields⟩ :=
      exists_parseFields_of_reordered (parseFields_of_parse ha hsplit h) hsegments
    exact ⟨⟨fs'⟩, by rw [parse_of_split hb hsplit', hread]; rfl, hfields⟩

end CrudScaffold
