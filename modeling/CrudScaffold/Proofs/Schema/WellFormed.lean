import CrudScaffold.Proofs.Schema.Fields
import Mathlib.Data.List.Nodup

/-!
# Fields of well-formed schemas

What the modifiers of a well-formed field amount to: a field that refers to another table has a target, and the
action on its deletion is a known one.
-/

namespace CrudScaffold.Field

variable {f : Field}

theorem ne_empty_of_isTarget {target : String} (h : IsTarget target.toList) : target ≠ "" := by
  rintro rfl
  rcases h with hident | ⟨table, column, -, -, hcons⟩
  · exact absurd hident (by decide)
  · simp at hcons

theorem mem_of_modifier? {kind : ModifierKind} {m : Modifier} (h : f.modifier? kind = some m) :
    m ∈ f.modifiers ∧ m.kind = kind := by
  unfold modifier? at h
  exact ⟨List.mem_of_find?_eq_some h, by simpa using List.find?_some h⟩

/-- Where no two modifiers are of one kind, the first of a kind is the only one. -/
theorem modifier?_eq_some_iff {kind : ModifierKind} {m : Modifier} (h : (f.modifiers.map Modifier.kind).Nodup) :
    f.modifier? kind = some m ↔ m ∈ f.modifiers ∧ m.kind = kind := by
  constructor
  · exact mem_of_modifier?
  · rintro ⟨hm, rfl⟩
    have hfound : (f.modifier? m.kind).isSome := List.find?_isSome.2 ⟨m, hm, by simp⟩
    obtain ⟨m', hm'⟩ := Option.isSome_iff_exists.1 hfound
    obtain ⟨hmem, hkind⟩ := mem_of_modifier? hm'
    rw [hm', List.inj_on_of_nodup_map h hmem hm hkind]

namespace WellFormed

/-- A reference that is written names a table, and perhaps its column. -/
theorem argument_of_references {m : Modifier} (h : f.WellFormed) (hm : f.modifier? .references = some m) :
    ∃ target, m.argument = some target ∧ IsTarget target.toList := by
  obtain ⟨hmem, hkind⟩ := mem_of_modifier? hm
  have hwell := h.modifiers m hmem
  obtain ⟨kind, argument⟩ := m
  obtain rfl : kind = .references := hkind
  cases argument with
  | none => exact hwell.elim
  | some target => exact ⟨target, rfl, hwell⟩

/-- Exactly the fields that refer to another table have a target. -/
theorem isSome_reference? (h : f.WellFormed) : f.reference?.isSome = f.isForeignKey := by
  unfold reference? isForeignKey has
  cases hm : f.modifier? .references with
  | none =>
    unfold reference?.byName
    by_cases htype : f.type = .foreignId <;> simp [htype]
  | some m =>
    obtain ⟨target, hargument, htarget⟩ := h.argument_of_references hm
    simp [hargument, ne_empty_of_isTarget htarget]

/-- What happens when the target is deleted is known. -/
theorem onDelete_eq_ok (h : f.WellFormed) : ∃ action, f.onDelete = .ok action := by
  unfold onDelete
  cases hm : f.modifier? .onDelete with
  | none => exact ⟨none, rfl⟩
  | some m =>
    obtain ⟨hmem, hkind⟩ := mem_of_modifier? hm
    have hwell := h.modifiers m hmem
    obtain ⟨kind, argument⟩ := m
    obtain rfl : kind = .onDelete := hkind
    cases argument with
    | none => exact ⟨none, rfl⟩
    | some action =>
      have hknown : ∀ word ∈ deleteActions.map Prod.fst, (deleteActions.lookup word).isSome := by decide
      obtain ⟨words, hwords⟩ := Option.isSome_iff_exists.1 (hknown action hwell)
      exact ⟨some words, by simp [hwords]⟩

end WellFormed

end CrudScaffold.Field
