import CrudScaffold.Artifact.Body
import CrudScaffold.Artifact.Sample
import CrudScaffold.Proofs.Schema.Accepts
import CrudScaffold.Proofs.Schema.WellFormed

/-!
# What is asked of the fields of a schema

A field on its own may be of a kind that no schema holds: its action on deletion may be unknown, its reference may
lack a target, a kind of modifier may be there twice.  Then a question about it fails, or two questions contradict
each other.  The fields that are read from a text answer every question (`answers_of_parse`).
-/

namespace CrudScaffold

/-- Each modifier but a flag has an argument. -/
theorem Modifier.WellFormed.isSome_argument {m : Modifier} (h : m.WellFormed) :
    m.argument.isSome = !m.kind.isFlag := by
  obtain ⟨kind, argument⟩ := m
  cases kind <;> cases argument <;> simp_all [Modifier.WellFormed, ModifierKind.isFlag]

namespace Field

variable {f : Field}

/-- Every question has an answer, and the answers agree with each other. -/
structure Answers (f : Field) : Prop where
  reference : f.reference?.isSome = f.isForeignKey
  related : f.relatedModel?.isSome = f.isForeignKey
  /-- The action on deletion is known; there is one exactly when a modifier says so. -/
  action : ∃ action, f.onDelete = .ok action ∧ action.isSome = f.has .onDelete
  /-- What is deleted is the row of another table. -/
  target : f.has .onDelete = true → f.isForeignKey = true
  kinds : (f.modifiers.map Modifier.kind).Nodup
  modifier : ∀ kind m, f.modifier? kind = some m ↔ m ∈ f.modifiers ∧ m.kind = kind
  default : f.default?.isSome = f.has .default
  /-- The column can be made, in the words of the model and in those of the migration. -/
  modelColumn : f.checked modelColumn = .ok f.modelColumn
  migrationColumn : f.checked migrationColumn = .ok f.migrationColumn
  fake : ∃ method arguments, f.fakeValue = .call ("fake." ++ method) arguments
  rules : ∀ default, ∃ arguments, f.rules default = .call "Field" arguments
  member : ∀ action, ∃ hint arguments, f.bodyMember action = .field f.name hint (.call "Field" arguments)

namespace WellFormed

theorem isSome_default? (h : f.WellFormed) : f.default?.isSome = f.has .default := by
  unfold default? has
  cases hm : f.modifier? .default with
  | none => rfl
  | some m =>
    obtain ⟨hmem, hkind⟩ := mem_of_modifier? hm
    simpa [hkind, ModifierKind.isFlag] using (h.modifiers m hmem).isSome_argument

theorem isSome_onDelete (h : f.WellFormed) {action : Option String} (haction : f.onDelete = .ok action) :
    action.isSome = f.has .onDelete := by
  unfold onDelete at haction
  unfold has
  cases hm : f.modifier? .onDelete with
  | none =>
    rw [hm] at haction
    obtain rfl := Except.ok.inj haction
    rfl
  | some m =>
    obtain ⟨hmem, hkind⟩ := mem_of_modifier? hm
    have hsome : m.argument.isSome = true := by
      simpa [hkind, ModifierKind.isFlag] using (h.modifiers m hmem).isSome_argument
    obtain ⟨word, hword⟩ := Option.isSome_iff_exists.1 hsome
    simp only [hm, Option.bind_some, hword] at haction
    cases hwords : deleteActions.lookup word with
    | none => simp [hwords] at haction
    | some words =>
      simp only [hwords, Except.ok.injEq] at haction
      rw [← haction]
      rfl

theorem checked_eq_ok (h : f.WellFormed) (column : Field → Column) : f.checked column = .ok (column f) := by
  obtain ⟨action, haction⟩ := h.onDelete_eq_ok
  unfold checked
  split
  · rw [haction]
    rfl
  · rfl

end WellFormed

theorem isSome_relatedModel? (f : Field) : f.relatedModel?.isSome = f.reference?.isSome := by
  unfold relatedModel?
  rw [Option.isSome_map]

/-- Sample values are made by calls. -/
theorem exists_fakeValue (f : Field) : ∃ method arguments, f.fakeValue = .call ("fake." ++ method) arguments := by
  have htype : ∃ method arguments, f.type.fakeValue = .call ("fake." ++ method) arguments := by
    cases f.type <;> exact ⟨_, _, rfl⟩
  have hname : ∀ entry ∈ fakeValuesByName, ∃ method arguments, entry.2 = .call ("fake." ++ method) arguments := by
    simp only [fakeValuesByName, List.forall_mem_cons, List.not_mem_nil, false_imp_iff, implies_true, and_true]
    repeat' apply And.intro
    all_goals exact ⟨_, _, rfl⟩
  unfold fakeValue
  split
  · cases hlookup : fakeValuesByName.lookup (Text.lowercase f.name) with
    | none => exact htype
    | some e =>
      obtain ⟨before, after, hentries, -⟩ := List.lookup_eq_some_iff.1 hlookup
      exact hname (Text.lowercase f.name, e) (by simp [hentries])
  · exact htype

/-- A well-formed field leaves no question open. -/
theorem WellFormed.answers (h : f.WellFormed) : f.Answers where
  reference := h.isSome_reference?
  related := by rw [isSome_relatedModel?, h.isSome_reference?]
  action := by
    obtain ⟨action, haction⟩ := h.onDelete_eq_ok
    exact ⟨action, haction, h.isSome_onDelete haction⟩
  target hon := isForeignKey_iff.2 (h.action (has_iff.1 hon))
  kinds := h.kinds
  modifier _ _ := modifier?_eq_some_iff h.kinds
  default := h.isSome_default?
  modelColumn := h.checked_eq_ok modelColumn
  migrationColumn := h.checked_eq_ok migrationColumn
  fake := f.exists_fakeValue
  rules _ := ⟨_, rfl⟩
  member action := by cases action <;> exact ⟨_, _, rfl⟩

end Field

/-- The fields of every text that is read as a schema answer every question. -/
theorem answers_of_parse {raw : Option String} {s : Schema} (h : Schema.parse raw = .ok s) :
    ∀ f ∈ s.fields, f.Answers :=
  fun f hf => ((wellFormed_of_parse h).fields f hf).answers

/-- An action needs a target, and the type of this field says which. -/
theorem answers_of_owner : (⟨"owner_id", .foreignId, [⟨.onDelete, some "set_null"⟩]⟩ : Field).Answers :=
  @answers_of_parse (some "owner_id:foreign_id:on_delete(SET_NULL)")
    ⟨[⟨"owner_id", .foreignId, [⟨.onDelete, some "set_null"⟩]⟩]⟩ (by decide +kernel) _ (by simp)

/-- An unknown action is handed back. -/
example (column : Field → Column) :
    Field.checked column ⟨"owner_id", .foreignId, [⟨.onDelete, some "forget"⟩]⟩ = .error "forget" := rfl

end CrudScaffold
