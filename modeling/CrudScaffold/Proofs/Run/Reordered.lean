import CrudScaffold.Proofs.Artifact.Reordered
import CrudScaffold.Proofs.Run.Held
import CrudScaffold.Run.Command

/-!
# Runs and the order of modifiers

Two schemas that differ in the order of modifiers only are written as the same files, by generators that do the same
(`files_eq_of_reordered`).  What is left of the order is seen in the table of fields that a run prints, in the labels of
each row.
-/

namespace CrudScaffold

/-- Rows of the table of fields that differ in the order of the labels of modifiers at most. -/
def Schema.ReorderedRow (row row' : List String) : Prop :=
  ∃ name type labels labels', row = [name, type, ", ".intercalate labels] ∧
    row' = [name, type, ", ".intercalate labels'] ∧ labels.Perm labels'

theorem Schema.rows_of_reordered {s s' : Schema} (h : List.Forall₂ Field.Reordered s.fields s'.fields) :
    List.Forall₂ Schema.ReorderedRow s.table.rows s'.table.rows := by
  change List.Forall₂ _ (s.fields.map _) (s'.fields.map _)
  rw [List.forall₂_map_left_iff, List.forall₂_map_right_iff]
  refine h.imp fun f f' hf => ⟨f.name, f.type.word, f.labels, f'.labels, rfl, ?_, hf.modifiers.map Modifier.label⟩
  rw [hf.name, hf.type]

namespace ArtifactKind

variable (k : ArtifactKind) (stamp : String) (r : Request)

theorem render_canonical : k.render stamp r.canonical = k.render stamp r :=
  congrArg (fun artifact => artifact.source.render) (k.artifact_canonical stamp r)

theorem outputPath_canonical : k.outputPath stamp r.canonical = k.outputPath stamp r :=
  congrArg (fun artifact : Artifact => r.outputPath (Artifact.segments artifact.place)) (k.artifact_canonical stamp r)

theorem generator_canonical : k.generator r.canonical = k.generator r := by
  unfold generator
  split
  · rfl
  · simp only [produce_eq, render_canonical, outputPath_canonical]
    rfl

end ArtifactKind

namespace Command

theorem runAll_canonical (r : Request) {generators : Entries ArtifactKind Generator}
    (h : ∀ e ∈ generators, e.2 = e.1.generator) : runAll r.canonical generators = runAll r generators := by
  induction generators with
  | nil => rfl
  | cons e rest ih =>
    obtain ⟨k, generator⟩ := e
    obtain rfl : generator = k.generator := h _ List.mem_cons_self
    unfold runAll
    rw [k.generator_canonical, ih fun e he => h e (List.mem_cons_of_mem _ he)]

theorem dispatch_canonical {c : Command} (hstandard : c.registry = .standard) (r : Request) :
    c.dispatch r.canonical = c.dispatch r := by
  unfold dispatch
  rw [runAll_canonical]
  · rfl
  · intro e he
    rw [hstandard] at he
    obtain ⟨k, -, rfl⟩ := List.mem_map.1 (List.mem_of_mem_filter he)
    rfl

end Command

/-- Requests whose schemas are the same up to the order of modifiers. -/
theorem Request.canonical_eq_of_reordered {s s' : Schema} (h : List.Forall₂ Field.Reordered s.fields s'.fields)
    (hs : s.WellFormed) (r : Request) :
    ({ r with schema := s } : Request).canonical = ({ r with schema := s' } : Request).canonical :=
  congrArg (fun fields => ({ r with schema := ⟨fields⟩ } : Request))
    (map_canonical_of_reordered h fun f hf => (hs.fields f hf).kinds)

/-- A text and the text with its modifiers in another order are accepted together.  Then every file has the same text
for both, whatever else is requested, every generator does the same, and so does the whole dispatch; in the table of
fields each row has the same labels in some order. -/
theorem files_eq_of_reordered {a b : String} (h : ReorderedSchema a.toList b.toList) :
    ((∃ s, Schema.parse (some a) = .ok s) ↔ ∃ s, Schema.parse (some b) = .ok s) ∧
      ∀ s s', Schema.parse (some a) = .ok s → Schema.parse (some b) = .ok s' →
        (∀ (r : Request) (k : ArtifactKind) (stamp : String),
          k.render stamp { r with schema := s' } = k.render stamp { r with schema := s }) ∧
        (∀ (r : Request) (k : ArtifactKind),
          k.generator { r with schema := s' } = k.generator { r with schema := s }) ∧
        (∀ (r : Request) (c : Command), c.registry = .standard →
          c.dispatch { r with schema := s' } = c.dispatch { r with schema := s }) ∧
        s'.table.headers = s.table.headers ∧ List.Forall₂ Schema.ReorderedRow s.table.rows s'.table.rows := by
  refine ⟨⟨?_, ?_⟩, fun s s' hs hs' => ?_⟩
  · rintro ⟨s, hs⟩
    obtain ⟨s', hs', -⟩ := exists_parse_of_reordered h hs
    exact ⟨s', hs'⟩
  · rintro ⟨s', hs'⟩
    obtain ⟨s, hs, -⟩ := exists_parse_of_reordered h.symm hs'
    exact ⟨s, hs⟩
  · obtain ⟨t, ht, hfields⟩ := exists_parse_of_reordered h hs
    obtain rfl : t = s' := Except.ok.inj (ht.symm.trans hs')
    have hsame := Request.canonical_eq_of_reordered hfields (wellFormed_of_parse hs)
    refine ⟨fun r k stamp => ?_, fun r k => ?_, fun r c hstandard => ?_, rfl, Schema.rows_of_reordered hfields⟩
    · rw [← k.render_canonical, ← hsame r, k.render_canonical]
    · rw [← k.generator_canonical, ← hsame r, k.generator_canonical]
    · rw [← Command.dispatch_canonical hstandard, ← hsame r, Command.dispatch_canonical hstandard]

/-- The action stands in front of the flag, or behind it. -/
theorem files_eq_of_owner :
    ∃ s s', Schema.parse (some "owner_id:foreign_id:nullable:on_delete(cascade),title:string") = .ok s ∧
      Schema.parse (some "owner_id:foreign_id:on_delete(cascade):nullable,title:string") = .ok s' ∧ s' ≠ s ∧
      ∀ (r : Request) (k : ArtifactKind) (stamp : String),
        k.render stamp { r with schema := s' } = k.render stamp { r with schema := s } := by
  have hreordered : ReorderedSchema "owner_id:foreign_id:nullable:on_delete(cascade),title:string".toList
      "owner_id:foreign_id:on_delete(cascade):nullable,title:string".toList := by
    refine ⟨["owner_id:foreign_id:nullable:on_delete(cascade)".toList, "title:string".toList],
      ["owner_id:foreign_id:on_delete(cascade):nullable".toList, "title:string".toList],
      by decide +kernel, .cons ?_ (.cons ?_ .nil), by decide +kernel⟩
    · exact ⟨["owner_id".toList, "foreign_id".toList, "nullable".toList, "on_delete(cascade)".toList],
        ["owner_id".toList, "foreign_id".toList, "on_delete(cascade)".toList, "nullable".toList],
        by decide +kernel, ⟨rfl, .swap _ _ _⟩, by decide +kernel⟩
    · exact ⟨["title".toList, "string".toList], _, by decide +kernel, .refl _, by decide +kernel⟩
  have hs : Schema.parse (some "owner_id:foreign_id:nullable:on_delete(cascade),title:string") =
      .ok ⟨[⟨"owner_id", .foreignId, [⟨.nullable, none⟩, ⟨.onDelete, some "cascade"⟩]⟩, ⟨"title", .string, []⟩]⟩ := by
    decide +kernel
  have hs' : Schema.parse (some "owner_id:foreign_id:on_delete(cascade):nullable,title:string") =
      .ok ⟨[⟨"owner_id", .foreignId, [⟨.onDelete, some "cascade"⟩, ⟨.nullable, none⟩]⟩, ⟨"title", .string, []⟩]⟩ := by
    decide +kernel
  exact ⟨_, _, hs, hs', by decide, ((files_eq_of_reordered hreordered).2 _ _ hs hs').1⟩

end CrudScaffold
