import CrudScaffold.Proofs.Calendar
import CrudScaffold.Proofs.Run.Revision

/-!
# Migrations in the order of time

The names of migrations begin with stamps of one length, so that they come in the order of the seconds in which the
migrations were made, whatever the tables are called (`name_migration_lt_iff`).
-/

namespace CrudScaffold

open ArtifactKind (migration)

namespace ArtifactKind

variable {r r' : Request} {m m' : Moment}

theorem name_outputPath_migration {stamp : String} (hstamp : IsStamp stamp) :
    (migration.outputPath stamp r).name = r.revision stamp ++ "_table.py" := by
  rw [outputPath_migration hstamp]
  simp [Path.name, Path.under]

/-- The names of migrations are in the order of the seconds, and those of one second in the order of their tables. -/
theorem name_migration_lt_iff (h : m.IsInstant) (h' : m'.IsInstant) (hyear : 1000 ≤ m.date.year)
    (hyear' : 1000 ≤ m'.date.year) :
    (migration.outputPath m.stamp r).name < (migration.outputPath m'.stamp r').name ↔
      m.seconds < m'.seconds ∨ m.seconds = m'.seconds ∧ r.table ++ "_table.py" < r'.table ++ "_table.py" := by
  have hname (m : Moment) (r : Request) : (migration.outputPath m.stamp r).name.toList =
      m.stamp.toList ++ ("_create_".toList ++ (r.table ++ "_table.py").toList) := by
    rw [name_outputPath_migration (isStamp_stamp m), Request.revision]
    simp only [String.toList_append, List.append_assoc]
  have hlength : m.stamp.toList.length = m'.stamp.toList.length :=
    (Moment.length_stamp h hyear).trans (Moment.length_stamp h' hyear').symm
  have hword {us vs : List Char} : "_create_".toList ++ us < "_create_".toList ++ vs ↔ us < vs := by
    rw [Text.append_lt_append_iff rfl]
    simp
  rw [String.lt_iff, hname, hname, Text.append_lt_append_iff hlength, hword, ← String.lt_iff, String.toList_inj,
    ← String.lt_iff, Moment.stamp_lt_iff h h' hyear hyear', Moment.stamp_inj h h' hyear hyear']

end ArtifactKind

/-- Migrations that are made in years of four digits sort in the order of time.  One that is made a second or more
before another one comes first, whatever the models are; in general the names are in the order of the seconds in which
the migrations were made, and those of one second in the order of their tables.  The stamps of two moments are the same
exactly if a clock shows the same of both up to the second. -/
theorem migrations_sorted {m m' : Moment} (h : m.IsInstant) (h' : m'.IsInstant) (hyear : 1000 ≤ m.date.year)
    (hyear' : 1000 ≤ m'.date.year) :
    (∀ r r' : Request,
      let name := (migration.outputPath m.stamp r).name
      let name' := (migration.outputPath m'.stamp r').name
      (m.microseconds + 1000000 ≤ m'.microseconds → name < name') ∧
        (name < name' ↔
          m.seconds < m'.seconds ∨ m.seconds = m'.seconds ∧ r.table ++ "_table.py" < r'.table ++ "_table.py")) ∧
    (m.stamp = m'.stamp ↔
      m.date = m'.date ∧ m.hour = m'.hour ∧ m.minute = m'.minute ∧ m.second = m'.second) := by
  refine ⟨fun r r' => ⟨fun hlater => ?_, ArtifactKind.name_migration_lt_iff h h' hyear hyear'⟩, ?_⟩
  · exact (ArtifactKind.name_migration_lt_iff h h' hyear hyear').2
      (Or.inl (Moment.seconds_lt_of_microseconds hlater))
  · rw [Moment.stamp_inj h h' hyear hyear', Moment.seconds_inj h h']

/-- One second at the turn of a year changes every number of the stamp, and counts more than the tables do. -/
theorem migrations_sorted_of_newYear :
    let m : Moment := ⟨⟨2024, 12, 31⟩, 23, 59, 59, 999999⟩
    let m' : Moment := ⟨⟨2025, 1, 1⟩, 0, 0, 0, 999999⟩
    let r : Request := ⟨"Zebra", .initial, ⟨[]⟩, "default", "out", "app"⟩
    let r' : Request := ⟨"Apple", .initial, ⟨[]⟩, "default", "out", "app"⟩
    (m.IsInstant ∧ 1000 ≤ m.date.year) ∧ (m'.IsInstant ∧ 1000 ≤ m'.date.year) ∧
      modelName reservedWords "Zebra" = .ok r.model ∧ modelName reservedWords "Apple" = .ok r'.model ∧
      m.microseconds + 1000000 ≤ m'.microseconds ∧
      (migration.outputPath m.stamp r).name < (migration.outputPath m'.stamp r').name ∧ m.stamp ≠ m'.stamp := by
  intro m m' r r'
  have hm : m.IsInstant := ⟨rfl, rfl, by decide⟩
  have hm' : m'.IsInstant := ⟨rfl, rfl, by decide⟩
  have hyear : 1000 ≤ m.date.year := by decide
  have hyear' : 1000 ≤ m'.date.year := by decide
  have hlater : m.microseconds + 1000000 ≤ m'.microseconds := by decide +kernel
  obtain ⟨hnames, hstamps⟩ := migrations_sorted hm hm' hyear hyear'
  have hzebra : modelName reservedWords "Zebra" = .ok r.model := by decide +kernel
  have happle : modelName reservedWords "Apple" = .ok r'.model := by decide +kernel
  refine ⟨⟨hm, hyear⟩, ⟨hm', hyear'⟩, hzebra, happle, hlater, (hnames r r').1 hlater, fun heq => ?_⟩
  exact absurd (hstamps.1 heq).1 (by decide)

/-- Years are not padded, so that the stamps of the year 999 come after those of the year 1000. -/
example : Moment.stamp ⟨⟨1000, 1, 1⟩, 0, 0, 0, 0⟩ < Moment.stamp ⟨⟨999, 12, 31⟩, 0, 0, 0, 0⟩ := by
  decide +kernel

end CrudScaffold
