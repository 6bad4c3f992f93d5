import CrudScaffold.Proofs.Artifact.Place
import CrudScaffold.Proofs.Run.Task
import CrudScaffold.Run.Generator

/-!
# The stamp that a generator holds

A generator of migrations looks at the clock once in a run and holds the stamp until the run is over, so that a run
is the publication of one text under one stamp (`outcome_run`).  To its caller it is like every other generator, which
takes its stamp first (`ArtifactKind.produce_eq`).
-/

namespace CrudScaffold

theorem ArtifactKind.outcome_stamp {w : Workspace} (k : ArtifactKind) :
    outcome k.stamp w =
      if k = .migration then (.ok w.clock.next.stamp, { w with clock := w.clock.rest }) else (.ok "", w) := by
  unfold stamp
  split <;> rfl

namespace MigrationGenerator

variable {α : Type} {g : MigrationGenerator} {w : Workspace} {r : Request}

@[simp] theorem outcome_inWorkspace (task : Task α) :
    outcome (inWorkspace task) g =
      ((outcome task g.workspace).1, { g with workspace := (outcome task g.workspace).2 }) := rfl

@[simp] theorem outcome_hold (held : Option String) : outcome (hold held) g = (.ok ⟨⟩, { g with held := held }) := rfl

@[simp] theorem outcome_fresh (step : Step α) :
    outcome (fresh step) w = ((outcome step ⟨none, w⟩).1, (outcome step ⟨none, w⟩).2.workspace) := rfl

@[simp] theorem outcome_readStamp :
    outcome readStamp g =
      (.ok g.workspace.clock.next.stamp,
        { g with workspace := { g.workspace with clock := g.workspace.clock.rest } }) := rfl

/-- As long as a stamp is held the clock is left alone. -/
theorem outcome_currentStamp_of_held {stamp : String} (h : g.held = some stamp) (hne : stamp ≠ "") :
    outcome currentStamp g = (.ok stamp, g) := by
  unfold currentStamp
  rw [outcome_bind_of_ok outcome_get, h]
  dsimp only
  rw [if_neg hne, outcome_pure]

theorem outcome_outputPath_of_held {stamp : String} (h : g.held = some stamp) (hne : stamp ≠ "") :
    outcome (outputPath r) g = (.ok (ArtifactKind.migration.outputPath stamp r), g) :=
  outcome_bind_of_ok (outcome_currentStamp_of_held h hne)

theorem outcome_render_of_held {stamp : String} (h : g.held = some stamp) (hne : stamp ≠ "") :
    outcome (render r) g = (.ok (ArtifactKind.migration.render stamp r), g) :=
  outcome_bind_of_ok (outcome_currentStamp_of_held h hne)

/-- What a run publishes when the clock shows a moment. -/
def publication (m : Moment) (r : Request) : Task (List ProducedFile) :=
  ArtifactKind.migration.publish (ArtifactKind.migration.outputPath m.stamp r) (ArtifactKind.migration.render m.stamp r) r

/-- A run takes one reading of the clock and publishes one text under it, and holds nothing in the end, whatever was
held before and however the publication ends. -/
theorem outcome_run (r : Request) (g : MigrationGenerator) :
    outcome (run r) g = Prod.map id (MigrationGenerator.mk none) (outcome (publication g.workspace.clock.next r)
      { g.workspace with clock := g.workspace.clock.rest }) := by
  have hne : g.workspace.clock.next.stamp ≠ "" := (ArtifactKind.isModuleName_stamp _).2
  unfold run
  rw [outcome_bind_of_ok outcome_readStamp, outcome_bind_of_ok (outcome_hold _)]
  unfold hold
  rw [outcome_tryFinally_modify, outcome_bind_of_ok (outcome_outputPath_of_held rfl hne),
    outcome_bind_of_ok (outcome_render_of_held rfl hne), outcome_inWorkspace]
  dsimp only [publication, Prod.map, id]

end MigrationGenerator

/-- Every generator that renders a file takes its stamp and publishes one text under it. -/
theorem ArtifactKind.produce_eq (k : ArtifactKind) (r : Request) :
    k.produce r = k.stamp >>= fun stamp => k.publish (k.outputPath stamp r) (k.render stamp r) r := by
  unfold produce
  by_cases hk : k = .migration
  · rw [if_pos hk, hk]
    refine eq_of_outcome fun w => ?_
    have hstamp := outcome_stamp (w := w) .migration
    rw [if_pos rfl] at hstamp
    rw [MigrationGenerator.outcome_fresh, MigrationGenerator.outcome_run, outcome_bind_of_ok hstamp]
    dsimp only [MigrationGenerator.publication, Prod.map, id]
  · rw [if_neg hk, stamp, if_neg hk, pure_bind]

end CrudScaffold
