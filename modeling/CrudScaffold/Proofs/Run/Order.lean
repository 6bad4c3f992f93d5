import CrudScaffold.Proofs.Artifact.Needs
import CrudScaffold.Proofs.Run.Exchange

/-!
# The order of the files of a run

Files are written after the files that they import.  In a run that begins without files, whatever one of its files
imports from another file was written before it, with two exceptions: the seeder imports the factory, and the routes the
controller, also if it is not chosen (`imports_written`).
-/

namespace CrudScaffold

open ArtifactKind (IsStamp)

variable {k k' : ArtifactKind} {r : Request} {w w' : Workspace} {report : Report}

namespace ArtifactKind

/-! ### Needed files -/

/-- The kinds of files that import a file of another kind whether or not it is chosen. -/
def unchosenNeeds : List (ArtifactKind × ArtifactKind) :=
  [(seeder, factory), (routes, controller)]

/-- No file depends on the stamp that another one needs. -/
private theorem artifact_of_needed (h : k' ∈ k.needs r) (stamp : String) :
    k'.artifact stamp r = k'.artifact "" r := by
  refine artifact_congr ?_ _ _ _
  rintro rfl
  cases k <;> simp [needs] at h

/-- A needed file is chosen too, unless it is one of the two that are needed in any case. -/
theorem isChosen_of_needed (hmodel : r.isChosen .model = true)
    (hbodies : r.isChosen .updateRequest = r.isChosen .createRequest) (h : k' ∈ k.needs r) :
    r.isChosen k'.choice = true ∨ (k, k') ∈ unchosenNeeds := by
  cases k with
  | controller =>
    left
    simp only [needs, List.mem_append, List.mem_ite_nil_right, List.mem_cons, List.not_mem_nil, or_false] at h
    obtain ((rfl | ⟨hchosen, rfl | rfl⟩) | ⟨hchosen, rfl⟩) | ⟨hchosen, rfl⟩ := h
    · exact hmodel
    · exact hchosen
    · exact hbodies.trans hchosen
    · exact hchosen
    · exact hchosen
  | factory | filter =>
    rw [List.mem_singleton.1 h]
    exact Or.inl hmodel
  | seeder | routes =>
    rw [List.mem_singleton.1 h]
    exact Or.inr (by decide)
  | model | createRequest | updateRequest | resource | test | migration => cases h

/-- In the order of the registry no file stands before one that it needs. -/
private theorem dispatchOrder_pairwise (r : Request) :
    Registry.dispatchOrder.Pairwise fun k k' => k' ∉ k.needs r := by
  simp [Registry.dispatchOrder, needs]

private theorem not_mem_needs_self (k : ArtifactKind) (r : Request) : k ∉ k.needs r := by
  cases k <;> simp [needs]

end ArtifactKind

namespace Command

variable {c : Command} {a : Arguments} {before after : List ArtifactKind}

/-- What a chosen file needs stands before it if it is chosen. -/
private theorem mem_before_of_needed (hstandard : c.registry = .standard)
    (horder : c.chosenKinds r = before ++ k :: after) (hneeds : k' ∈ k.needs r)
    (hchosen : k' ∈ c.chosenKinds r) : k' ∈ before := by
  have hpairwise : (c.chosenKinds r).Pairwise fun k k' => k' ∉ k.needs r := by
    rw [(chosenKinds_standard hstandard r).1]
    exact (ArtifactKind.dispatchOrder_pairwise r).filter _
  rw [horder] at hpairwise hchosen
  rcases List.mem_append.1 hchosen with hmem | hmem
  · exact hmem
  · rcases List.mem_cons.1 hmem with rfl | hmem
    · exact absurd hneeds (k'.not_mem_needs_self r)
    · have hlater := (List.pairwise_cons.1 (List.pairwise_append.1 hpairwise).2.1).1 k' hmem
      exact absurd hneeds hlater

/-- A successful dispatch that begins without files leaves the file of every chosen kind.  Every import of such a file
from another module of the application than that of the database is from the module of a file that was written before;
or it is the factory that the seeder imports, or the controller that the routes import, which was not chosen and is not
there. -/
theorem imports_written (hstandard : c.registry = .standard) (hr : c.request a = .ok r)
    (hempty : ∀ l, w.tree.file? l = none) (h : outcome (c.dispatch r) w = (.ok report, w'))
    (horder : c.chosenKinds r = before ++ k :: after) :
    w'.tree.lookup (k.outputPath w.clock.next.stamp r) =
        .ok (.file (r.fileOf w.clock.next.stamp [] k).2) ∧
      ∀ i ∈ k.imports w.clock.next.stamp r, i.origin ∉ r.foreignModules →
        ∃ k', i.origin = r.modulePath (k'.artifact w.clock.next.stamp r).place ∧
          (k' ∈ before ∧ w'.tree.lookup (k'.outputPath w.clock.next.stamp r) =
              .ok (.file (r.fileOf w.clock.next.stamp [] k').2) ∨
            (k, k') ∈ ArtifactKind.unchosenNeeds ∧ k' ∉ c.chosenKinds r ∧
              w'.tree.file? (w'.tree.resolve (k'.outputPath w.clock.next.stamp r)) = none) := by
  have hmodel := model_of_request hr
  have hstamp := ArtifactKind.isStamp_stamp w.clock.next
  have hroutes : w.tree.HasRoutes (ArtifactKind.routes.outputPath "" r) [] := by
    rw [FileTree.HasRoutes, if_pos rfl]
    exact hempty _
  obtain ⟨hwrites, -⟩ := dispatch_writesAll hstandard hroutes (by simp) h
  generalize w.clock.next.stamp = stamp at hstamp hwrites ⊢
  refine ⟨holds_fileOf hstamp hwrites (by simp [horder]), fun i hi horigin => ?_⟩
  obtain ⟨k', hk', hmodule⟩ :=
    ArtifactKind.exists_needed (blank_not_mem_of_modelName hmodel) (snake_ne_empty hmodel) hi horigin
  refine ⟨k', by rw [hmodule, ArtifactKind.artifact_of_needed hk' stamp], ?_⟩
  by_cases hchosen : k' ∈ c.chosenKinds r
  · exact Or.inl ⟨mem_before_of_needed hstandard horder hk' hchosen, holds_fileOf hstamp hwrites hchosen⟩
  · right
    obtain ⟨hmodelChosen, hbodies⟩ := derived_of_request hr
    have hnot : ¬ r.isChosen k'.choice = true := mt (mem_chosenKinds_iff hstandard).2 hchosen
    refine ⟨(ArtifactKind.isChosen_of_needed hmodelChosen hbodies hk').resolve_left hnot, hchosen, ?_⟩
    rw [FileTree.resolve_congr hwrites.changed.home, hwrites.changed.file ?_]
    · exact hempty _
    · rintro q ⟨f, hf, rfl⟩
      exact resolve_fileOf_ne hstamp hchosen f hf

/-- A factory and a seeder in an empty directory. -/
theorem imports_written_of_seeder :
    let c : Command := ⟨.fallback, .standard, reservedWords⟩
    let a : Arguments := ⟨"Post", none, [("factory", true), ("seeder", true)], none, .text "out", .absent⟩
    let w : Workspace := ⟨⟨["home"], []⟩, ⟨⟨⟨2024, 1, 2⟩, 3, 4, 5, 6⟩, []⟩, ⟨0, []⟩, []⟩
    ∃ r report w', c.request a = .ok r ∧ outcome (c.dispatch r) w = (.ok report, w') ∧
      c.chosenKinds r = [.model, .factory] ++ .seeder :: [] ∧
      ∀ i ∈ ArtifactKind.seeder.imports w.clock.next.stamp r, i.origin ∉ r.foreignModules →
        ∃ k' ∈ ([.model, .factory] : List ArtifactKind), i.origin = r.modulePath (k'.artifact w.clock.next.stamp r).place := by
  intro c a w
  have hruns : (c.request a).toOption.map (fun r => ((outcome (c.dispatch r) w).1.isOk, c.chosenKinds r)) =
      some (true, [.model, .factory, .seeder]) := by
    decide +kernel
  cases hrequest : c.request a with
  | error failure => simp [hrequest, Except.toOption] at hruns
  | ok r =>
    simp only [hrequest, Except.toOption, Option.map_some, Option.some.injEq, Prod.mk.injEq] at hruns
    obtain ⟨hok, hkinds⟩ := hruns
    obtain ⟨report, w', hrun⟩ := exists_outcome_of_isOk hok
    have horder : c.chosenKinds r = [.model, .factory] ++ .seeder :: [] := hkinds
    have hempty : ∀ l, w.tree.file? l = none := fun l => by
      simp only [FileTree.file?, FileTree.node?]
      split_ifs <;> rfl
    obtain ⟨-, himports⟩ := imports_written rfl hrequest hempty hrun horder
    refine ⟨r, report, w', rfl, hrun, horder, fun i hi horigin => ?_⟩
    obtain ⟨k', hmodule, ⟨hmem, -⟩ | ⟨hpair, hnot, -⟩⟩ := himports i hi horigin
    · exact ⟨k', hmem, hmodule⟩
    · obtain rfl : k' = .factory := by simpa [ArtifactKind.unchosenNeeds] using hpair
      exact absurd (by simp [horder]) hnot

/-- A seeder without a factory, in an empty directory. -/
theorem not_imports_written_of_seeder :
    let c : Command := ⟨.fallback, .standard, reservedWords⟩
    let a : Arguments := ⟨"Post", none, [("seeder", true)], none, .text "out", .absent⟩
    let w : Workspace := ⟨⟨["home"], []⟩, ⟨⟨⟨2024, 1, 2⟩, 3, 4, 5, 6⟩, []⟩, ⟨0, []⟩, []⟩
    ∃ r report w', c.request a = .ok r ∧ outcome (c.dispatch r) w = (.ok report, w') ∧
      .seeder ∈ c.chosenKinds r ∧ ∃ i ∈ ArtifactKind.seeder.imports w.clock.next.stamp r,
        i.origin ∉ r.foreignModules ∧
          ∀ k' ∈ c.chosenKinds r, i.origin ≠ r.modulePath (k'.artifact w.clock.next.stamp r).place := by
  intro c a w
  have hruns : (c.request a).toOption.map (fun r => ((outcome (c.dispatch r) w).1.isOk, decide (
      .seeder ∈ c.chosenKinds r ∧ ∃ i ∈ ArtifactKind.seeder.imports w.clock.next.stamp r,
        i.origin ∉ r.foreignModules ∧
          ∀ k' ∈ c.chosenKinds r, i.origin ≠ r.modulePath (k'.artifact w.clock.next.stamp r).place))) =
      some (true, true) := by
    decide +kernel
  cases hrequest : c.request a with
  | error failure => simp [hrequest, Except.toOption] at hruns
  | ok r =>
    simp only [hrequest, Except.toOption, Option.map_some, Option.some.injEq, Prod.mk.injEq, decide_eq_true_eq] at hruns
    obtain ⟨hok, hmissing⟩ := hruns
    obtain ⟨report, w', hrun⟩ := exists_outcome_of_isOk hok
    exact ⟨r, report, w', rfl, hrun, hmissing⟩

end Command

end CrudScaffold
