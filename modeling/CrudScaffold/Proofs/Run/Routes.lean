import CrudScaffold.Proofs.Artifact.Routes
import CrudScaffold.Proofs.Run.Success

/-!
# The routes of many runs

Each run registers one controller in the file that the earlier ones left.  A single registration adds the block of a
new name and changes nothing for a name that the file has (`register_step`), so after any number of runs the file
has one block for each name, in the order of the first uses (`registers_routes`).
-/

namespace CrudScaffold

open ArtifactKind (register routes)

/-- Registrations of these requests that all succeeded, one after the other, and the tree they left. Between two of
them anything but the tree may change. -/
inductive Registers (t : FileTree) : List Request → FileTree → Prop
  | start : Registers t [] t
  | next {rs : List Request} {r : Request} {w w' : Workspace} {files : List ProducedFile}
      (before : Registers t rs w.tree) (run : outcome (register r) w = (.ok files, w')) :
      Registers t (rs ++ [r]) w'.tree

/-- The file at the path has the blocks of these requests; without any there is no file. -/
def FileTree.HoldsRoutes (t : FileTree) (p : Path) (rs : List Request) : Prop :=
  if rs = [] then ∀ content, t.lookup p ≠ .ok (.file content)
  else t.lookup p = .ok (.file (Request.routesText rs).toUTF8)

variable {p : Path} {r : Request} {rs : List Request} {t t' : FileTree} {w w' : Workspace}

/-- What is read from the file makes the next registration add a block exactly for a new name. -/
private theorem registered?_of_holdsRoutes {existing : String} (hholds : w.tree.HoldsRoutes p rs)
    (h : outcome (routes.readExisting p) w = (.ok existing, w')) :
    w' = w ∧ r.registered? existing =
      if r.snake ∈ rs.map Request.snake then none else some (Request.routesText (rs ++ [r])) := by
  unfold FileTree.HoldsRoutes at hholds
  split at hholds
  · rename_i hnil
    obtain ⟨rfl, htext⟩ := ArtifactKind.outcome_readExisting_cases h
    rcases htext existing rfl with ⟨rfl, -⟩ | ⟨content, written, hlookup, -⟩
    · subst hnil
      exact ⟨rfl, Request.registered?_empty r⟩
    · exact absurd hlookup (hholds content)
  · rw [ArtifactKind.outcome_readExisting_of_file hholds (Request.not_mem_routesText rs)] at h
    obtain ⟨hexisting, rfl⟩ := Prod.mk.inj h
    obtain rfl := Except.ok.inj hexisting
    exact ⟨rfl, Request.registered?_routesText rs r⟩

theorem register_step {files : List ProducedFile} (hholds : w.tree.HoldsRoutes (routes.outputPath "" r) rs)
    (h : outcome (register r) w = (.ok files, w')) :
    w'.tree.HoldsRoutes (routes.outputPath "" r) (if r.snake ∈ rs.map Request.snake then rs else rs ++ [r]) := by
  unfold register at h
  obtain ⟨existing, w₁, hread, hrest⟩ := outcome_bind_eq_ok_iff.1 h
  obtain ⟨rfl, hregistered⟩ := registered?_of_holdsRoutes (r := r) hholds hread
  rw [hregistered] at hrest
  split
  · rename_i hmem
    simp only [if_pos hmem] at hrest
    rw [outcome_bind_of_ok (Task.outcome_note ..)] at hrest
    obtain ⟨-, rfl⟩ := Prod.mk.inj hrest
    exact hholds
  · rename_i hmem
    simp only [if_neg hmem] at hrest
    obtain ⟨size, w₂, hwrite, hsaid⟩ := outcome_bind_eq_ok_iff.1 hrest
    rw [outcome_bind_of_ok (Task.outcome_note ..)] at hsaid
    obtain ⟨-, rfl⟩ := Prod.mk.inj hsaid
    obtain ⟨-, ⟨e, he, -⟩ | ⟨-, -, hlookup⟩⟩ := ArtifactKind.outcome_write_cases hwrite
    · cases he
    · rw [FileTree.HoldsRoutes, if_neg (by simp)]
      exact hlookup

/-- A registration for a name that the file has succeeds and changes no file. -/
theorem outcome_register_of_mem (hholds : w.tree.HoldsRoutes (routes.outputPath "" r) rs)
    (hmem : r.snake ∈ rs.map Request.snake) :
    ∃ files output, outcome (register r) w = (.ok files, { w with output := output }) := by
  have hne : rs ≠ [] := by
    rintro rfl
    cases hmem
  have hlookup := hholds
  rw [FileTree.HoldsRoutes, if_neg hne] at hlookup
  have hread := ArtifactKind.outcome_readExisting_of_file (k := routes) hlookup (Request.not_mem_routesText rs)
  obtain ⟨-, hregistered⟩ := registered?_of_holdsRoutes (r := r) hholds hread
  rw [if_pos hmem] at hregistered
  unfold register
  rw [outcome_bind_of_ok hread, hregistered]
  simp only
  rw [outcome_bind_of_ok (Task.outcome_note ..)]
  exact ⟨_, _, rfl⟩

/-- What any number of registrations leaves. -/
theorem Registers.holdsRoutes {root : String} (hroot : ∀ r ∈ rs, r.root = root)
    (hnone : ∀ content, t.lookup ((Path.ofText root).under ["routes", "api.py"]) ≠ .ok (.file content))
    (h : Registers t rs t') :
    t'.HoldsRoutes ((Path.ofText root).under ["routes", "api.py"]) (Request.firsts rs) := by
  induction h with
  | start => exact hnone
  | @next rs r w w' files _ hrun ih =>
    -- the paths of the file agree, since all requests have the same root
    have hholds := ih fun s hs => hroot s (List.mem_append_left _ hs)
    rw [← hroot r (by simp), ← ArtifactKind.routes_outputPath ""] at hholds ⊢
    rw [Request.firsts_append_singleton]
    exact register_step hholds hrun

/-- After a first registration the file is there. -/
theorem Registers.lookup {root : String} (hroot : ∀ r ∈ rs, r.root = root)
    (hnone : ∀ content, t.lookup ((Path.ofText root).under ["routes", "api.py"]) ≠ .ok (.file content))
    (h : Registers t rs t') (hne : rs ≠ []) :
    t'.lookup ((Path.ofText root).under ["routes", "api.py"]) =
      .ok (.file (Request.routesText (Request.firsts rs)).toUTF8) := by
  have hholds := h.holdsRoutes hroot hnone
  rwa [FileTree.HoldsRoutes, if_neg (Request.firsts_ne_nil hne)] at hholds

/-! ### Further registrations -/

private theorem outputPath_of_root {root : String} (h : r.root = root) :
    routes.outputPath "" r = (Path.ofText root).under ["routes", "api.py"] := by
  rw [ArtifactKind.routes_outputPath, h]

private theorem admits_routes {content : ByteArray} (hwrites : FileTree.Writes (routes.outputPath "" r) content t t') :
    t'.Admits (routes.outputPath "" r) := by
  have hstamp : ArtifactKind.IsStamp "" := fun _ hc => absurd hc List.not_mem_nil
  have hbelow := ArtifactKind.isModuleBelow_outputPath hstamp .routes r
  exact (hbelow.admits_iff hbelow hwrites).2 hwrites.admits

/-- A file that was written may be written again. -/
theorem Registers.admits {root : String} (hroot : ∀ r ∈ rs, r.root = root)
    (hnone : ∀ content, t.lookup ((Path.ofText root).under ["routes", "api.py"]) ≠ .ok (.file content))
    (h : Registers t rs t') (hne : rs ≠ []) : t'.Admits ((Path.ofText root).under ["routes", "api.py"]) := by
  induction h with
  | start => exact absurd rfl hne
  | @next rs r w w' files hbefore hrun ih =>
    have hroot' : ∀ s ∈ rs, s.root = root := fun s hs => hroot s (List.mem_append_left _ hs)
    have hpath := outputPath_of_root (hroot r (by simp))
    obtain ⟨-, text, htext, ⟨hthere, htree, -⟩ | ⟨content, -, hwrites, -⟩⟩ := ArtifactKind.register_cases hrun
    · -- nothing was added, so that there was a file before
      rw [htree]
      refine ih hroot' ?_
      rintro rfl
      cases htext with
      | missing =>
        rw [show Text.translated "" = "" from rfl, Request.registered?_empty] at hthere
        cases hthere
      | there hfile => exact hbefore.holdsRoutes hroot' hnone _ (hpath ▸ hfile)
    · exact hpath ▸ admits_routes hwrites

/-- Once a registration has succeeded, all further ones below the root do, whatever the time. -/
theorem Registers.exists_append {root : String} {more : List Request} (hroot : ∀ r ∈ rs ++ more, r.root = root)
    (hnone : ∀ content, t.lookup ((Path.ofText root).under ["routes", "api.py"]) ≠ .ok (.file content))
    (h : Registers t rs t') (hne : rs ≠ []) (w : Workspace) : ∃ t'', Registers t (rs ++ more) t'' := by
  induction more generalizing rs t' with
  | nil => exact ⟨t', by rwa [List.append_nil]⟩
  | cons r more ih =>
    rw [List.append_cons] at hroot ⊢
    have hroot' : ∀ s ∈ rs, s.root = root := fun s hs =>
      hroot s (List.mem_append_left _ (List.mem_append_left _ hs))
    have hpath := outputPath_of_root (hroot r (by simp))
    have hfile := hpath ▸ h.lookup hroot' hnone hne
    have hadmits := hpath ▸ h.admits hroot' hnone hne
    obtain ⟨files, w', hrun⟩ : ∃ files w', outcome (register r) { w with tree := t' } = (.ok files, w') :=
      ArtifactKind.register_succeeds_iff.2 ⟨_, .there hfile, Or.inr hadmits⟩
    have hnext : Registers t (rs ++ [r]) w'.tree := Registers.next h hrun
    exact ih hroot hnext (by simp)

/-! ### All registrations -/

/-- After registrations below one root that began without a routes file, the file has the first lines and one block
for each name, in the order of the first requests with these names. One more registration for any of the names
changes nothing. -/
theorem registers_routes {root : String} (hroot : ∀ r ∈ rs, r.root = root)
    (hnone : ∀ content, t.lookup ((Path.ofText root).under ["routes", "api.py"]) ≠ .ok (.file content))
    (h : Registers t rs t') :
    (rs ≠ [] → t'.lookup ((Path.ofText root).under ["routes", "api.py"]) =
        .ok (.file (Request.routesText (Request.firsts rs)).toUTF8)) ∧
      ∀ (r : Request) (w : Workspace), r.root = root → r.snake ∈ rs.map Request.snake → w.tree = t' →
        ∃ files output, outcome (register r) w = (.ok files, { w with output := output }) := by
  refine ⟨h.lookup hroot hnone, ?_⟩
  rintro r w rfl hmem rfl
  have hholds := h.holdsRoutes hroot hnone
  rw [← ArtifactKind.routes_outputPath ""] at hholds
  exact outcome_register_of_mem hholds (Request.mem_map_snake_firsts.2 hmem)

/-- Two models in an empty directory, the first one once more, and then the second one. -/
theorem registers_routes_of_repeat :
    let post : Request := ⟨"BlogPost", ⟨fun _ => true⟩, ⟨[]⟩, "api", "out", "app"⟩
    let tag : Request := ⟨"Tag", ⟨fun _ => true⟩, ⟨[]⟩, "api", "out", "app"⟩
    let w : Workspace := ⟨⟨["home"], []⟩, ⟨⟨⟨2024, 1, 2⟩, 3, 4, 5, 6⟩, []⟩, ⟨0, []⟩, []⟩
    ∃ t, Registers w.tree [post, tag, post] t ∧
      t.lookup ((Path.ofText "out").under ["routes", "api.py"]) =
        .ok (.file (Request.routesText [post, tag]).toUTF8) ∧
      ∃ files output, outcome (register tag) { w with tree := t } = (.ok files, ⟨t, w.clock, w.stopwatch, output⟩) := by
  intro post tag w
  have hnone : ∀ content, w.tree.lookup ((Path.ofText "out").under ["routes", "api.py"]) ≠ .ok (.file content) :=
    fun content => ne_ok_of_isOk_eq_false (by decide +kernel) _
  have hroot : ∀ s ∈ [post] ++ [tag, post], s.root = "out" := by simp [post, tag]
  have hok : (outcome (register post) w).1.isOk = true := by decide +kernel
  obtain ⟨files, w', hrun⟩ := exists_outcome_of_isOk hok
  obtain ⟨t, hruns⟩ := (Registers.start.next hrun).exists_append hroot hnone (List.cons_ne_nil _ _) w
  have hfirsts : Request.firsts ([post] ++ [tag] ++ [post]) = [post, tag] := by
    have hother : tag.snake ∉ [post].map Request.snake := by decide +kernel
    have hagain : post.snake ∈ [post, tag].map Request.snake := List.mem_cons_self
    have htwo : Request.firsts ([post] ++ [tag]) = [post, tag] := by
      rw [Request.firsts_append_singleton]
      exact if_neg hother
    rw [Request.firsts_append_singleton, htwo]
    exact if_pos hagain
  obtain ⟨hfile, hagain⟩ := registers_routes hroot hnone hruns
  have hlookup := hfile (List.cons_ne_nil _ _)
  exact ⟨t, hruns, hfirsts ▸ hlookup, hagain tag { w with tree := t } rfl (by simp) rfl⟩

end CrudScaffold
