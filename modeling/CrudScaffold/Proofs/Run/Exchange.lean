import CrudScaffold.Proofs.Run.Routes
import CrudScaffold.Proofs.Run.Success
import CrudScaffold.Proofs.Storage.Sequence

/-!
# Runs for different resources

While the routes file has only blocks of registrations, a run writes one file after the other, each of them with a
content that is known beforehand (`Completes.writesAll`), and it succeeds exactly where the tree admits them
(`completes_of_admits`).  Two runs for different resources below one root have no place in common but that of the
routes, so that they can be exchanged (`Command.dispatch_exchange`).
-/

namespace CrudScaffold

open FileTree (Writes WritesAll)
open ArtifactKind (IsStamp routes)

variable {k : ArtifactKind} {kinds : List ArtifactKind} {r : Request} {rs : List Request} {stamp : String}
  {p q : Path} {t t' : FileTree} {w w' : Workspace} {files : List ProducedFile} {report : Report}
  {content : ByteArray}

/-! ### The routes file -/

namespace FileTree

/-- The routes file has the blocks of these requests; without any there is no file at its place. -/
def HasRoutes (t : FileTree) (p : Path) (rs : List Request) : Prop :=
  if rs = [] then t.file? (t.resolve p) = none else t.lookup p = .ok (.file (Request.routesText rs).toUTF8)

theorem HasRoutes.holdsRoutes (h : t.HasRoutes p rs) : t.HoldsRoutes p rs := by
  unfold HasRoutes at h
  unfold HoldsRoutes
  by_cases hnil : rs = []
  · rw [if_pos hnil] at h ⊢
    intro content hlookup
    rw [file?, node?_of_lookup hlookup] at h
    cases h
  · rw [if_neg hnil] at h ⊢
    exact h

/-- Files at other places leave the routes file as it is. -/
theorem HasRoutes.of_changedAt {directories paths : Path → Prop} (h : t.HasRoutes p rs)
    (hchange : ChangedAt directories paths t t') (hapart : ∀ q, paths q → t.resolve q ≠ t.resolve p) :
    t'.HasRoutes p rs := by
  unfold HasRoutes at h ⊢
  split
  · rename_i hnil
    rw [if_pos hnil] at h
    rwa [resolve_congr hchange.home, hchange.file hapart]
  · rename_i hne
    rw [if_neg hne] at h
    exact hchange.lookup h hapart

/-- The text that a registration finds, and what it makes of it. -/
theorem HasRoutes.registered? {before : String} (h : t.HasRoutes p rs) (hbefore : t.HasText p before) :
    r.registered? (Text.translated before) =
      if r.snake ∈ rs.map Request.snake then none else some (Request.routesText (rs ++ [r])) := by
  unfold HasRoutes at h
  split at h
  · rename_i hnil
    subst hnil
    cases hbefore with
    | missing => exact Request.registered?_empty r
    | there hlookup =>
      rw [file?, node?_of_lookup hlookup] at h
      cases h
  · obtain rfl := hbefore.unique (.there h)
    rw [Text.translated_of_not_mem (Request.not_mem_routesText rs)]
    exact Request.registered?_routesText rs r

/-- Where the routes file could be written it can be read. -/
theorem HasRoutes.exists_hasText (h : t.HasRoutes p rs) (hadmits : t.Admits p) : ∃ before, t.HasText p before := by
  unfold HasRoutes at h
  split at h
  · exact ⟨"", .missing (hadmits.probe h)⟩
  · exact ⟨_, .there h⟩

end FileTree

/-! ### The files of one run -/

/-- The file that a generator writes when the routes file has the blocks of the given requests. -/
def Request.fileOf (r : Request) (stamp : String) (rs : List Request) (k : ArtifactKind) : Path × ByteArray :=
  (k.outputPath stamp r, if k = .routes then (Request.routesText (rs ++ [r])).toUTF8 else (k.render stamp r).toUTF8)

private theorem routes_outputPath_eq (stamp : String) (r : Request) :
    routes.outputPath stamp r = routes.outputPath "" r :=
  (ArtifactKind.routes_outputPath stamp r).trans (ArtifactKind.routes_outputPath "" r).symm

/-- A generator that succeeds has written its file. -/
private theorem timed_writes (hclock : k = .migration → w.clock.next.stamp = stamp)
    (hroutes : k = .routes → w.tree.HasRoutes (routes.outputPath "" r) rs) (hnew : r.snake ∉ rs.map Request.snake)
    (h : outcome (Command.timed k (k.generator r)) w = (.ok files, w')) :
    Writes (k.outputPath stamp r) (r.fileOf stamp rs k).2 w.tree w'.tree ∧ (k ≠ .migration → w'.clock = w.clock) := by
  obtain ⟨v, v', htree, hclockSame, hrun, htree', hclock'⟩ := Command.outcome_timed_cases h
  rw [htree', hclock', ← htree, ← hclockSame]
  unfold ArtifactKind.generator at hrun
  unfold Request.fileOf
  by_cases hk : k = .routes
  · subst hk
    rw [if_pos rfl] at hrun ⊢
    obtain ⟨hkept, before, hbefore, hcases⟩ := ArtifactKind.register_cases hrun
    rw [htree] at hbefore
    rw [(hroutes rfl).registered? hbefore, if_neg hnew] at hcases
    rcases hcases with ⟨hnone, -⟩ | ⟨content, hcontent, hwrites, -⟩
    · cases hnone
    · obtain rfl := Option.some.inj hcontent
      rw [routes_outputPath_eq]
      exact ⟨hwrites, fun _ => hkept⟩
  · rw [if_neg hk] at hrun ⊢
    rw [← hclockSame] at hclock
    obtain ⟨hwrites, -, hkept⟩ := ArtifactKind.produce_writes hk hclock hrun
    exact ⟨hwrites, hkept⟩

/-- A generator succeeds where the tree admits its file. -/
private theorem timed_succeeds_of_admits (hclock : k = .migration → w.clock.next.stamp = stamp)
    (hroutes : k = .routes → w.tree.HasRoutes (routes.outputPath "" r) rs)
    (hadmits : w.tree.Admits (k.outputPath stamp r)) :
    ∃ files w', outcome (Command.timed k (k.generator r)) w = (.ok files, w') := by
  refine Command.timed_succeeds fun v htree hclockSame => ?_
  unfold ArtifactKind.generator
  rw [← htree] at hadmits
  by_cases hk : k = .routes
  · subst hk
    rw [if_pos rfl]
    rw [routes_outputPath_eq] at hadmits
    have hread := hroutes rfl
    rw [← htree] at hread
    obtain ⟨before, hbefore⟩ := hread.exists_hasText hadmits
    exact ArtifactKind.register_succeeds_iff.2 ⟨before, hbefore, Or.inr hadmits⟩
  · rw [if_neg hk]
    rw [← hclockSame] at hclock
    exact (ArtifactKind.produce_succeeds_iff hclock).2 hadmits

/-- The files of other kinds do not touch the routes. -/
private theorem hasRoutes_of_writes (hstamp : IsStamp stamp) (hk : k ≠ .routes)
    (h : t.HasRoutes (routes.outputPath "" r) rs) (hwrites : Writes (k.outputPath stamp r) content t t') :
    t'.HasRoutes (routes.outputPath "" r) rs := by
  refine h.of_changedAt hwrites.changed ?_
  rintro q rfl hplace
  rw [← routes_outputPath_eq stamp] at hplace
  exact hk (ArtifactKind.same_of_resolve rfl hstamp hstamp hplace).1

private theorem isModuleBelow_fileOf {root : String} (hstamp : IsStamp stamp) (hroot : r.root = root) :
    ∀ f ∈ kinds.map (r.fileOf stamp rs), (Path.ofText root).IsModuleBelow f.1 := by
  intro f hf
  obtain ⟨k, -, rfl⟩ := List.mem_map.1 hf
  rw [← hroot]
  exact ArtifactKind.isModuleBelow_outputPath hstamp k r

/-- A run of generators writes their files in order. -/
theorem Completes.writesAll (hstamp : IsStamp stamp) (h : Completes r kinds w report w') (hnodup : kinds.Nodup)
    (hclock : .migration ∈ kinds → w.clock.next.stamp = stamp)
    (hroutes : .routes ∈ kinds → w.tree.HasRoutes (routes.outputPath "" r) rs)
    (hnew : r.snake ∉ rs.map Request.snake) : WritesAll w.tree (kinds.map (r.fileOf stamp rs)) w'.tree := by
  induction h with
  | nil w => exact .nil _
  | @cons k kinds w w₁ w₂ files report hfirst _ ih =>
    obtain ⟨hfresh, hnodup⟩ := List.nodup_cons.1 hnodup
    obtain ⟨hwrites, hkept⟩ := timed_writes (fun hm => hclock (by simp [hm]))
      (fun hk => hroutes (by simp [hk])) hnew hfirst
    refine .cons hwrites (ih hnodup (Command.stamp_of_kept hfresh hkept hclock) fun hmem => ?_)
    refine hasRoutes_of_writes hstamp ?_ (hroutes (by simp [hmem])) hwrites
    rintro rfl
    exact hfresh hmem

/-- Generators succeed one after the other where the tree admits the files of all of them. -/
theorem completes_of_admits (hstamp : IsStamp stamp) (hnodup : kinds.Nodup)
    (hclock : .migration ∈ kinds → w.clock.next.stamp = stamp)
    (hroutes : .routes ∈ kinds → w.tree.HasRoutes (routes.outputPath "" r) rs)
    (hnew : r.snake ∉ rs.map Request.snake) (hadmits : ∀ k ∈ kinds, w.tree.Admits (k.outputPath stamp r)) :
    ∃ report w', Completes r kinds w report w' := by
  induction kinds generalizing w with
  | nil => exact ⟨[], w, .nil w⟩
  | cons k kinds ih =>
    obtain ⟨hfresh, hnodup⟩ := List.nodup_cons.1 hnodup
    have hclockFirst : k = .migration → w.clock.next.stamp = stamp := fun hm => hclock (by simp [hm])
    have hroutesFirst : k = .routes → w.tree.HasRoutes (routes.outputPath "" r) rs :=
      fun hk => hroutes (by simp [hk])
    obtain ⟨files, w₁, hfirst⟩ := timed_succeeds_of_admits hclockFirst hroutesFirst (hadmits k (by simp))
    obtain ⟨hwrites, hkept⟩ := timed_writes hclockFirst hroutesFirst hnew hfirst
    have hbelow (k : ArtifactKind) := ArtifactKind.isModuleBelow_outputPath hstamp k r
    have hclockRest : .migration ∈ kinds → w₁.clock.next.stamp = stamp :=
      Command.stamp_of_kept hfresh hkept hclock
    have hroutesRest : .routes ∈ kinds → w₁.tree.HasRoutes (routes.outputPath "" r) rs := by
      intro hmem
      refine hasRoutes_of_writes hstamp ?_ (hroutes (by simp [hmem])) hwrites
      rintro rfl
      exact hfresh hmem
    have hadmitsRest : ∀ k ∈ kinds, w₁.tree.Admits (k.outputPath stamp r) :=
      fun k' hk' => ((hbelow k).admits_iff (hbelow k') hwrites).2 (hadmits k' (by simp [hk']))
    obtain ⟨report, w', hrest⟩ := ih hnodup hclockRest hroutesRest hadmitsRest
    exact ⟨_, w', .cons hfirst hrest⟩

/-- Each file of a run is there afterwards as it was written. -/
theorem holds_fileOf (hstamp : IsStamp stamp) (h : WritesAll t (kinds.map (r.fileOf stamp rs)) t') (hk : k ∈ kinds) :
    t'.lookup (k.outputPath stamp r) = .ok (.file (r.fileOf stamp rs k).2) := by
  have hfile := h.holds (List.mem_map_of_mem hk) fun g hg hplace => by
    obtain ⟨k', -, rfl⟩ := List.mem_map.1 hg
    rw [(ArtifactKind.same_of_resolve rfl hstamp hstamp hplace).1]
  exact hfile

/-- No file of a run is at the place of a file of another kind. -/
theorem resolve_fileOf_ne (hstamp : IsStamp stamp) (hk : k ∉ kinds) :
    ∀ f ∈ kinds.map (r.fileOf stamp rs), t.resolve f.1 ≠ t.resolve (k.outputPath stamp r) := by
  intro f hf hplace
  obtain ⟨k', hk', rfl⟩ := List.mem_map.1 hf
  exact hk ((ArtifactKind.same_of_resolve rfl hstamp hstamp hplace).1 ▸ hk')

/-- What a run leaves of the routes file. -/
theorem hasRoutes_of_writesAll (hstamp : IsStamp stamp) (h : WritesAll t (kinds.map (r.fileOf stamp rs)) t')
    (hroutes : t.HasRoutes (routes.outputPath "" r) rs) :
    t'.HasRoutes (routes.outputPath "" r) (if .routes ∈ kinds then rs ++ [r] else rs) := by
  split
  · rename_i hmem
    rw [FileTree.HasRoutes, if_neg (by simp), ← routes_outputPath_eq stamp]
    exact holds_fileOf hstamp h hmem
  · rename_i hmem
    refine hroutes.of_changedAt h.changed ?_
    rintro q ⟨f, hf, rfl⟩
    rw [← routes_outputPath_eq stamp]
    exact resolve_fileOf_ne hstamp hmem f hf

/-! ### Two runs -/

namespace Command

variable {c : Command} {a b : Request} {m n : String}

theorem mem_chosenKinds_iff (hstandard : c.registry = .standard) :
    k ∈ c.chosenKinds r ↔ r.isChosen k.choice = true := by
  have hall : k ∈ Registry.dispatchOrder := by
    cases k <;> decide
  rw [(chosenKinds_standard hstandard r).1, List.mem_filter, and_iff_right hall]

/-- What a dispatch with the standard generators does where the routes file has blocks of other names: it writes the
files of the chosen kinds. -/
theorem dispatch_writesAll (hstandard : c.registry = .standard)
    (hroutes : w.tree.HasRoutes (routes.outputPath "" r) rs) (hnew : r.snake ∉ rs.map Request.snake)
    (h : outcome (c.dispatch r) w = (.ok report, w')) :
    WritesAll w.tree ((c.chosenKinds r).map (r.fileOf w.clock.next.stamp rs)) w'.tree ∧
      w'.tree.HasRoutes (routes.outputPath "" r) (rs ++ [r].filter (·.isChosen .routes)) := by
  have hstamp := ArtifactKind.isStamp_stamp w.clock.next
  obtain ⟨last, hdone, rfl⟩ := (dispatch_eq_ok_iff hstandard).1 h
  have hwrites := hdone.writesAll hstamp (nodup_chosenKinds hstandard r) (fun _ => rfl) (fun _ => hroutes) hnew
  have hafter := hasRoutes_of_writesAll hstamp hwrites hroutes
  simp only [mem_chosenKinds_iff hstandard, ArtifactKind.choice] at hafter
  refine ⟨hwrites, ?_⟩
  by_cases hchosen : r.isChosen .routes = true
  · simpa [hchosen] using hafter
  · simpa [hchosen] using hafter

private theorem dispatch_succeeds (hstandard : c.registry = .standard)
    (hroutes : w.tree.HasRoutes (routes.outputPath "" r) rs) (hnew : r.snake ∉ rs.map Request.snake)
    (hadmits : ∀ k ∈ c.chosenKinds r, w.tree.Admits (k.outputPath w.clock.next.stamp r)) :
    ∃ report w', outcome (c.dispatch r) w = (.ok report, w') := by
  have hstamp := ArtifactKind.isStamp_stamp w.clock.next
  obtain ⟨report, last, hdone⟩ := completes_of_admits hstamp (nodup_chosenKinds hstandard r) (fun _ => rfl)
    (fun _ => hroutes) hnew hadmits
  exact ⟨report, _, (dispatch_eq_ok_iff hstandard).2 ⟨last, hdone, rfl⟩⟩

end Command

/-! ### Two requests -/

section Two

variable {a b : Request} {m n : String} {kindsA kindsB : List ArtifactKind} {ra rb : List Request}

/-- Of two resources only the routes are at the same place, so that a file of one of them is alone at its place among
the files of both. -/
private theorem holds_of_two (hroot : a.root = b.root) (hsnake : a.snake ≠ b.snake) (htable : a.table ≠ b.table)
    (hm : IsStamp m) (hn : IsStamp n) {sequence : List (Path × ByteArray)} (h : WritesAll t sequence t')
    (hsequence : ∀ g ∈ sequence, g ∈ kindsA.map (a.fileOf m ra) ∨ g ∈ kindsB.map (b.fileOf n rb))
    (hmem : a.fileOf m ra k ∈ sequence) (hk : k ≠ .routes) :
    t'.lookup (k.outputPath m a) = .ok (.file (k.render m a).toUTF8) := by
  have hholds := h.holds hmem fun g hg hplace => by
    rcases hsequence g hg with hfile | hfile
    · obtain ⟨k', -, rfl⟩ := List.mem_map.1 hfile
      rw [(ArtifactKind.same_of_resolve rfl hm hm hplace).1]
    · obtain ⟨k', -, rfl⟩ := List.mem_map.1 hfile
      obtain ⟨-, hname, hmigration⟩ := ArtifactKind.same_of_resolve hroot hm hn hplace.symm
      by_cases hkm : k = .migration
      · exact absurd (hmigration hkm) htable
      · exact absurd (hname hk hkm) hsnake
  simpa [Request.fileOf, hk] using hholds

/-- In both orders the same is there afterwards, but for the routes. -/
private theorem node?_of_two (hroot : a.root = b.root) (hsnake : a.snake ≠ b.snake) (htable : a.table ≠ b.table)
    (hm : IsStamp m) (hn : IsStamp n) {ra' rb' : List Request} {t'' : FileTree} {l : Location}
    (h : WritesAll t (kindsA.map (a.fileOf m ra) ++ kindsB.map (b.fileOf n rb)) t')
    (h' : WritesAll t (kindsB.map (b.fileOf n rb') ++ kindsA.map (a.fileOf m ra')) t'')
    (hl : l ≠ t.resolve (routes.outputPath "" a)) : t'.node? l = t''.node? l := by
  have hroutes {k : ArtifactKind} (r : Request) (hr : r.root = a.root) (stamp : String) (hk : k = .routes) :
      t.resolve (k.outputPath stamp r) ≠ l := by
    rw [hk, ArtifactKind.routes_outputPath, hr, ← ArtifactKind.routes_outputPath ""]
    exact Ne.symm hl
  refine h.node?_eq h' (fun p => ?_) fun f hf hplace => ?_
  · simp only [List.mem_append, or_and_right, exists_or, List.mem_map, exists_exists_and_eq_and, Request.fileOf]
    exact or_comm
  · rcases List.mem_append.1 hf with hfile | hfile
    · obtain ⟨k, hk, rfl⟩ := List.mem_map.1 hfile
      have hkr : k ≠ .routes := fun hkr => hroutes a rfl m hkr hplace
      have hmem := List.mem_append_right (kindsB.map (b.fileOf n rb')) (List.mem_map_of_mem (f := a.fileOf m ra') hk)
      have hthere := holds_of_two hroot hsnake htable hm hn h (fun g => List.mem_append.1) hf hkr
      have hthere' := holds_of_two hroot hsnake htable hm hn h' (fun g hg => (List.mem_append.1 hg).symm) hmem hkr
      exact hthere.trans hthere'.symm
    · obtain ⟨k, hk, rfl⟩ := List.mem_map.1 hfile
      have hkr : k ≠ .routes := fun hkr => hroutes b hroot.symm n hkr hplace
      have hmem := List.mem_append_left (kindsA.map (a.fileOf m ra')) (List.mem_map_of_mem (f := b.fileOf n rb') hk)
      have hthere := holds_of_two hroot.symm hsnake.symm htable.symm hn hm h
        (fun g hg => (List.mem_append.1 hg).symm) hf hkr
      have hthere' := holds_of_two hroot.symm hsnake.symm htable.symm hn hm h' (fun g => List.mem_append.1) hmem hkr
      exact hthere.trans hthere'.symm

end Two

namespace Command

variable {c : Command} {a b : Request} {w₁ w₁' w₂ w₂' : Workspace} {reportA reportB : Report}

private theorem not_mem_of_ne (h : a.snake ≠ b.snake) (chosen : Request → Bool) :
    b.snake ∉ ([a].filter chosen).map Request.snake := by
  intro hmem
  obtain ⟨s, hs, hsame⟩ := List.mem_map.1 hmem
  obtain rfl := List.mem_singleton.1 (List.mem_filter.1 hs).1
  exact h hsame

/-- What two dispatches for different resources have written. -/
private theorem two_dispatches (hstandard : c.registry = .standard) (hsnake : a.snake ≠ b.snake)
    (hpath : routes.outputPath "" a = routes.outputPath "" b)
    (hbefore : w₁.tree.HasRoutes (routes.outputPath "" a) []) (hfirst : outcome (c.dispatch a) w₁ = (.ok reportA, w₁'))
    (hnext : w₂.tree = w₁'.tree) (hsecond : outcome (c.dispatch b) w₂ = (.ok reportB, w₂')) :
    WritesAll w₁.tree ((c.chosenKinds a).map (a.fileOf w₁.clock.next.stamp [])) w₁'.tree ∧
      WritesAll w₁'.tree ((c.chosenKinds b).map
        (b.fileOf w₂.clock.next.stamp ([a].filter (·.isChosen .routes)))) w₂'.tree ∧
      w₂'.tree.HasRoutes (routes.outputPath "" a) ([a, b].filter (·.isChosen .routes)) := by
  obtain ⟨hA, hroutesA⟩ := dispatch_writesAll hstandard hbefore (by simp) hfirst
  rw [List.nil_append, ← hnext, hpath] at hroutesA
  obtain ⟨hB, hroutesB⟩ := dispatch_writesAll hstandard hroutesA (not_mem_of_ne hsnake _) hsecond
  rw [← List.filter_append, ← hpath] at hroutesB
  exact ⟨hA, hnext ▸ hB, hroutesB⟩

/-- Two dispatches for different resources below one root that have succeeded in one order, where there was no routes
file, succeed in the other order too, each at its own moment. The same is there afterwards, but for the routes file:
it has the blocks of the requests that asked for routes, in the order of the runs. The run that came second has left
the other files of the first one as they were. -/
theorem dispatch_exchange (hstandard : c.registry = .standard) (hroot : a.root = b.root) (hsnake : a.snake ≠ b.snake)
    (htable : a.table ≠ b.table)
    (hnone : w₁.tree.file? (w₁.tree.resolve (routes.outputPath "" a)) = none)
    (hfirst : outcome (c.dispatch a) w₁ = (.ok reportA, w₁')) (hnext : w₂.tree = w₁'.tree)
    (hsecond : outcome (c.dispatch b) w₂ = (.ok reportB, w₂')) {v₁ : Workspace} (hstart : v₁.tree = w₁.tree)
    (hclock : v₁.clock.next = w₂.clock.next) :
    (∀ k ∈ c.chosenKinds a, k ≠ .routes → ∃ content,
      w₁'.tree.lookup (k.outputPath w₁.clock.next.stamp a) = .ok (.file content) ∧
        w₂'.tree.lookup (k.outputPath w₁.clock.next.stamp a) = .ok (.file content)) ∧
    ∃ reportB' v₁', outcome (c.dispatch b) v₁ = (.ok reportB', v₁') ∧
      ∀ v₂ : Workspace, v₂.tree = v₁'.tree → v₂.clock.next = w₁.clock.next →
        ∃ reportA' v₂', outcome (c.dispatch a) v₂ = (.ok reportA', v₂') ∧ v₂'.tree.home = w₂'.tree.home ∧
          (∀ l, l ≠ w₁.tree.resolve (routes.outputPath "" a) → v₂'.tree.node? l = w₂'.tree.node? l) ∧
          w₂'.tree.HoldsRoutes (routes.outputPath "" a) ([a, b].filter (·.isChosen .routes)) ∧
          v₂'.tree.HoldsRoutes (routes.outputPath "" a) ([b, a].filter (·.isChosen .routes)) := by
  have hm := ArtifactKind.isStamp_stamp w₁.clock.next
  have hn := ArtifactKind.isStamp_stamp w₂.clock.next
  generalize hmEq : w₁.clock.next.stamp = m at hm ⊢
  generalize hnEq : w₂.clock.next.stamp = n at hn
  have hpath : routes.outputPath "" a = routes.outputPath "" b := by
    rw [ArtifactKind.routes_outputPath, ArtifactKind.routes_outputPath, hroot]
  have hbefore : w₁.tree.HasRoutes (routes.outputPath "" a) [] := by
    rw [FileTree.HasRoutes, if_pos rfl]
    exact hnone
  obtain ⟨hA, hB, hroutes⟩ := two_dispatches hstandard hsnake hpath hbefore hfirst hnext hsecond
  rw [hmEq] at hA
  rw [hnEq] at hB
  have hAB := hA.append hB
  have hadmits := hAB.admits
    (List.forall_mem_append.2 ⟨isModuleBelow_fileOf hm rfl, isModuleBelow_fileOf hn hroot.symm⟩)
  constructor
  · -- what the first run has written is what both have written
    intro k hk hkr
    have hmem : a.fileOf m [] k ∈ (c.chosenKinds a).map (a.fileOf m []) := List.mem_map_of_mem hk
    have hown : ∀ g ∈ (c.chosenKinds a).map (a.fileOf m []), g ∈ (c.chosenKinds a).map (a.fileOf m []) ∨
        g ∈ ([] : List ArtifactKind).map (b.fileOf n []) := fun g => Or.inl
    refine ⟨_, holds_of_two hroot hsnake htable hm hn hA hown hmem hkr, ?_⟩
    exact holds_of_two hroot hsnake htable hm hn hAB (fun g => List.mem_append.1) (List.mem_append_left _ hmem) hkr
  · have hstartRoutes : v₁.tree.HasRoutes (routes.outputPath "" b) [] := by
      rw [hstart, ← hpath]
      exact hbefore
    have hstamp : v₁.clock.next.stamp = n := by rw [hclock, hnEq]
    have hadmitsB : ∀ k ∈ c.chosenKinds b, v₁.tree.Admits (k.outputPath v₁.clock.next.stamp b) := by
      intro k hk
      rw [hstart, hstamp]
      exact hadmits _ (List.mem_append_right _ (List.mem_map_of_mem hk))
    obtain ⟨reportB', v₁', hrunB⟩ := dispatch_succeeds hstandard hstartRoutes (by simp) hadmitsB
    refine ⟨reportB', v₁', hrunB, fun v₂ hnext' hclock' => ?_⟩
    obtain ⟨hB', hroutesB'⟩ := dispatch_writesAll hstandard hstartRoutes (by simp) hrunB
    have hstamp' : v₂.clock.next.stamp = m := by rw [hclock', hmEq]
    rw [hstart, hstamp] at hB'
    -- the files of the other run are still admitted
    have hadmitsA : ∀ k ∈ c.chosenKinds a, v₂.tree.Admits (k.outputPath v₂.clock.next.stamp a) := by
      intro k hk
      rw [hnext', hstamp', hB'.admits_iff (isModuleBelow_fileOf hn hroot.symm)
        (ArtifactKind.isModuleBelow_outputPath hm k a)]
      exact hadmits _ (List.mem_append_left _ (List.mem_map_of_mem hk))
    rw [List.nil_append, ← hnext', ← hpath] at hroutesB'
    obtain ⟨reportA', v₂', hrunA⟩ := dispatch_succeeds hstandard hroutesB' (not_mem_of_ne hsnake.symm _) hadmitsA
    obtain ⟨-, hA', hroutes'⟩ :=
      two_dispatches hstandard hsnake.symm hpath.symm hstartRoutes hrunB hnext' hrunA
    rw [hstamp'] at hA'
    have hBA := hB'.append hA'
    refine ⟨reportA', v₂', hrunA, ?_, fun l hl => ?_, hroutes.holdsRoutes, ?_⟩
    · rw [hBA.changed.home, hAB.changed.home]
    · exact (node?_of_two hroot hsnake htable hm hn hAB hBA hl).symm
    · rw [hpath]
      exact hroutes'.holdsRoutes

/-- Two models in an empty directory, one with a migration and one with a seeder, and both with routes. -/
theorem dispatch_exchange_of_post :
    let c : Command := ⟨.fallback, .standard, reservedWords⟩
    let a : Request := ⟨"Post", ⟨fun choice => choice ∈ [.model, .migration, .routes]⟩, ⟨[⟨"title", .string, []⟩]⟩,
      "api", "out", "app"⟩
    let b : Request := ⟨"Tag", ⟨fun choice => choice ∈ [.model, .seeder, .routes]⟩, ⟨[]⟩, "api", "out", "app"⟩
    let w : Workspace := ⟨⟨["home"], []⟩, ⟨⟨⟨2024, 1, 2⟩, 3, 4, 5, 6⟩, []⟩, ⟨0, []⟩, []⟩
    let later : Readings Moment := ⟨⟨⟨2024, 1, 2⟩, 3, 5, 0, 0⟩, []⟩
    (c.chosenKinds a = [.model, .migration, .routes] ∧ c.chosenKinds b = [.model, .seeder, .routes]) ∧
      ∃ reportA w' reportB w'', outcome (c.dispatch a) w = (.ok reportA, w') ∧
        outcome (c.dispatch b) { w' with clock := later } = (.ok reportB, w'') ∧
        ∃ reportB' v reportA' v', outcome (c.dispatch b) { w with clock := later } = (.ok reportB', v) ∧
          outcome (c.dispatch a) { v with clock := w.clock } = (.ok reportA', v') ∧
          (∀ l, l ≠ w.tree.resolve (routes.outputPath "" a) → v'.tree.node? l = w''.tree.node? l) ∧
          w''.tree.HoldsRoutes (routes.outputPath "" a) [a, b] ∧
          v'.tree.HoldsRoutes (routes.outputPath "" a) [b, a] := by
  intro c a b w later
  have hkinds : c.chosenKinds a = [.model, .migration, .routes] ∧ c.chosenKinds b = [.model, .seeder, .routes] := by
    rw [(chosenKinds_standard rfl a).1, (chosenKinds_standard rfl b).1]
    decide +kernel
  -- each run succeeds in the empty directory
  have hokA : (outcome (c.dispatch a) w).1.isOk = true := by decide +kernel
  have hokB : (outcome (c.dispatch b) { w with clock := later }).1.isOk = true := by decide +kernel
  obtain ⟨reportA, w', hfirst⟩ := exists_outcome_of_isOk hokA
  obtain ⟨_, u, halone⟩ := exists_outcome_of_isOk hokB
  have hnone : w.tree.file? (w.tree.resolve (routes.outputPath "" a)) = none := by decide +kernel
  have hbefore : w.tree.HasRoutes (routes.outputPath "" a) [] := by
    rw [FileTree.HasRoutes, if_pos rfl]
    exact hnone
  have hsnake : a.snake ≠ b.snake := by decide +kernel
  obtain ⟨hA, hroutes⟩ := dispatch_writesAll rfl hbefore (by simp) hfirst
  rw [List.nil_append] at hroutes
  have hB := (@dispatch_writesAll b [] { w with clock := later } u _ c rfl hbefore (by simp) halone).1
  -- so the second one succeeds after the first
  have hstamp := ArtifactKind.isStamp_stamp w.clock.next
  have hstamp' := ArtifactKind.isStamp_stamp later.next
  have hadmits : ∀ k ∈ c.chosenKinds b, w'.tree.Admits (k.outputPath later.next.stamp b) := by
    intro k hk
    rw [hA.admits_iff (isModuleBelow_fileOf hstamp rfl) (ArtifactKind.isModuleBelow_outputPath hstamp' k b)]
    exact hB.admits (isModuleBelow_fileOf hstamp' rfl) _ (List.mem_map_of_mem hk)
  obtain ⟨reportB, w'', hsecond⟩ := @dispatch_succeeds b _ { w' with clock := later } c rfl hroutes
    (not_mem_of_ne hsnake _) hadmits
  have hroot : a.root = b.root := rfl
  have hnext : ({ w' with clock := later } : Workspace).tree = w'.tree := rfl
  have hstart : ({ w with clock := later } : Workspace).tree = w.tree := rfl
  have hclock : ({ w with clock := later } : Workspace).clock.next = later.next := rfl
  have htable : a.table ≠ b.table := by decide +kernel
  obtain ⟨-, reportB', v, hrunB, hrest⟩ :=
    dispatch_exchange rfl hroot hsnake htable hnone hfirst hnext hsecond hstart hclock
  obtain ⟨reportA', v', hrunA, -, hsame, hroutes, hroutes'⟩ := hrest { v with clock := w.clock } rfl rfl
  exact ⟨hkinds, reportA, w', reportB, w'', hfirst, hsecond, reportB', v, reportA', v', hrunB, hrunA, hsame, hroutes,
    hroutes'⟩

end Command

end CrudScaffold
