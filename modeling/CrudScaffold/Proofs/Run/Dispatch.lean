import CrudScaffold.Proofs.Request
import CrudScaffold.Proofs.Run.Calls
import CrudScaffold.Proofs.Run.Generator

/-!
# What a dispatch leaves behind

The generators of a request run one after the other until one of them fails.  What one of them changes is known, so
that the files of a whole run, and those of a run that stops half-way, are known by induction on the generators that
succeed.
-/

namespace CrudScaffold

open FileTree (ChangedAt)

variable {r : Request} {w w' : Workspace}

/-- The generators of some kinds succeed one after the other, with the files that they report. -/
inductive Completes (r : Request) : List ArtifactKind → Workspace → Report → Workspace → Prop
  | nil (w : Workspace) : Completes r [] w [] w
  | cons {k : ArtifactKind} {kinds : List ArtifactKind} {w w₁ w₂ : Workspace} {files : List ProducedFile}
      {report : Report} (h : outcome (Command.timed k (k.generator r)) w = (.ok files, w₁))
      (hrest : Completes r kinds w₁ report w₂) : Completes r (k :: kinds) w (files ++ report) w₂

namespace Command

/-- Taking the time of a task does not touch files or the clock. -/
theorem outcome_timed_cases {k : ArtifactKind} {task : Task (List ProducedFile)}
    {result : Except Failure (List ProducedFile)} (h : outcome (timed k task) w = (result, w')) :
    ∃ w₁ w₂, w₁.tree = w.tree ∧ w₁.clock = w.clock ∧ outcome task w₁ = (result, w₂) ∧ w'.tree = w₂.tree ∧
      w'.clock = w₂.clock := by
  obtain ⟨v, v', hbefore, htimed, hafter⟩ := outcome_timed k task w
  rw [htimed] at h
  obtain ⟨rfl, rfl⟩ := Prod.mk.inj h
  exact ⟨v, _, hbefore.tree, hbefore.clock, rfl, hafter.tree, hafter.clock⟩

/-- A run succeeds with all its generators, or stops at one after those before it have succeeded. -/
theorem outcome_runAll_cases {kinds : List ArtifactKind} {result : Except Failure Report}
    (h : outcome (runAll r (kinds.map fun k => (k, k.generator))) w = (result, w')) :
    (∃ report, result = .ok report ∧ Completes r kinds w report w') ∨
      ∃ e done k rest report w₁, result = .error e ∧ kinds = done ++ k :: rest ∧ Completes r done w report w₁ ∧
        outcome (timed k (k.generator r)) w₁ = (.error e, w') := by
  induction kinds generalizing w result with
  | nil =>
    obtain ⟨rfl, rfl⟩ := Prod.mk.inj h
    exact Or.inl ⟨[], rfl, .nil w⟩
  | cons k kinds ih =>
    rw [List.map_cons, runAll] at h
    rcases hk : outcome (timed k (k.generator r)) w with ⟨e | files, w₁⟩
    · rw [outcome_bind_of_error hk] at h
      obtain ⟨rfl, rfl⟩ := Prod.mk.inj h
      exact Or.inr ⟨e, [], k, kinds, [], w, rfl, rfl, .nil w, hk⟩
    · rw [outcome_bind_of_ok hk] at h
      rcases hrest : outcome (runAll r (kinds.map fun k => (k, k.generator))) w₁ with ⟨e | report, w₂⟩
      · rw [outcome_bind_of_error hrest] at h
        obtain ⟨rfl, rfl⟩ := Prod.mk.inj h
        rcases ih hrest with ⟨report, hok, -⟩ | ⟨e', done, k', rest, report, w₃, he, rfl, hdone, hfail⟩
        · cases hok
        · obtain rfl := Except.error.inj he
          exact Or.inr ⟨e, k :: done, k', rest, files ++ report, w₃, rfl, rfl, .cons hk hdone, hfail⟩
      · rw [outcome_bind_of_ok hrest] at h
        obtain ⟨rfl, rfl⟩ := Prod.mk.inj h
        rcases ih hrest with ⟨report', hok, hcomplete⟩ | ⟨e', _, _, _, _, _, he, -⟩
        · obtain rfl := Except.ok.inj hok
          exact Or.inl ⟨_, rfl, .cons hk hcomplete⟩
        · cases he

end Command

/-! ### The files of a run -/

namespace ArtifactKind

variable {stamp : String}

/-- Files of different kinds are at different locations. -/
theorem resolve_injective (hsnake : r.snake ≠ "") (hstamp : Artifact.IsModuleName stamp) {t : FileTree}
    {k k' : ArtifactKind} (h : t.resolve (k.outputPath stamp r) = t.resolve (k'.outputPath stamp r)) : k = k' := by
  rw [resolve_outputPath hsnake hstamp, resolve_outputPath hsnake hstamp] at h
  exact names_injective (List.append_cancel_left h)

end ArtifactKind

/-- What is left behind when the generators of some kinds have succeeded. -/
structure Completed (r : Request) (stamp : String) (kinds : List ArtifactKind) (w : Workspace) (report : Report)
    (w' : Workspace) : Prop where
  /-- One file is reported for every kind, with the number of its bytes unless it is the file of all routes. -/
  report : List.Forall₂ (fun (k : ArtifactKind) (f : ProducedFile) => f.choice = k.choice ∧
    f.path = (k.outputPath stamp r).text ∧ (k ≠ .routes → f.size = (k.render stamp r).toUTF8.size)) kinds report
  changed : ChangedAt (fun q => ∃ k ∈ kinds, q.IsAbove (k.outputPath stamp r))
    (fun p => ∃ k ∈ kinds, p = k.outputPath stamp r) w.tree w'.tree
  written : ∀ k ∈ kinds, k ≠ .routes →
    w'.tree.lookup (k.outputPath stamp r) = .ok (.file (k.render stamp r).toUTF8)
  clock : .migration ∉ kinds → w'.clock = w.clock

/-- Files that are there stay as they are when generators of other kinds run. -/
private theorem lookup_of_others (hsnake : r.snake ≠ "") {stamp : String} (hstamp : Artifact.IsModuleName stamp)
    {k : ArtifactKind} {kinds : List ArtifactKind} (hk : k ∉ kinds) {t t' : FileTree} {content : ByteArray}
    {directories : Path → Prop} (h : ChangedAt directories (fun p => ∃ k ∈ kinds, p = k.outputPath stamp r) t t')
    (hlookup : t.lookup (k.outputPath stamp r) = .ok (.file content)) :
    t'.lookup (k.outputPath stamp r) = .ok (.file content) := by
  refine h.lookup hlookup ?_
  rintro q ⟨k', hk', rfl⟩ heq
  exact hk (ArtifactKind.resolve_injective hsnake hstamp heq ▸ hk')

/-- The run lemma: what one generator leaves, and what the others leave of it. -/
theorem Completes.completed (hsnake : r.snake ≠ "") {stamp : String} (hstamp : Artifact.IsModuleName stamp)
    {kinds : List ArtifactKind} {report : Report} (h : Completes r kinds w report w') (hnodup : kinds.Nodup)
    (hclock : .migration ∈ kinds → w.clock.next.stamp = stamp) : Completed r stamp kinds w report w' := by
  induction h with
  | nil w => exact ⟨.nil, .refl _, by simp, fun _ => rfl⟩
  | @cons k kinds w w₁ w₂ files report hk hrest ih =>
    obtain ⟨hfresh, hnodup⟩ := List.nodup_cons.1 hnodup
    obtain ⟨v, v', htree, hclockSame, hgen, htree', hclock'⟩ := Command.outcome_timed_cases hk
    have hstamp' : k = .migration → v.clock.next.stamp = stamp := fun hm => by
      rw [hclockSame]
      exact hclock (by simp [hm])
    have hend := ArtifactKind.generator_end hstamp' hgen
    obtain ⟨hchange, size, rfl, hwritten⟩ := hend.succeeded _ rfl
    rw [htree, ← htree'] at hchange
    rw [← htree'] at hwritten
    -- the migration comes at most once, so that the clock is untouched before it
    have hrest' := ih hnodup fun hm => by
      have hne : k ≠ .migration := fun h => hfresh (h ▸ hm)
      rw [hclock', hend.clock hne, hclockSame]
      exact hclock (by simp [hm])
    refine ⟨.cons ⟨rfl, rfl, fun hr => (hwritten hr).1⟩ hrest'.report, ?_, ?_, ?_⟩
    · refine (hchange.mono (fun q hq => ⟨k, by simp, hq⟩) fun p hp => ⟨k, by simp, hp⟩).trans ?_
      exact hrest'.changed.mono (fun q ⟨k', hk', hq⟩ => ⟨k', by simp [hk'], hq⟩)
        fun p ⟨k', hk', hp⟩ => ⟨k', by simp [hk'], hp⟩
    · intro k' hk' hroutes
      rcases List.mem_cons.1 hk' with rfl | hk'
      · exact lookup_of_others hsnake hstamp hfresh hrest'.changed (hwritten hroutes).2
      · exact hrest'.written k' hk' hroutes
    · intro hm
      rw [List.mem_cons, not_or] at hm
      rw [hrest'.clock hm.2, hclock', hend.clock (Ne.symm hm.1), hclockSame]

/-! ### Whole dispatches -/

/-- How a dispatch of the chosen generators may end. -/
structure DispatchEnd (r : Request) (stamp : String) (kinds : List ArtifactKind) (w : Workspace)
    (result : Except Failure Report) (w' : Workspace) : Prop where
  distinct : (kinds.map fun k => k.outputPath stamp r).Nodup
  /-- Every file lies strictly below the root, by names that lead downward. -/
  below : ∀ k ∈ kinds, ∃ names, names ≠ [] ∧ (∀ name ∈ names, Path.IsName name) ∧
    k.outputPath stamp r = (Path.ofText r.root).under names
  /-- One file is reported for every kind, in their order. -/
  reported : ∀ report, result = .ok report → List.Forall₂ (fun (k : ArtifactKind) (f : ProducedFile) =>
    f.choice = k.choice ∧ f.path = (k.outputPath stamp r).text ∧
      (k ≠ .routes → f.size = (k.render stamp r).toUTF8.size)) kinds report
  /-- What a reported file holds. -/
  written : ∀ report, result = .ok report → ∀ k ∈ kinds, k ≠ .routes →
    w'.tree.lookup (k.outputPath stamp r) = .ok (.file (k.render stamp r).toUTF8)
  /-- No other file has changed. -/
  unchanged : ∀ report, result = .ok report → ∀ l, w'.tree.file? l ≠ w.tree.file? l →
    ∃ k ∈ kinds, w.tree.resolve (k.outputPath stamp r) = l
  directories : ∀ report, result = .ok report → ∀ l, w'.tree.node? l = some .directory →
    w.tree.node? l ≠ some .directory → ∃ k ∈ kinds, ∃ q, q.IsAbove (k.outputPath stamp r) ∧ w.tree.resolve q = l
  /-- A dispatch that fails has stopped at one generator; the files of those before it are there, and no other file
  has changed. -/
  stopped : ∀ e, result = .error e → ∃ done k rest report w₁, kinds = done ++ k :: rest ∧
    Completes r done w report w₁ ∧ outcome (Command.timed k (k.generator r)) w₁ = (.error e, w') ∧
    (∀ k ∈ done, w'.tree.lookup (k.outputPath stamp r) = .ok (.file (k.render stamp r).toUTF8)) ∧
    ∀ l, (∀ k ∈ done, w.tree.resolve (k.outputPath stamp r) ≠ l) → w'.tree.file? l = w.tree.file? l

/-- What a failing generator leaves of the files of those before it. -/
private theorem Completed.stopped {stamp : String} {done : List ArtifactKind} {k : ArtifactKind} {w₁ : Workspace}
    {report : Report} {e : Failure} (h : Completed r stamp done w report w₁)
    (hclock : k = .migration → w₁.clock.next.stamp = stamp)
    (hfail : outcome (Command.timed k (k.generator r)) w₁ = (.error e, w')) :
    (∀ k ∈ done, k ≠ .routes →
      w'.tree.lookup (k.outputPath stamp r) = .ok (.file (k.render stamp r).toUTF8)) ∧
    ∀ l, (∀ k ∈ done, w.tree.resolve (k.outputPath stamp r) ≠ l) → w'.tree.file? l = w.tree.file? l := by
  obtain ⟨v, v', htree, hclockSame, hgen, htree', -⟩ := Command.outcome_timed_cases hfail
  have hend := ArtifactKind.generator_end (hclockSame ▸ hclock) hgen
  have hchange := hend.failed _ rfl
  rw [htree, ← htree'] at hchange
  constructor
  · intro k' hk' hroutes
    exact hchange.lookup (h.written k' hk' hroutes) fun _ => False.elim
  · intro l hl
    rw [hchange.file fun _ => False.elim]
    refine h.changed.file ?_
    rintro p ⟨k', hk', rfl⟩
    exact hl k' hk'

theorem chosenKinds_standard {c : Command} (hstandard : c.registry = .standard) (r : Request) :
    c.chosenKinds r = Registry.dispatchOrder.filter (fun k => r.isChosen k.choice) ∧
      c.registry.generators.filter (fun e => r.isChosen e.1.choice) =
        (c.chosenKinds r).map fun k => (k, k.generator) := by
  have hkinds : c.registry.kinds = Registry.dispatchOrder := by
    rw [hstandard]
    decide
  constructor
  · rw [Command.chosenKinds, hkinds]
  · rw [Command.chosenKinds, hkinds, hstandard, Registry.standard, List.filter_map]
    rfl

/-- A dispatch with the standard generators of a request that passed the checks ends in one of the ways above. -/
theorem dispatch_end {c : Command} {a : Arguments} {result : Except Failure Report}
    (hstandard : c.registry = .standard) (hr : c.request a = .ok r)
    (h : outcome (c.dispatch r) w = (result, w')) :
    DispatchEnd r w.clock.next.stamp (c.chosenKinds r) w result w' := by
  have hsnake := snake_ne_empty (Command.model_of_request hr)
  have hstamp := ArtifactKind.isModuleName_stamp w.clock.next
  obtain ⟨horder, hgenerators⟩ := chosenKinds_standard hstandard r
  have hnodup : (c.chosenKinds r).Nodup := by
    rw [horder]
    exact List.Pairwise.filter _ (by decide)
  -- the file of all routes is written last
  have hlast : (c.chosenKinds r).Pairwise fun k _ => k ≠ .routes := by
    rw [horder]
    exact List.Pairwise.filter _ (by decide)
  have hdistinct : ((c.chosenKinds r).map fun k => k.outputPath w.clock.next.stamp r).Nodup := by
    refine List.pairwise_map.2 (hnodup.imp fun hne heq => hne ?_)
    exact ArtifactKind.resolve_injective hsnake hstamp (congrArg w.tree.resolve heq)
  have hbelow : ∀ k ∈ c.chosenKinds r, ∃ names, names ≠ [] ∧ (∀ name ∈ names, Path.IsName name) ∧
      k.outputPath w.clock.next.stamp r = (Path.ofText r.root).under names := by
    intro k _
    obtain ⟨hpath, hnames⟩ := ArtifactKind.outputPath_eq_under hsnake hstamp k
    exact ⟨_, ArtifactKind.names_ne_nil _ _ _, hnames, hpath⟩
  unfold Command.dispatch at h
  rw [hgenerators] at h
  rcases hrun : outcome (Command.runAll r ((c.chosenKinds r).map fun k => (k, k.generator))) w with ⟨e | report, w₁⟩
  · rw [outcome_bind_of_error hrun] at h
    obtain ⟨rfl, rfl⟩ := Prod.mk.inj h
    refine ⟨hdistinct, hbelow, fun _ => nofun, fun _ => nofun, fun _ => nofun, fun _ => nofun, ?_⟩
    intro e' he
    obtain rfl := Except.error.inj he
    rcases Command.outcome_runAll_cases hrun with
      ⟨_, hok, -⟩ | ⟨e', done, k, rest, report, w₂, he, hkinds, hdone, hfail⟩
    · cases hok
    obtain rfl := Except.error.inj he
    rw [hkinds] at hnodup hlast
    have hdoneNodup := (List.nodup_append.1 hnodup).1
    have hcompleted := hdone.completed hsnake hstamp hdoneNodup fun _ => rfl
    have hclock : k = .migration → w₂.clock.next.stamp = w.clock.next.stamp := by
      rintro rfl
      rw [hcompleted.clock fun hm => (List.nodup_append.1 hnodup).2.2 _ hm _ (by simp) rfl]
    obtain ⟨hwritten, hunchanged⟩ := hcompleted.stopped hclock hfail
    refine ⟨done, k, rest, report, w₂, hkinds, hdone, hfail, fun k' hk' => hwritten k' hk' ?_, hunchanged⟩
    exact (List.pairwise_append.1 hlast).2.2 k' hk' k (by simp)
  · rw [outcome_bind_of_ok hrun, outcome_bind_of_ok (Task.outcome_note ..)] at h
    obtain ⟨rfl, rfl⟩ := Prod.mk.inj h
    rcases Command.outcome_runAll_cases hrun with ⟨report', hok, hdone⟩ | ⟨_, _, _, _, _, _, he, -⟩
    · obtain rfl := Except.ok.inj hok
      have hcompleted := hdone.completed hsnake hstamp hnodup fun _ => rfl
      refine ⟨hdistinct, hbelow, ?_, fun _ _ => hcompleted.written, fun _ _ l hl => ?_, fun _ _ l hl hnew => ?_,
        fun _ => nofun⟩
      · intro _ he
        exact Except.ok.inj he ▸ hcompleted.report
      · by_contra hnone
        refine hl (hcompleted.changed.file ?_)
        rintro p ⟨k, hk, rfl⟩ heq
        exact hnone ⟨k, hk, heq⟩
      · obtain ⟨-, q, ⟨k, hk, hq⟩, heq⟩ := hcompleted.changed.new_directory hl hnew
        exact ⟨k, hk, q, hq, heq⟩
    · cases he

/-- All files of a model with one field, in an empty directory. -/
theorem dispatch_end_of_all :
    let c : Command := ⟨.fallback, .standard, reservedWords⟩
    let a : Arguments := ⟨"Post", some "title:string", [("all", true)], none, .absent, .absent⟩
    let w : Workspace := ⟨⟨["home"], []⟩, ⟨⟨⟨2024, 1, 2⟩, 3, 4, 5, 6⟩, []⟩, ⟨0, []⟩, []⟩
    ∃ r, c.request a = .ok r ∧ DispatchEnd r w.clock.next.stamp (c.chosenKinds r) w
      (outcome (c.dispatch r) w).1 (outcome (c.dispatch r) w).2 := by
  intro c a w
  have hok : (c.request a).isOk = true := by decide +kernel
  cases hr : c.request a with
  | error e =>
    rw [hr] at hok
    cases hok
  | ok r => exact ⟨r, rfl, dispatch_end rfl hr rfl⟩

end CrudScaffold
