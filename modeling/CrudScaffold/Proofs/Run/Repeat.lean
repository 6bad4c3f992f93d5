import CrudScaffold.Proofs.Artifact.Registration
import CrudScaffold.Proofs.Run.Success
import CrudScaffold.Proofs.Storage.Sequence

/-!
# The same run again

A generator that has succeeded leaves its kind settled: the file holds what the generator would write, or the routes
file has the controller's line (`settled_of_timed`).  A settled kind stays settled when generators of other kinds
run, and its own generator then succeeds once more, with the same report, and changes nothing (`Settled.again`).  So
a run of the command that is repeated at the same moment leaves all files as they are and prints the same
(`Command.handle_again`).
-/

namespace CrudScaffold

open FileTree (SameAs Writes)
open ArtifactKind (IsStamp routes)

variable {k k' : ArtifactKind} {kinds : List ArtifactKind} {r : Request} {stamp : String} {t t' : FileTree}
  {w w' : Workspace} {files : List ProducedFile} {f : ProducedFile} {report : Report} {content : ByteArray}

/-! ### Settled kinds -/

/-- The generator of a kind has nothing more to change, and would report the given file. -/
inductive Settled (r : Request) (stamp : String) (t : FileTree) : ArtifactKind → ProducedFile → Prop
  | rendered {k : ArtifactKind} (hk : k ≠ .routes) (hadmits : t.Admits (k.outputPath stamp r))
      (hholds : t.lookup (k.outputPath stamp r) = .ok (.file (k.render stamp r).toUTF8)) :
      Settled r stamp t k (k.produced stamp r)
  | registered {before : String} (hbefore : t.lookup (routes.outputPath "" r) = .ok (.file before.toUTF8))
      (hregistered : r.registered? (Text.translated before) = none) :
      Settled r stamp t .routes ⟨.routes, (routes.outputPath "" r).text, (Text.translated before).utf8ByteSize⟩

theorem Settled.sameAs (h : Settled r stamp t k f) (hsame : SameAs t t') : Settled r stamp t' k f := by
  cases h with
  | rendered hk hadmits hholds =>
    exact .rendered hk (hsame.admits_iff.2 hadmits) (by rw [hsame.lookup, hholds])
  | registered hbefore hregistered => exact .registered (by rw [hsame.lookup, hbefore]) hregistered

/-- Writing the file of another kind leaves a settled kind settled. -/
theorem Settled.of_writes (hstamp : IsStamp stamp) (h : Settled r stamp t k f) (hne : k' ≠ k)
    (hwrites : Writes (k'.outputPath stamp r) content t t') : Settled r stamp t' k f := by
  have hbelow (k : ArtifactKind) := ArtifactKind.isModuleBelow_outputPath hstamp k r
  have hapart : ∀ p, p = k'.outputPath stamp r → t.resolve p ≠ t.resolve (k.outputPath stamp r) := by
    rintro p rfl hplace
    exact hne (ArtifactKind.same_of_resolve rfl hstamp hstamp hplace).1
  cases h with
  | rendered hk hadmits hholds =>
    exact .rendered hk (((hbelow k').admits_iff (hbelow k) hwrites).2 hadmits) (hwrites.changed.lookup hholds hapart)
  | registered hbefore hregistered => exact .registered (hwrites.changed.lookup hbefore hapart) hregistered

/-- A registration that succeeds leaves the routes settled. -/
private theorem settled_of_register (stamp : String) (h : outcome (ArtifactKind.register r) w = (.ok files, w')) :
    ∃ f, files = [f] ∧ Settled r stamp w'.tree .routes f := by
  obtain ⟨-, before, hbefore, ⟨hnone, htree, rfl⟩ | ⟨content, hcontent, hwrites, rfl⟩⟩ :=
    ArtifactKind.register_cases h
  · refine ⟨_, rfl, .registered ?_ hnone⟩
    rw [htree]
    cases hbefore with
    | missing =>
      -- nothing is registered in an empty text
      rw [show Text.translated "" = "" from rfl, Request.registered?_empty] at hnone
      cases hnone
    | there hlookup => exact hlookup
  · rw [Request.registered?_eq] at hcontent
    split at hcontent
    · cases hcontent
    · have hcontent := Option.some.inj hcontent
      have hreturn : '\r' ∉ content.toList := by
        rw [← hcontent, String.toList_append, List.mem_append, not_or]
        exact ⟨Text.not_mem_translated before, Request.not_mem_added⟩
      have hsame := Text.translated_of_not_mem hreturn
      have hnone : r.registered? (Text.translated content) = none := by
        rw [hsame, ← hcontent]
        exact Request.registered?_append_added
      have hsettled := @Settled.registered r stamp w'.tree content hwrites.holds hnone
      rw [hsame] at hsettled
      exact ⟨_, rfl, hsettled⟩

/-- What one generator does to the tree, and that its kind is settled then. -/
private theorem settled_of_generator (hstamp : IsStamp stamp) (hclock : k = .migration → w.clock.next.stamp = stamp)
    (h : outcome (k.generator r) w = (.ok files, w')) :
    (k ≠ .migration → w'.clock = w.clock) ∧
      (w'.tree = w.tree ∨ ∃ content, Writes (k.outputPath stamp r) content w.tree w'.tree) ∧
      ∃ f, files = [f] ∧ Settled r stamp w'.tree k f := by
  unfold ArtifactKind.generator at h
  by_cases hk : k = .routes
  · subst hk
    rw [if_pos rfl] at h
    obtain ⟨hclock', before, -, hcases⟩ := ArtifactKind.register_cases h
    refine ⟨fun _ => hclock', ?_, settled_of_register stamp h⟩
    rcases hcases with ⟨-, htree, -⟩ | ⟨content, -, hwrites, -⟩
    · exact Or.inl htree
    · exact Or.inr ⟨_, hwrites⟩
  · rw [if_neg hk] at h
    obtain ⟨hwrites, rfl, hclock'⟩ := ArtifactKind.produce_writes hk hclock h
    have hadmits := ((ArtifactKind.isModuleBelow_outputPath hstamp k r).admits_iff
      (ArtifactKind.isModuleBelow_outputPath hstamp k r) hwrites).2 hwrites.admits
    exact ⟨hclock', Or.inr ⟨_, hwrites⟩, _, rfl, .rendered hk hadmits hwrites.holds⟩

theorem settled_of_timed (hstamp : IsStamp stamp) (hclock : k = .migration → w.clock.next.stamp = stamp)
    (h : outcome (Command.timed k (k.generator r)) w = (.ok files, w')) :
    (k ≠ .migration → w'.clock = w.clock) ∧
      (w'.tree = w.tree ∨ ∃ content, Writes (k.outputPath stamp r) content w.tree w'.tree) ∧
      ∃ f, files = [f] ∧ Settled r stamp w'.tree k f := by
  obtain ⟨v, v', htree, hclockSame, hrun, htree', hclock'⟩ := Command.outcome_timed_cases h
  rw [← hclockSame] at hclock
  rw [htree', hclock', ← htree, ← hclockSame]
  exact settled_of_generator hstamp hclock hrun

/-- The generator of a settled kind succeeds and changes nothing. -/
private theorem Settled.again_untimed (h : Settled r stamp w.tree k f)
    (hclock : k = .migration → w.clock.next.stamp = stamp) :
    ∃ w', outcome (k.generator r) w = (.ok [f], w') ∧ SameAs w.tree w'.tree ∧
      (k ≠ .migration → w'.clock = w.clock) := by
  unfold ArtifactKind.generator
  cases h with
  | rendered hk hadmits hholds =>
    rw [if_neg hk]
    obtain ⟨files, w', hrun⟩ := (ArtifactKind.produce_succeeds_iff hclock).2 hadmits
    obtain ⟨hwrites, rfl, hclock'⟩ := ArtifactKind.produce_writes hk hclock hrun
    exact ⟨w', hrun, hwrites.sameAs hholds, hclock'⟩
  | @registered before hbefore hregistered =>
    rw [if_pos rfl]
    have hthere : w.tree.HasText (routes.outputPath "" r) before := .there hbefore
    obtain ⟨files, w', hrun⟩ := ArtifactKind.register_succeeds_iff.2 ⟨before, hthere, Or.inl hregistered⟩
    obtain ⟨hclock', found, hfound, hcases⟩ := ArtifactKind.register_cases hrun
    obtain rfl := hfound.unique hthere
    rcases hcases with ⟨-, htree, rfl⟩ | ⟨content, hcontent, -⟩
    · refine ⟨w', hrun, ?_, fun _ => hclock'⟩
      rw [htree]
      exact .refl _
    · rw [hregistered] at hcontent
      cases hcontent

theorem Settled.again (h : Settled r stamp w.tree k f)
    (hclock : k = .migration → w.clock.next.stamp = stamp) :
    ∃ w', outcome (Command.timed k (k.generator r)) w = (.ok [f], w') ∧ SameAs w.tree w'.tree ∧
      (k ≠ .migration → w'.clock = w.clock) := by
  obtain ⟨v, w', hbefore, htimed, hafter⟩ := Command.outcome_timed k (k.generator r) w
  rw [← hbefore.tree] at h
  rw [← hbefore.clock] at hclock
  obtain ⟨v', hrun, hsame, hkept⟩ := h.again_untimed hclock
  rw [hrun] at htimed hafter
  rw [← hbefore.tree, ← hbefore.clock]
  exact ⟨w', htimed, by rwa [hafter.tree], by rwa [hafter.clock]⟩

/-! ### Runs of generators -/

/-- A settled kind stays settled while generators of other kinds run. -/
private theorem Completes.keeps_settled (hstamp : IsStamp stamp) (h : Completes r kinds w report w')
    (hnodup : kinds.Nodup) (hclock : .migration ∈ kinds → w.clock.next.stamp = stamp) (hk : k ∉ kinds)
    (hsettled : Settled r stamp w.tree k f) : Settled r stamp w'.tree k f := by
  induction h with
  | nil w => exact hsettled
  | @cons k' kinds w w₁ w₂ files report hfirst _ ih =>
    obtain ⟨hfresh, hnodup⟩ := List.nodup_cons.1 hnodup
    rw [List.mem_cons, not_or] at hk
    obtain ⟨hkept, hchange, -⟩ := settled_of_timed hstamp (fun hm => hclock (by simp [hm])) hfirst
    refine ih hnodup (Command.stamp_of_kept hfresh hkept hclock) hk.2 ?_
    rcases hchange with hsame | ⟨content, hwrites⟩
    · rwa [hsame]
    · exact hsettled.of_writes hstamp (Ne.symm hk.1) hwrites

/-- When generators have succeeded one after the other, all their kinds are settled. -/
theorem Completes.settled (hstamp : IsStamp stamp) (h : Completes r kinds w report w') (hnodup : kinds.Nodup)
    (hclock : .migration ∈ kinds → w.clock.next.stamp = stamp) :
    List.Forall₂ (Settled r stamp w'.tree) kinds report := by
  induction h with
  | nil w => exact .nil
  | @cons k kinds w w₁ w₂ files report hfirst hrest ih =>
    obtain ⟨hfresh, hnodup⟩ := List.nodup_cons.1 hnodup
    obtain ⟨hkept, -, f, rfl, hsettled⟩ := settled_of_timed hstamp (fun hm => hclock (by simp [hm])) hfirst
    have hnext : .migration ∈ kinds → w₁.clock.next.stamp = stamp := Command.stamp_of_kept hfresh hkept hclock
    exact .cons (hrest.keeps_settled hstamp hnodup hnext hfresh hsettled) (ih hnodup hnext)

/-- The generators of settled kinds succeed one after the other, and change nothing. -/
theorem completes_of_settled (h : List.Forall₂ (Settled r stamp w.tree) kinds report)
    (hnodup : kinds.Nodup) (hclock : .migration ∈ kinds → w.clock.next.stamp = stamp) :
    ∃ w', Completes r kinds w report w' ∧ SameAs w.tree w'.tree := by
  induction kinds generalizing report w with
  | nil =>
    cases h
    exact ⟨w, .nil w, .refl _⟩
  | cons k kinds ih =>
    cases h with
    | @cons _ f _ report hsettled hrest =>
      obtain ⟨hfresh, hnodup⟩ := List.nodup_cons.1 hnodup
      obtain ⟨w₁, hrun, hsame, hkept⟩ := hsettled.again fun hm => hclock (by simp [hm])
      have hrest' : List.Forall₂ (Settled r stamp w₁.tree) kinds report := hrest.imp fun _ _ hs => hs.sameAs hsame
      obtain ⟨w', hdone, hlast⟩ := ih hrest' hnodup (Command.stamp_of_kept hfresh hkept hclock)
      exact ⟨w', .cons hrun hdone, hsame.trans hlast⟩

/-! ### The standard output -/

/-- Nothing has been said on the standard output. -/
def Workspace.Silent (w w' : Workspace) : Prop := Output.standard w'.output = Output.standard w.output

section Silence

open Workspace (Silent)

variable {α : Type} {p : Path}

private theorem silent_refl (w : Workspace) : w.Silent w := rfl

private theorem silent_trans (w₁ w₂ w₃ : Workspace) (h : w₁.Silent w₂) (h' : w₂.Silent w₃) : w₁.Silent w₃ :=
  Eq.trans h' h

private theorem silent_pure (a : α) : Leaves Silent (pure a : Task α) := .pure silent_refl a

private theorem silent_note (level : Level) (origin text : String) : Leaves Silent (Task.note level origin text) := by
  intro w
  rw [Task.outcome_note]
  exact (Output.standard_append _ _).trans (String.append_empty)

private theorem silent_onFiles (operation : Storage α) : Leaves Silent (Task.onFiles operation) := by
  intro w
  rw [Task.outcome_onFiles]
  rfl

private theorem silent_bind {β : Type} {task : Task α} {next : α → Task β} (h : Leaves Silent task)
    (hnext : ∀ a, Leaves Silent (next a)) : Leaves Silent (task >>= next) := .bind h hnext silent_trans

private theorem silent_orProblem {describe : FileError → Problem} {task : Task α} (h : Leaves Silent task) :
    Leaves Silent (Task.orProblem describe task) := by
  refine Leaves.tryCatch h (fun e => ?_) silent_trans
  cases e <;> exact .throw silent_refl _

private theorem silent_write (k : ArtifactKind) (text : String) : Leaves Silent (k.write p text) := by
  refine silent_orProblem ?_
  unfold Task.writeText
  refine silent_bind (silent_onFiles _) fun _ => silent_bind (silent_note _ _ _) fun _ => ?_
  exact silent_bind (silent_onFiles _) fun _ => silent_bind (silent_note _ _ _) fun _ => silent_pure _

private theorem silent_produce (k : ArtifactKind) (r : Request) : Leaves Silent (k.produce r) := by
  have hstamp : Leaves Silent k.stamp := by
    intro w
    rw [ArtifactKind.outcome_stamp]
    split <;> rfl
  have hnote (text : String) : Leaves Silent (k.noteRendered r text) := by
    unfold ArtifactKind.noteRendered
    split
    · exact silent_note _ _ _
    · exact silent_pure _
  rw [ArtifactKind.produce_eq]
  refine silent_bind hstamp fun _ => ?_
  unfold ArtifactKind.publish
  refine silent_bind (hnote _) fun _ => ?_
  exact silent_bind (silent_write _ _) fun _ => silent_bind (silent_note _ _ _) fun _ => silent_pure _

private theorem silent_register (r : Request) : Leaves Silent (ArtifactKind.register r) := by
  have hread : Leaves Silent (routes.readExisting (routes.outputPath "" r)) := by
    intro w
    rcases hrun : outcome (routes.readExisting (routes.outputPath "" r)) w with ⟨result, w'⟩
    obtain ⟨rfl, -⟩ := ArtifactKind.outcome_readExisting_cases hrun
    rfl
  unfold ArtifactKind.register
  refine silent_bind hread fun existing => ?_
  cases r.registered? existing with
  | none => exact silent_bind (silent_note _ _ _) fun _ => silent_pure _
  | some content =>
    exact silent_bind (silent_write _ _) fun _ => silent_bind (silent_note _ _ _) fun _ => silent_pure _

theorem silent_generator (k : ArtifactKind) (r : Request) : Leaves Silent (k.generator r) := by
  unfold ArtifactKind.generator
  split
  · exact silent_register r
  · exact silent_produce k r

/-- Runs of the standard generators say nothing on the standard output. -/
theorem Completes.silent (h : Completes r kinds w report w') : w.Silent w' := by
  induction h with
  | nil w => rfl
  | @cons k kinds w w₁ w₂ files report hfirst _ ih =>
    obtain ⟨v, v', hbefore, htimed, hafter⟩ := Command.outcome_timed k (k.generator r) w
    rw [hfirst] at htimed
    obtain ⟨-, rfl⟩ := Prod.mk.inj htimed
    have hrun : v.Silent (outcome (k.generator r) v).2 := silent_generator k r v
    have hfirst : w.Silent _ := hafter.standard.trans (Eq.trans hrun hbefore.standard)
    exact silent_trans _ _ _ hfirst ih

end Silence

namespace Command

variable {c : Command} {a : Arguments} {v : Workspace} {status : Int}

/-! ### Whole runs -/

/-- A dispatch that has succeeded succeeds again at the same moment, with the same report and the same files. -/
theorem dispatch_again (hstandard : c.registry = .standard) (h : outcome (c.dispatch r) w = (.ok report, w'))
    (htree : v.tree = w'.tree) (hclock : v.clock.next = w.clock.next) :
    w.Silent w' ∧ ∃ v', outcome (c.dispatch r) v = (.ok report, v') ∧ SameAs w'.tree v'.tree ∧ v.Silent v' := by
  have hstamp := ArtifactKind.isStamp_stamp w.clock.next
  have hnodup := nodup_chosenKinds hstandard r
  have hsaid {u : Workspace} (note : Note) : u.Silent { u with output := u.output ++ [.note note] } :=
    (Output.standard_append _ _).trans String.append_empty
  obtain ⟨last, hdone, rfl⟩ := (dispatch_eq_ok_iff hstandard).1 h
  have hsettled := hdone.settled hstamp hnodup fun _ => rfl
  have hagain : List.Forall₂ (Settled r w.clock.next.stamp v.tree) (c.chosenKinds r) report := by rwa [htree]
  obtain ⟨last', hdone', hsame⟩ := completes_of_settled hagain hnodup fun _ => by rw [hclock]
  rw [htree] at hsame
  refine ⟨Eq.trans (hsaid _) hdone.silent, _, (dispatch_eq_ok_iff hstandard).2 ⟨last', hdone', rfl⟩, hsame, ?_⟩
  exact Eq.trans (hsaid _) hdone'.silent

/-- The workspace once the notes on the arguments have been said. -/
def announced (c : Command) (a : Arguments) (w : Workspace) : Workspace :=
  { w with output := w.output ++ (c.notes a).map .note }

private theorem standard_announced (c : Command) (a : Arguments) (w : Workspace) :
    Output.standard (c.announced a w).output = Output.standard w.output := by
  rw [announced, Output.standard_append, Output.standard_notes, String.append_empty]

/-- What is said when the arguments are refused. -/
private theorem outcome_refusal (p : Problem) (w : Workspace) : ∃ w',
    outcome (do
        Task.note .debug "crudgen.command" ("Validation failed: " ++ p.message)
        Task.say (.complaint p.message)
        return p.status : Task Int) w = (.ok p.status, w') ∧ w'.tree = w.tree ∧ w.Silent w' := by
  refine ⟨_, rfl, rfl, ?_⟩
  change Output.standard ((w.output ++ [_]) ++ [_]) = Output.standard w.output
  rw [Output.standard_append, Output.standard_append, String.append_assoc]
  exact String.append_empty

/-- Running the command again at the same moment, on the files that it left, changes no file and adds none. It ends
with the same status, prints the same and reports the same paths and sizes. -/
theorem handle_again (hstandard : c.registry = .standard) (h : outcome (c.handle a) w = (.ok status, w'))
    (htree : v.tree = w'.tree) (hclock : v.clock.next = w.clock.next) :
    ∃ v', outcome (c.handle a) v = (.ok status, v') ∧ SameAs w'.tree v'.tree ∧
      (∃ shown, Output.standard w'.output = Output.standard w.output ++ shown ∧
        Output.standard v'.output = Output.standard v.output ++ shown) ∧
      ∀ r, c.request a = .ok r → ∃ report, (outcome (c.dispatch r) (c.announced a w)).1 = .ok report ∧
        (outcome (c.dispatch r) (c.announced a v)).1 = .ok report := by
  have hnotes (u : Workspace) :
      outcome ((c.notes a).forM fun n => Task.say (.note n)) u = (.ok ⟨⟩, c.announced a u) :=
    Task.outcome_sayNotes _ u
  unfold handle at h ⊢
  rw [outcome_bind_of_ok (hnotes w)] at h
  rw [outcome_bind_of_ok (hnotes v)]
  cases hr : c.request a with
  | ok r =>
    simp only [hr] at h ⊢
    obtain ⟨report, last, hrun, hrest⟩ := outcome_bind_eq_ok_iff.1 h
    rw [outcome_bind_of_ok (outcome_printReport ..)] at hrest
    obtain ⟨hstatus, rfl⟩ := Prod.mk.inj hrest
    obtain rfl := Except.ok.inj hstatus
    have htree' : (c.announced a v).tree = last.tree := htree
    obtain ⟨hsilent, last', hrun', hsame, hsilent'⟩ := dispatch_again hstandard hrun htree' hclock
    refine ⟨{ last' with output := last'.output ++ (reportLines r report).map .line }, ?_, hsame, ?_, ?_⟩
    · rw [outcome_bind_of_ok hrun', outcome_bind_of_ok (outcome_printReport ..)]
      rfl
    · refine ⟨String.join ((reportLines r report).map (· ++ "\n")), ?_, ?_⟩
      · rw [Output.standard_append, Output.standard_lines, hsilent, standard_announced]
      · rw [Output.standard_append, Output.standard_lines, hsilent', standard_announced]
    · intro _ hr'
      obtain rfl := Except.ok.inj hr'
      exact ⟨report, by rw [hrun], by rw [hrun']⟩
  | error e =>
    -- the arguments are refused as before, without a look at the files
    simp only [hr] at h ⊢
    cases e with
    | problem p =>
      by_cases hinput : p.isInput = true
      · simp only [hinput, if_true] at h ⊢
        obtain ⟨last, hrefused, hlast, hsilent⟩ := outcome_refusal p (c.announced a w)
        obtain ⟨last', hrefused', hlast', hsilent'⟩ := outcome_refusal p (c.announced a v)
        rw [hrefused] at h
        obtain ⟨hstatus, rfl⟩ := Prod.mk.inj h
        obtain rfl := Except.ok.inj hstatus
        have hsame : last'.tree = last.tree := hlast'.trans htree
        refine ⟨last', hrefused', ⟨congrArg FileTree.home hsame, fun l => by rw [hsame]⟩, ⟨"", ?_, ?_⟩, fun _ => nofun⟩
        · rw [hsilent, standard_announced, String.append_empty]
        · rw [hsilent', standard_announced, String.append_empty]
      · simp only [hinput] at h
        cases h
    | _ => cases h

/-- The routes of one model in an empty directory, and the same once more. -/
theorem handle_again_of_routes :
    let c : Command := ⟨.fallback, .standard, reservedWords⟩
    let a : Arguments := ⟨"Post", none, [("routes", true)], none, .absent, .absent⟩
    let w : Workspace := ⟨⟨["home"], []⟩, ⟨⟨⟨2024, 1, 2⟩, 3, 4, 5, 6⟩, []⟩, ⟨0, []⟩, []⟩
    let w' := (outcome (c.handle a) w).2
    ∃ status v', outcome (c.handle a) { w' with clock := w.clock } = (.ok status, v') ∧ SameAs w'.tree v'.tree := by
  intro c a w w'
  have hok : (outcome (c.handle a) w).1.isOk = true := by decide +kernel
  obtain ⟨status, after, hrun⟩ := exists_outcome_of_isOk hok
  have hafter : w' = after := congrArg Prod.snd hrun
  rw [hafter]
  obtain ⟨v', hagain, hsame, -⟩ := @handle_again w after c a { after with clock := w.clock } status rfl hrun rfl rfl
  exact ⟨status, v', hagain, hsame⟩

end Command

end CrudScaffold
