import CrudScaffold.Proofs.Artifact.Registration
import CrudScaffold.Proofs.Artifact.Separate
import CrudScaffold.Proofs.Run.Success

/-!
# Revisions and the clock

A generator of migrations that is used again and again takes one reading of the clock for every run, whether the run
succeeds or fails.  The name of the file and the revision that the text declares are made from this reading, and a run
comes to what it would come to with a new generator (`run_after`).
-/

namespace CrudScaffold

open FileTree (ChangedAt Writes)

/-! ### Readings -/

namespace Readings

variable {α : Type}

/-- The reading that is taken after so many others. -/
def reading (c : Readings α) : Nat → α
  | 0 => c.next
  | i + 1 => c.rest.reading i

/-- The clock after so many readings. -/
def skip (c : Readings α) : Nat → Readings α
  | 0 => c
  | i + 1 => c.rest.skip i

theorem next_skip (c : Readings α) (i : Nat) : (c.skip i).next = c.reading i := by
  induction i generalizing c with
  | zero => rfl
  | succ i ih => exact ih c.rest

theorem skip_succ (c : Readings α) (i : Nat) : c.skip (i + 1) = (c.skip i).rest := by
  induction i generalizing c with
  | zero => rfl
  | succ i ih => exact ih c.rest

end Readings

/-! ### Tasks that only files matter to -/

namespace Task

variable {α β : Type}

/-- With the same files the task comes to the same, and it leaves the clock alone. -/
structure OfFiles (task : Task α) : Prop where
  clock : Leaves (fun w w' : Workspace => w'.clock = w.clock) task
  same : ∀ w v : Workspace, w.tree = v.tree →
    (outcome task w).1 = (outcome task v).1 ∧ (outcome task w).2.tree = (outcome task v).2.tree

namespace OfFiles

variable {task : Task α}

theorem pure (a : α) : OfFiles (pure a : Task α) := ⟨fun _ => rfl, fun _ _ h => ⟨rfl, h⟩⟩

theorem throw (e : Failure) : OfFiles (throw e : Task α) := ⟨fun _ => rfl, fun _ _ h => ⟨rfl, h⟩⟩

theorem note (level : Level) (origin text : String) : OfFiles (Task.note level origin text) :=
  ⟨fun _ => rfl, fun _ _ h => ⟨rfl, h⟩⟩

theorem onFiles (operation : Storage α) : OfFiles (Task.onFiles operation) := by
  constructor
  · intro w
    rw [outcome_onFiles]
  · intro w v h
    rw [outcome_onFiles, outcome_onFiles, h]
    exact ⟨rfl, rfl⟩

theorem bind {next : α → Task β} (h : OfFiles task) (hnext : ∀ a, OfFiles (next a)) : OfFiles (task >>= next) := by
  refine ⟨h.clock.bind (fun a => (hnext a).clock) fun _ _ _ hab hbc => hbc.trans hab, fun w v htree => ?_⟩
  have hsame := h.same w v htree
  rcases hw : outcome task w with ⟨e | a, w'⟩ <;> rcases hv : outcome task v with ⟨e' | a', v'⟩ <;>
    rw [hw, hv] at hsame <;> obtain ⟨hresult, htree'⟩ := hsame <;> cases hresult
  · rw [outcome_bind_of_error hw, outcome_bind_of_error hv]
    exact ⟨rfl, htree'⟩
  · rw [outcome_bind_of_ok hw, outcome_bind_of_ok hv]
    exact (hnext a).same w' v' htree'

theorem tryCatch {handle : Failure → Task α} (h : OfFiles task) (hhandle : ∀ e, OfFiles (handle e)) :
    OfFiles (tryCatch task handle) := by
  refine ⟨h.clock.tryCatch (fun e => (hhandle e).clock) fun _ _ _ hab hbc => hbc.trans hab, fun w v htree => ?_⟩
  have hsame := h.same w v htree
  rcases hw : outcome task w with ⟨e | a, w'⟩ <;> rcases hv : outcome task v with ⟨e' | a', v'⟩ <;>
    rw [hw, hv] at hsame <;> obtain ⟨hresult, htree'⟩ := hsame <;> cases hresult
  · rw [outcome_tryCatch_of_error hw, outcome_tryCatch_of_error hv]
    exact (hhandle e).same w' v' htree'
  · rw [outcome_tryCatch_of_ok hw, outcome_tryCatch_of_ok hv]
    exact ⟨rfl, htree'⟩

theorem orProblem (describe : FileError → Problem) (h : OfFiles task) : OfFiles (Task.orProblem describe task) := by
  refine tryCatch h fun e => ?_
  cases e <;> exact throw _

theorem writeText (p : Path) (text : String) (whole : Bool) : OfFiles (Task.writeText p text whole) := by
  unfold Task.writeText
  refine bind (onFiles _) fun _ => bind (note _ _ _) fun _ => ?_
  exact bind (onFiles _) fun _ => bind (note _ _ _) fun _ => pure _

theorem publish (k : ArtifactKind) (path : Path) (text : String) (r : Request) : OfFiles (k.publish path text r) := by
  have hrendered : OfFiles (k.noteRendered r text) := by
    unfold ArtifactKind.noteRendered
    split
    · exact note _ _ _
    · exact pure _
  unfold ArtifactKind.publish
  refine bind hrendered fun _ => bind (orProblem _ (writeText _ _ _)) fun _ => ?_
  exact bind (note _ _ _) fun _ => pure _

end OfFiles

end Task

/-! ### The revision in a text -/

namespace Text

/-- Lines that are joined are lines of the text, up to the first one that is broken. -/
theorem exists_lines_intercalate {front : List String} (h : ∀ line ∈ front, '\n' ∉ line.toList) (rest : List String) :
    ∃ others, lines ("\n".intercalate (front ++ rest)) = front ++ others := by
  induction front with
  | nil => exact ⟨_, rfl⟩
  | cons line front ih =>
    obtain ⟨hline, hfront⟩ := List.forall_mem_cons.1 h
    obtain ⟨others, hothers⟩ := ih hfront
    rw [List.cons_append]
    cases hnext : front ++ rest with
    | nil =>
      obtain rfl := (List.append_eq_nil_iff.1 hnext).1
      refine ⟨[], ?_⟩
      rw [String.intercalate_singleton, lines, splitOn_of_not_mem hline]
      simp
    | cons next later =>
      have htext : ("\n".intercalate (line :: next :: later)).toList =
          line.toList ++ '\n' :: ("\n".intercalate (next :: later)).toList := by
        rw [String.intercalate_cons_cons]
        simp
      refine ⟨others, ?_⟩
      rw [List.cons_append, ← hothers, hnext, lines, htext, splitOn_append_cons, splitOn_of_not_mem hline]
      simp [lines]

end Text

/-- What stands between the quotes in a line that assigns a revision. -/
def declaredIn? (line : String) : Option String :=
  if Text.startsWith "revision = \"" line then
    some (.ofList ((line.toList.drop "revision = \"".length).takeWhile (· ≠ '"')))
  else none

/-- The revision that a text declares. -/
def revision? (text : String) : Option String :=
  (Text.lines text).findSome? declaredIn?

theorem declaredIn?_of_front {front rest : String} (h : Text.startsWith front "revision = \"" = false)
    (h' : Text.startsWith "revision = \"" front = false) : declaredIn? (front ++ rest) = none := by
  refine if_neg fun hstart => ?_
  rw [Bool.eq_false_iff, Ne, Text.startsWith_iff] at h h'
  rw [Text.startsWith_iff, String.toList_append] at hstart
  exact (List.prefix_or_prefix_of_prefix hstart (List.prefix_append _ _)).elim h' h

theorem declaredIn?_quoted {revision : String} (h : '"' ∉ revision.toList) :
    declaredIn? ("revision = " ++ (Source.Expr.quoted revision).render) = some revision := by
  have hchars : ("revision = " ++ (Source.Expr.quoted revision).render).toList =
      "revision = \"".toList ++ (revision.toList ++ ['"']) := by
    simp [Source.Expr.render]
  have hstart : Text.startsWith "revision = \"" ("revision = " ++ (Source.Expr.quoted revision).render) = true := by
    rw [Text.startsWith_iff, hchars]
    exact List.prefix_append _ _
  rw [declaredIn?, if_pos hstart, hchars]
  change some (String.ofList ((List.drop "revision = \"".toList.length _).takeWhile _)) = _
  rw [List.drop_left, List.takeWhile_append_of_pos]
  · simp
  · exact fun c hc => decide_eq_true fun heq => h (heq ▸ hc)

namespace ArtifactKind

variable {stamp : String} {r : Request}

theorem isPlain_table (r : Request) : Naming.IsPlain r.table.toList := Naming.isPlain_plural (Naming.isPlain_snake r.model)

theorem isPlain_revision (hstamp : IsStamp stamp) : Naming.IsPlain (r.revision stamp).toList := by
  have hword : Naming.IsPlain "_create_".toList := Naming.isPlain_of_all (by decide)
  rw [Request.revision, String.toList_append, String.toList_append]
  exact (hstamp.isPlain.append hword).append (isPlain_table r)

/-- A migration is a file that is named by its revision. -/
theorem outputPath_migration (hstamp : IsStamp stamp) :
    migration.outputPath stamp r =
      (Path.ofText r.root).under ["migrations", "versions", r.revision stamp ++ "_table.py"] := by
  have hword {word : String} (h : (word.toList.all Text.isIdentChar && word != "") = true) : Path.IsName word := by
    rw [Bool.and_eq_true, bne_iff_ne] at h
    simpa using Artifact.isName_of_isModuleName (Artifact.isModuleName_word h.1 h.2) "" (by simp)
  have hfile : Path.IsName (r.revision stamp ++ "_table.py") := by
    have hbase : Naming.IsPlain (r.revision stamp ++ "_table").toList := by
      rw [String.toList_append]
      exact (isPlain_revision hstamp).append (Naming.isPlain_of_all (by decide))
    have := FileTree.isName_module hbase
    rwa [String.append_assoc] at this
  have hnames : migration.names stamp r = ["migrations", "versions", r.revision stamp ++ "_table.py"] := by
    change ["migrations", "versions", r.revision stamp ++ "_table" ++ ".py"] = _
    rw [String.append_assoc]
    rfl
  change (Path.ofText r.root).joinAll (migration.names stamp r) = _
  rw [hnames]
  refine Path.joinAll_of_isName fun name hname => ?_
  simp only [List.mem_cons, List.not_mem_nil, or_false] at hname
  rcases hname with rfl | rfl | rfl
  · exact hword (by decide)
  · exact hword (by decide)
  · exact hfile

/-- The first lines of a migration, up to the one that declares the revision. -/
private def opening (r : Request) : List String :=
  Source.headerLines ("Create the '" ++ r.table ++ "' table.") ++
    ["import sqlalchemy as sa", "from alembic import op", ""]

private theorem opening_line {P : String → Prop} (hsummary : P ("Create the '" ++ (r.table ++ "' table.")))
    (hfixed : ∀ line ∈ ["\"\"\"", "Generated by crudgen.", "", "import sqlalchemy as sa", "from alembic import op"],
      P line) : ∀ line ∈ opening r, P line := by
  intro line hline
  simp only [opening, Source.headerLines, List.cons_append, List.nil_append, List.mem_cons, List.not_mem_nil,
    or_false] at hline
  rcases hline with rfl | rfl | rfl | rfl | rfl | rfl | rfl | rfl
  · exact hfixed _ (by simp)
  · rwa [String.append_assoc]
  all_goals exact hfixed _ (by simp)

/-- A migration declares its revision. -/
theorem revision?_render_migration (hstamp : IsStamp stamp) :
    revision? (migration.render stamp r) = some (r.revision stamp) := by
  have hplain {c : Char} (hc : Text.isIdentChar c = false) : c ∉ (r.revision stamp).toList :=
    fun h => absurd (isPlain_revision hstamp c h) (by simp [hc])
  have htable : '\n' ∉ r.table.toList := fun h => absurd (isPlain_table r _ h) (by decide)
  let line := "revision = " ++ (Source.Expr.quoted (r.revision stamp)).render
  obtain ⟨rest, hrest⟩ : ∃ rest, (migration.artifact stamp r).source.lines = opening r ++ [line] ++ rest := ⟨_, rfl⟩
  have hunbroken : ∀ l ∈ opening r ++ [line], '\n' ∉ l.toList := by
    refine List.forall_mem_append.2 ⟨opening_line (by simp [htable]) (by decide), List.forall_mem_singleton.2 ?_⟩
    have hrevision := hplain (c := '\n') rfl
    simp [line, Source.Expr.render, hrevision]
  have hnone : (opening r).findSome? declaredIn? = none :=
    List.findSome?_eq_none_iff.2 (opening_line (declaredIn?_of_front (by decide) (by decide)) (by decide))
  obtain ⟨others, hlines⟩ := Text.exists_lines_intercalate hunbroken rest
  rw [revision?, render, Source.SourceFile.render, hrest, hlines, List.findSome?_append, List.findSome?_append, hnone]
  simp [line, declaredIn?_quoted (hplain rfl)]

end ArtifactKind

/-! ### Runs -/

namespace MigrationGenerator

open ArtifactKind (migration)

/-- A call of a generator: the files that it finds, and what is asked for. -/
structure Call where
  tree : FileTree
  request : Request

/-- What a run comes to, and the generator after it. -/
def ended (g : MigrationGenerator) (call : Call) : Except Failure (List ProducedFile) × MigrationGenerator :=
  outcome (run call.request) { g with workspace := { g.workspace with tree := call.tree } }

/-- The generator after a sequence of calls. Between them anything may happen to the files. -/
def after (g : MigrationGenerator) (calls : List Call) : MigrationGenerator :=
  calls.foldl (fun g call => (g.ended call).2) g

/-- What a run comes to with a new generator and a clock that shows nothing but one moment. -/
def alone (m : Moment) (call : Call) : Except Failure (List ProducedFile) × FileTree :=
  let fresh : MigrationGenerator := ⟨none, ⟨call.tree, ⟨m, []⟩, ⟨0, []⟩, []⟩⟩
  ((fresh.ended call).1, (fresh.ended call).2.workspace.tree)

/-- How a run ends that is named by a moment. -/
structure RunEnd (m : Moment) (call : Call) (result : Except Failure (List ProducedFile)) (t' : FileTree) : Prop where
  /-- The name of the file is the revision with an ending. -/
  path : migration.outputPath m.stamp call.request =
    (Path.ofText call.request.root).under ["migrations", "versions", call.request.revision m.stamp ++ "_table.py"]
  declared : revision? (migration.render m.stamp call.request) = some (call.request.revision m.stamp)
  succeeded : ∀ files, result = .ok files →
    Writes (migration.outputPath m.stamp call.request) (migration.render m.stamp call.request).toUTF8 call.tree t' ∧
      files = [migration.produced m.stamp call.request]
  /-- No file is changed. -/
  failed : ∀ e, result = .error e →
    ChangedAt (·.IsAbove (migration.outputPath m.stamp call.request)) (fun _ => False) call.tree t'
  /-- Nothing of what was before shows in what the run comes to. -/
  same : (result, t') = alone m call

variable {g : MigrationGenerator}

theorem outcome_run_eq (r : Request) (g : MigrationGenerator) :
    outcome (run r) g = Prod.map id (MigrationGenerator.mk none) (outcome (migration.produce r) g.workspace) := by
  have hproduce : migration.produce r = fresh (run r) := if_pos rfl
  rw [hproduce, outcome_fresh, outcome_run, outcome_run]
  dsimp only [Prod.map, id]

theorem ofFiles_publication (m : Moment) (r : Request) : Task.OfFiles (publication m r) := .publish _ _ _ _

/-- A run is the publication of one text, with the next reading of the clock. -/
theorem ended_eq (g : MigrationGenerator) (call : Call) :
    g.ended call = Prod.map id (MigrationGenerator.mk none) (outcome (publication g.workspace.clock.next call.request)
      ⟨call.tree, g.workspace.clock.rest, g.workspace.stopwatch, g.workspace.output⟩) := by
  rw [ended, outcome_run]

/-- A run takes one reading, and holds nothing afterwards. -/
theorem ended_keeps (g : MigrationGenerator) (call : Call) :
    (g.ended call).2.held = none ∧ (g.ended call).2.workspace.clock = g.workspace.clock.rest := by
  have hclock := (ofFiles_publication g.workspace.clock.next call.request).clock
    ⟨call.tree, g.workspace.clock.rest, g.workspace.stopwatch, g.workspace.output⟩
  rw [ended_eq]
  rcases hp : outcome (publication g.workspace.clock.next call.request) _ with ⟨result, w'⟩
  rw [hp] at hclock
  exact ⟨rfl, hclock⟩

/-- What a run comes to depends on one reading, the files and the request. -/
theorem ended_same (g : MigrationGenerator) (call : Call) :
    ((g.ended call).1, (g.ended call).2.workspace.tree) = alone g.workspace.clock.next call := by
  have hsame := (ofFiles_publication g.workspace.clock.next call.request).same
    ⟨call.tree, g.workspace.clock.rest, g.workspace.stopwatch, g.workspace.output⟩
    ⟨call.tree, Readings.rest ⟨g.workspace.clock.next, []⟩, ⟨0, []⟩, []⟩ rfl
  rw [alone, ended_eq, ended_eq]
  simp only [Prod.map_fst, Prod.map_snd, id]
  rw [hsame.1, hsame.2]

/-- A run is named by the reading that it takes. -/
theorem ended_end (g : MigrationGenerator) (call : Call) :
    RunEnd g.workspace.clock.next call (g.ended call).1 (g.ended call).2.workspace.tree := by
  have hstamp := ArtifactKind.isStamp_stamp g.workspace.clock.next
  have hsame := g.ended_same call
  rcases hproduce : outcome (migration.produce call.request) { g.workspace with tree := call.tree } with ⟨result, w'⟩
  have hended : g.ended call = (result, ⟨none, w'⟩) := by
    rw [ended, outcome_run_eq, hproduce]
    rfl
  rw [hended] at hsame ⊢
  have hgenerator : migration.generator = migration.produce := if_neg (by decide)
  have hend := ArtifactKind.generator_end (k := migration) (fun _ => rfl) (hgenerator ▸ hproduce)
  refine ⟨ArtifactKind.outputPath_migration hstamp, ArtifactKind.revision?_render_migration hstamp, fun files hfiles => ?_,
    hend.failed, hsame⟩
  obtain rfl : result = .ok files := hfiles
  obtain ⟨hwrites, hfile, -⟩ := ArtifactKind.produce_writes (k := migration) (by decide) (fun _ => rfl) hproduce
  exact ⟨hwrites, hfile⟩

/-- Every run takes one reading. -/
theorem clock_after (g : MigrationGenerator) (calls : List Call) :
    (g.after calls).workspace.clock = g.workspace.clock.skip calls.length := by
  induction calls generalizing g with
  | nil => rfl
  | cons call calls ih =>
    rw [after, List.foldl_cons, ← after, ih, (g.ended_keeps call).2, List.length_cons, Readings.skip]

/-- A run after any number of others, on one generator and whatever became of the files in between: as many readings
have been taken as there were runs, this run takes the next one and is named by it, and no stamp is held when it is
over, whether it succeeded or failed. -/
theorem run_after (g : MigrationGenerator) (earlier : List Call) (call : Call) :
    let ended := (g.after earlier).ended call
    (g.after earlier).workspace.clock = g.workspace.clock.skip earlier.length ∧
      ended.2.workspace.clock = g.workspace.clock.skip (earlier.length + 1) ∧ ended.2.held = none ∧
      RunEnd (g.workspace.clock.reading earlier.length) call ended.1 ended.2.workspace.tree := by
  have hclock := g.clock_after earlier
  obtain ⟨hheld, hrest⟩ := (g.after earlier).ended_keeps call
  have hend := (g.after earlier).ended_end call
  rw [hclock, Readings.next_skip] at hend
  rw [hclock, ← Readings.skip_succ] at hrest
  exact ⟨hclock, hrest, hheld, hend⟩

end MigrationGenerator

end CrudScaffold
