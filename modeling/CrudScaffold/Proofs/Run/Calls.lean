import CrudScaffold.Proofs.Run.Task
import CrudScaffold.Run.Command

/-!
# Which generators are called

A run of the command calls the generators of the kinds that were chosen, in the order of the registry, up to the
first one that fails.  What one call leaves is what the next one finds, but for notes (`runAll_end`); the two tables
are printed after the last call, and only if none has failed (`handle_end`).
-/

namespace CrudScaffold

/-! ### Notes -/

/-- Nothing has happened but that notes were said and the stopwatch was looked at. -/
structure Workspace.OnlyNotes (w w' : Workspace) : Prop where
  tree : w'.tree = w.tree
  clock : w'.clock = w.clock
  output : ∃ notes : List Note, w'.output = w.output ++ notes.map .note

namespace Workspace.OnlyNotes

variable {w w₁ w₂ : Workspace}

theorem refl (w : Workspace) : w.OnlyNotes w := ⟨rfl, rfl, [], by simp⟩

theorem trans (h : w.OnlyNotes w₁) (h' : w₁.OnlyNotes w₂) : w.OnlyNotes w₂ := by
  obtain ⟨notes, hnotes⟩ := h.output
  obtain ⟨notes', hnotes'⟩ := h'.output
  exact ⟨h'.tree.trans h.tree, h'.clock.trans h.clock, notes ++ notes', by simp [hnotes', hnotes]⟩

theorem standard (h : w.OnlyNotes w₁) : Output.standard w₁.output = Output.standard w.output := by
  obtain ⟨notes, hnotes⟩ := h.output
  rw [hnotes, Output.standard_append, Output.standard_notes, String.append_empty]

end Workspace.OnlyNotes

/-! ### Calls -/

/-- The call of a generator: what it found, how it ended and what it left. -/
structure Call where
  kind : ArtifactKind
  before : Workspace
  result : Except Failure (List ProducedFile)
  after : Workspace

/-- The generator has said nothing on the standard output. -/
def Call.IsSilent (call : Call) : Prop := Output.standard call.after.output = Output.standard call.before.output

/-- Calls that follow each other from one workspace to another. Before, between and after them only notes are
said. -/
inductive Follows : Workspace → List Call → Workspace → Prop
  | done {w w' : Workspace} (h : w.OnlyNotes w') : Follows w [] w'
  | next {w w' : Workspace} {call : Call} {calls : List Call} (h : w.OnlyNotes call.before)
      (hrest : Follows call.after calls w') : Follows w (call :: calls) w'

namespace Follows

variable {w w₁ w₂ : Workspace} {calls : List Call}

theorem after_notes (h : w.OnlyNotes w₁) (hcalls : Follows w₁ calls w₂) : Follows w calls w₂ := by
  cases hcalls with
  | done h' => exact .done (h.trans h')
  | next h' hrest => exact .next (h.trans h') hrest

theorem before_notes (hcalls : Follows w calls w₁) (h : w₁.OnlyNotes w₂) : Follows w calls w₂ := by
  induction hcalls with
  | done h' => exact .done (h'.trans h)
  | next h' _ ih => exact .next h' (ih h)

/-- What silent generators leave on the standard output. -/
theorem standard (hcalls : Follows w calls w₁) (hsilent : ∀ call ∈ calls, call.IsSilent) :
    Output.standard w₁.output = Output.standard w.output := by
  induction hcalls with
  | done h => exact h.standard
  | next h _ ih =>
    rw [ih fun call hcall => hsilent call (by simp [hcall]), hsilent _ (by simp), h.standard]

end Follows

/-- How calls end that are made in the order of some kinds. -/
inductive CallsEnd (kinds : List ArtifactKind) : List Call → Except Failure Report → Prop
  /-- All generators have been called, and the report has their files in order. -/
  | succeeded {calls : List Call} {files : List (List ProducedFile)} (hkinds : calls.map Call.kind = kinds)
      (hresults : calls.map Call.result = files.map .ok) : CallsEnd kinds calls (.ok files.flatten)
  /-- The generator that was called last has failed, and the ones after it are not called. -/
  | failed {done : List Call} {last : Call} {rest : List ArtifactKind} {e : Failure}
      (hkinds : kinds = done.map Call.kind ++ last.kind :: rest)
      (hdone : ∀ call ∈ done, ∃ files, call.result = .ok files) (hlast : last.result = .error e) :
      CallsEnd kinds (done ++ [last]) (.error e)

theorem CallsEnd.cons {kinds : List ArtifactKind} {calls : List Call} {result : Except Failure Report}
    (h : CallsEnd kinds calls result) (call : Call) {files : List ProducedFile} (hcall : call.result = .ok files) :
    CallsEnd (call.kind :: kinds) (call :: calls) (result.map (files ++ ·)) := by
  cases h with
  | @succeeded _ rest hkinds hresults =>
    exact @succeeded _ _ (files :: rest) (by simp [hkinds]) (by simp [hcall, hresults])
  | @failed done last rest e hkinds hdone hlast =>
    refine @failed _ (call :: done) last rest e (by simp [hkinds]) ?_ hlast
    simpa using ⟨⟨files, hcall⟩, hdone⟩

/-- No kind is called for twice that is not there twice. -/
theorem CallsEnd.nodup {kinds : List ArtifactKind} {calls : List Call} {report : Except Failure Report}
    (h : CallsEnd kinds calls report) (hkinds : kinds.Nodup) : (calls.map Call.kind).Nodup := by
  cases h with
  | succeeded hall => rwa [hall]
  | failed hfront =>
    refine hkinds.sublist ?_
    rw [hfront]
    simp

/-- A report has the files of all calls in order. -/
theorem CallsEnd.report_of_ok {kinds : List ArtifactKind} {calls : List Call} {result : Except Failure Report}
    (h : CallsEnd kinds calls result) {report : Report} (hresult : result = .ok report) :
    ∃ files : List (List ProducedFile), calls.map Call.kind = kinds ∧ calls.map Call.result = files.map .ok ∧
      report = files.flatten := by
  cases h with
  | succeeded hkinds hresults => exact ⟨_, hkinds, hresults, (Except.ok.inj hresult).symm⟩
  | failed => cases hresult

/-- Without kinds to call for nothing is reported. -/
theorem CallsEnd.nil {calls : List Call} {result : Except Failure Report} (h : CallsEnd [] calls result) :
    result = .ok [] := by
  generalize hkinds : ([] : List ArtifactKind) = kinds at h
  cases h with
  | succeeded hcalls hresults =>
    obtain rfl := List.map_eq_nil_iff.1 (hcalls.trans hkinds.symm)
    obtain rfl := List.map_eq_nil_iff.1 hresults.symm
    rfl
  | failed hfront =>
    rw [← hkinds] at hfront
    exact absurd hfront (by simp)

namespace Command

variable {r : Request} {w w' : Workspace}

/-- Taking the time of a task adds notes before and after what the task does. -/
theorem outcome_timed (k : ArtifactKind) (task : Task (List ProducedFile)) (w : Workspace) :
    ∃ v v', w.OnlyNotes v ∧ outcome (timed k task) w = ((outcome task v).1, v') ∧ (outcome task v).2.OnlyNotes v' := by
  unfold timed
  rw [outcome_bind_of_ok Task.outcome_elapsed, outcome_bind_of_ok Task.outcome_attempt,
    outcome_bind_of_ok Task.outcome_elapsed]
  dsimp only
  rw [outcome_bind_of_ok (Task.outcome_note ..)]
  refine ⟨{ w with stopwatch := w.stopwatch.rest }, ?_⟩
  have hstopwatch : w.OnlyNotes { w with stopwatch := w.stopwatch.rest } := ⟨rfl, rfl, [], by simp⟩
  rcases outcome task { w with stopwatch := w.stopwatch.rest } with ⟨e | files, w₂⟩
  · exact ⟨_, hstopwatch, rfl, ⟨rfl, rfl, [_], rfl⟩⟩
  · exact ⟨_, hstopwatch, rfl, ⟨rfl, rfl, [_, _], List.append_assoc ..⟩⟩

/-- A run of generators is a sequence of calls that ends with the first failure. -/
theorem runAll_end (r : Request) (generators : Entries ArtifactKind Generator) (w : Workspace) :
    ∃ calls, Follows w calls (outcome (runAll r generators) w).2 ∧
      CallsEnd generators.keys calls (outcome (runAll r generators) w).1 ∧
      ∀ call ∈ calls, ∃ g, (call.kind, g) ∈ generators ∧ outcome (g r) call.before = (call.result, call.after) := by
  -- by induction on the generators, from any workspace: each call finds what the one before it has left
  induction generators generalizing w with
  | nil => exact ⟨[], .done (.refl w), @CallsEnd.succeeded _ _ [] rfl rfl, by simp⟩
  | cons entry rest ih =>
    obtain ⟨kind, generator⟩ := entry
    obtain ⟨v, v', hbefore, htimed, hafter⟩ := outcome_timed kind (generator r) w
    let call : Call := ⟨kind, v, (outcome (generator r) v).1, (outcome (generator r) v).2⟩
    have hcall : ∃ g, (call.kind, g) ∈ (kind, generator) :: rest ∧
        outcome (g r) call.before = (call.result, call.after) := ⟨generator, by simp [call], rfl⟩
    rw [runAll]
    cases hresult : (outcome (generator r) v).1 with
    | error e =>
      rw [hresult] at htimed
      rw [outcome_bind_of_error htimed]
      refine ⟨[call], .next hbefore (.done hafter), ?_, by simpa using hcall⟩
      exact @CallsEnd.failed _ [] call (Entries.keys rest) e rfl (by simp) hresult
    | ok files =>
      rw [hresult] at htimed
      rw [outcome_bind_of_ok htimed]
      rw [outcome_bind_pure]
      obtain ⟨calls, hfollows, hend, hcalls⟩ := ih v'
      refine ⟨call :: calls, .next hbefore (.after_notes hafter hfollows), hend.cons call hresult, ?_⟩
      intro other hother
      rcases List.mem_cons.1 hother with rfl | hother
      · exact hcall
      · obtain ⟨g, hg, hrun⟩ := hcalls other hother
        exact ⟨g, List.mem_cons_of_mem _ hg, hrun⟩

/-- A dispatch calls the generators of the chosen kinds, and says a note after the last one. -/
theorem dispatch_calls (c : Command) (r : Request) (w : Workspace) :
    ∃ calls, Follows w calls (outcome (c.dispatch r) w).2 ∧
      CallsEnd (c.registry.kinds.filter fun k => r.isChosen k.choice) calls (outcome (c.dispatch r) w).1 ∧
      ∀ call ∈ calls, ∃ g, (call.kind, g) ∈ c.registry.generators ∧
        outcome (g r) call.before = (call.result, call.after) := by
  obtain ⟨calls, hfollows, hend, hcalls⟩ := runAll_end r (c.registry.generators.filter fun e => r.isChosen e.1.choice) w
  have hkeys : Entries.keys (c.registry.generators.filter fun e => r.isChosen e.1.choice) =
      c.registry.kinds.filter fun k => r.isChosen k.choice := by
    rw [Registry.kinds, Entries.keys, Entries.keys, List.filter_map]
    rfl
  rw [hkeys] at hend
  have hregistered : ∀ call ∈ calls, ∃ g, (call.kind, g) ∈ c.registry.generators ∧
      outcome (g r) call.before = (call.result, call.after) := by
    intro call hcall
    obtain ⟨g, hg, hrun⟩ := hcalls call hcall
    exact ⟨g, (List.mem_filter.1 hg).1, hrun⟩
  refine ⟨calls, ?_⟩
  unfold dispatch
  rcases hrun : outcome (runAll r (c.registry.generators.filter fun e => r.isChosen e.1.choice)) w with
    ⟨e | report, last⟩
  · rw [hrun] at hfollows hend
    rw [outcome_bind_of_error hrun]
    exact ⟨hfollows, hend, hregistered⟩
  · rw [hrun] at hfollows hend
    rw [outcome_bind_of_ok hrun, outcome_bind_of_ok (Task.outcome_note ..)]
    exact ⟨hfollows.before_notes ⟨rfl, rfl, [_], rfl⟩, hend, hregistered⟩

/-! ### Whole runs -/

/-- The lines that are printed for a report: a table with a row for every field, and one with a row for every file. -/
def reportLines (r : Request) (report : Report) : List String :=
  ["Here is your schema : ",
    Table.text ⟨["Field", "Type", "Modifiers"],
      r.schema.fields.map fun f => [f.name, f.type.word, ", ".intercalate f.labels]⟩,
    "Generated Files : ",
    Table.text ⟨["Type", "Path"], report.map fun f => [f.choice.name, f.path]⟩]

/-- How a run of the command goes that has a request: the calls it makes, what they come to, what they leave (`last`),
and how the run ends. -/
structure HandleEnd (c : Command) (r : Request) (w : Workspace) (calls : List Call) (report : Except Failure Report)
    (last : Workspace) (result : Except Failure Int) (w' : Workspace) : Prop where
  /-- Every kind that is registered can be asked for. -/
  selectable : ∀ k ∈ c.registry.kinds, r.isSelected k.name = .ok (r.isChosen k.choice)
  /-- Every call is one of the generator that is registered for its kind. -/
  registered : ∀ call ∈ calls, ∃ g, (call.kind, g) ∈ c.registry.generators ∧
    outcome (g r) call.before = (call.result, call.after)
  once : (calls.map Call.kind).Nodup
  follows : Follows w calls last
  /-- The kinds that are called for are the chosen ones, in the order of the registry. -/
  ended : CallsEnd (c.registry.kinds.filter fun k => r.isChosen k.choice) calls report
  /-- The report is the one of the dispatch. -/
  dispatched : ∃ v, w.OnlyNotes v ∧ (outcome (c.dispatch r) v).1 = report
  succeeded : ∀ files, report = .ok files → result = .ok 0 ∧
    w' = { last with output := last.output ++ (reportLines r files).map .line }
  failed : ∀ e, report = .error e → result = .error e ∧ w' = last
  /-- What is on the standard output when no generator says anything there. -/
  shown : (∀ call ∈ calls, call.IsSilent) →
    (∀ files, report = .ok files → Output.standard w'.output =
      Output.standard w.output ++ String.join ((reportLines r files).map (· ++ "\n"))) ∧
    ∀ e, report = .error e → Output.standard w'.output = Output.standard w.output

private theorem isSelected_name (r : Request) (k : ArtifactKind) : r.isSelected k.name = .ok (r.isChosen k.choice) := by
  cases k <;> rfl

theorem outcome_printReport (r : Request) (report : Report) (w : Workspace) :
    outcome (printReport r report) w =
      (.ok ⟨⟩, { w with output := w.output ++ (reportLines r report).map .line }) := by
  have hlines : outcome (printReport r report) w = (.ok ⟨⟩, { w with output :=
      (((w.output ++ [.line "Here is your schema : "]) ++ [.line r.schema.table.text]) ++
        [.line "Generated Files : "]) ++ [.line (Report.table report).text] }) := rfl
  rw [hlines]
  simp only [List.append_assoc]
  rfl

/-- A run that has a request says some notes, dispatches it and prints what is reported. -/
theorem outcome_handle_of_request {c : Command} {a : Arguments} (hr : c.request a = .ok r) (w : Workspace) :
    ∃ v, w.OnlyNotes v ∧ (outcome (c.handle a) w).1 = (outcome (c.dispatch r) v).1.map (fun _ => 0) ∧
      (outcome (c.handle a) w).2 = { (outcome (c.dispatch r) v).2 with
        output := (outcome (c.dispatch r) v).2.output ++
          match (outcome (c.dispatch r) v).1 with
          | .ok report => (reportLines r report).map .line
          | .error _ => [] } := by
  let v : Workspace := { w with output := w.output ++ (c.notes a).map .note }
  refine ⟨v, ⟨rfl, rfl, c.notes a, rfl⟩, ?_⟩
  unfold handle
  rw [outcome_bind_of_ok (Task.outcome_sayNotes _ w), hr]
  dsimp only
  rcases hd : outcome (c.dispatch r) v with ⟨e | report, last⟩
  · rw [outcome_bind_of_error hd]
    exact ⟨rfl, by simp⟩
  · rw [outcome_bind_of_ok hd, outcome_bind_of_ok (outcome_printReport ..)]
    exact ⟨rfl, rfl⟩

/-- A run that has none touches no file. -/
theorem tree_handle_of_error {c : Command} {a : Arguments} {e : Failure} (hr : c.request a = .error e)
    (w : Workspace) : (outcome (c.handle a) w).2.tree = w.tree := by
  unfold handle
  rw [outcome_bind_of_ok (Task.outcome_sayNotes _ w), hr]
  cases e with
  | problem p =>
    dsimp only
    split
    · rfl
    · rfl
  | _ => rfl

private theorem nodup_kinds_of_names {named : Entries String Generator} {registry : Registry}
    (h : Registry.ofNames named = .ok registry) : registry.kinds.Nodup := by
  obtain ⟨entries, -, rfl⟩ := map_eq_ok_iff.1 h
  exact Entries.nodup_keys_ofList entries

/-- A run of the command with a registry that is not empty calls the generators of the chosen kinds. -/
theorem handle_end {named : Entries String Generator} {registry : Registry}
    (hregistry : Registry.ofNames named = .ok registry) (hne : registry.generators ≠ []) {c : Command}
    (hc : c.registry = registry.orStandard) {a : Arguments} (hr : c.request a = .ok r)
    {result : Except Failure Int} (h : outcome (c.handle a) w = (result, w')) :
    ∃ calls report last, HandleEnd c r w calls report last result w' := by
  have hsame : c.registry = registry := by
    rw [hc, Registry.orStandard, if_neg (by simpa using hne)]
  let v : Workspace := { w with output := w.output ++ (c.notes a).map .note }
  have hnotes : w.OnlyNotes v := ⟨rfl, rfl, c.notes a, rfl⟩
  obtain ⟨calls, hfollows, hend, hcalls⟩ := dispatch_calls c r v
  have hfollows := hfollows.after_notes hnotes
  have honce : (calls.map Call.kind).Nodup :=
    hend.nodup (hsame ▸ (nodup_kinds_of_names hregistry).filter _)
  unfold handle at h
  rw [outcome_bind_of_ok (Task.outcome_sayNotes _ w), hr] at h
  dsimp only at h
  rcases hd : outcome (c.dispatch r) v with ⟨e | files, last⟩
  · rw [hd] at hfollows hend
    rw [outcome_bind_of_error hd] at h
    obtain ⟨rfl, rfl⟩ := Prod.mk.inj h
    refine ⟨calls, .error e, last, ?_⟩
    exact {
      selectable := fun k _ => isSelected_name r k
      registered := hcalls
      once := honce
      follows := hfollows
      ended := hend
      dispatched := ⟨v, hnotes, by rw [hd]⟩
      succeeded := fun _ => nofun
      failed := fun _ he => ⟨congrArg _ (Except.error.inj he), rfl⟩
      shown := fun hsilent => ⟨fun _ => nofun, fun _ _ => hfollows.standard hsilent⟩ }
  · rw [hd] at hfollows hend
    rw [outcome_bind_of_ok hd, outcome_bind_of_ok (outcome_printReport ..)] at h
    obtain ⟨rfl, rfl⟩ := Prod.mk.inj h
    refine ⟨calls, .ok files, last, ?_⟩
    exact {
      selectable := fun k _ => isSelected_name r k
      registered := hcalls
      once := honce
      follows := hfollows
      ended := hend
      dispatched := ⟨v, hnotes, by rw [hd]⟩
      succeeded := by
        rintro _ ⟨rfl⟩
        exact ⟨rfl, rfl⟩
      failed := fun _ => nofun
      shown := by
        refine fun hsilent => ⟨?_, fun _ => nofun⟩
        rintro _ ⟨rfl⟩
        rw [Output.standard_append, Output.standard_lines, hfollows.standard hsilent] }

/-- Three generators in an order of their own: the second one writes two files, and the third one fails. -/
theorem handle_end_of_failure :
    let files : List ProducedFile := [⟨.controller, "a.py", 1⟩, ⟨.controller, "b.py", 2⟩]
    let named : Entries String Generator :=
      [("seeder", fun _ => pure []), ("controller", fun _ => pure files), ("model", fun _ => throw (.breakdown "boom"))]
    let registry : Registry :=
      ⟨[(.seeder, fun _ => pure []), (.controller, fun _ => pure files), (.model, fun _ => throw (.breakdown "boom"))]⟩
    let c : Command := ⟨.fallback, registry.orStandard, reservedWords⟩
    let a : Arguments := ⟨"Post", some "title:string", [("controller", true)], none, .absent, .absent⟩
    let w : Workspace := ⟨⟨["home"], []⟩, ⟨⟨⟨2024, 1, 2⟩, 3, 4, 5, 6⟩, []⟩, ⟨0, []⟩, []⟩
    Registry.ofNames named = .ok registry ∧ ∃ r, c.request a = .ok r ∧ ∃ calls report last,
      HandleEnd c r w calls report last (outcome (c.handle a) w).1 (outcome (c.handle a) w).2 := by
  intro files named registry c a w
  have hregistry : Registry.ofNames named = .ok registry := rfl
  have hok : (c.request a).isOk = true := by decide +kernel
  cases hr : c.request a with
  | error e =>
    rw [hr] at hok
    cases hok
  | ok r =>
    have hne : registry.generators ≠ [] := List.cons_ne_nil _ _
    have hc : c.registry = registry.orStandard := rfl
    exact ⟨hregistry, r, rfl, handle_end hregistry hne hc hr (Prod.ext rfl rfl)⟩

end Command

end CrudScaffold
