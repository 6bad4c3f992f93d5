import CrudScaffold.Proofs.Run.Dispatch

/-!
# Runs that keep to their registry

A run of the command uses the generators of its registry and no others, as long as there is one in it: an empty
registry is taken for none, and the generators of all kinds run in its place (`Command.confinedTo_iff`).
-/

namespace CrudScaffold

/-- The records of the generator are all of one kind. -/
def Generator.Labels (g : Generator) (k : ArtifactKind) : Prop :=
  ∀ (r : Request) (w : Workspace) (files : List ProducedFile), (outcome (g r) w).1 = .ok files →
    ∀ file ∈ files, file.choice = k.choice

namespace Command

/-- What a run does that uses no generators but those of a registry, by the calls that it makes. -/
structure ConfinedTo (registry : Registry) (c : Command) (a : Arguments) (w : Workspace) (calls : List Call) :
    Prop where
  /-- Every call is one of a generator of the registry, under its kind. -/
  registered : ∀ call ∈ calls, ∃ r g, c.request a = .ok r ∧ (call.kind, g) ∈ registry.generators ∧
    outcome (g r) call.before = (call.result, call.after)
  /-- No file changes but during the calls. -/
  tree : ∃ last, Follows w calls last ∧ (outcome (c.handle a) w).2.tree = last.tree
  /-- The calls come to what is dispatched and printed. -/
  reported : ∀ r, c.request a = .ok r → ∃ v, w.OnlyNotes v ∧
    CallsEnd (registry.kinds.filter fun k => r.isChosen k.choice) calls (outcome (c.dispatch r) v).1 ∧
      (outcome (c.handle a) w).1 = (outcome (c.dispatch r) v).1.map (fun _ => 0) ∧
      ∀ report, (outcome (c.dispatch r) v).1 = .ok report →
        (∃ before, (outcome (c.handle a) w).2.output = before ++ (reportLines r report).map .line) ∧
          -- a record names a kind that is registered if it names the one of its generator
          ((∀ k g, (k, g) ∈ registry.generators → g.Labels k) →
            ∀ file ∈ report, ∃ k ∈ registry.kinds, file.choice = k.choice)

variable {registry : Registry} {c : Command} {a : Arguments} {r : Request} {w : Workspace}

private theorem choice_of_reported {kinds : List ArtifactKind} {calls : List Call} {report : Report}
    {result : Except Failure Report} (hend : CallsEnd kinds calls result) (hresult : result = .ok report)
    (hcalls : ∀ call ∈ calls, ∃ g, (call.kind, g) ∈ registry.generators ∧
      outcome (g r) call.before = (call.result, call.after))
    (hlabels : ∀ k g, (k, g) ∈ registry.generators → g.Labels k) :
    ∀ file ∈ report, ∃ k ∈ registry.kinds, file.choice = k.choice := by
  obtain ⟨files, -, hresults, rfl⟩ := hend.report_of_ok hresult
  intro file hfile
  obtain ⟨records, hrecords, hmem⟩ := List.mem_flatten.1 hfile
  obtain ⟨call, hcall, hok⟩ : ∃ call ∈ calls, call.result = .ok records :=
    List.mem_map.1 (hresults ▸ List.mem_map_of_mem hrecords)
  obtain ⟨g, hg, hrun⟩ := hcalls call hcall
  refine ⟨call.kind, List.mem_map_of_mem hg, hlabels _ g hg r call.before records ?_ file hmem⟩
  rw [hrun, hok]

/-- A run with a registry that is not empty keeps to it. -/
private theorem confinedTo_of_request (hsame : c.registry = registry) (hr : c.request a = .ok r) (w : Workspace) :
    ∃ calls, ConfinedTo registry c a w calls := by
  subst hsame
  obtain ⟨v, hnotes, hresult, hleft⟩ := outcome_handle_of_request hr w
  obtain ⟨calls, hfollows, hend, hcalls⟩ := dispatch_calls c r v
  refine ⟨calls, ?_, ⟨_, hfollows.after_notes hnotes, by rw [hleft]⟩, ?_⟩
  · intro call hcall
    obtain ⟨g, hg, hrun⟩ := hcalls call hcall
    exact ⟨r, g, hr, hg, hrun⟩
  · intro r' hr'
    obtain rfl := Except.ok.inj (hr.symm.trans hr')
    refine ⟨v, hnotes, hend, hresult, fun report hreport => ⟨⟨_, by rw [hleft, hreport]⟩, ?_⟩⟩
    exact choice_of_reported hend hreport hcalls

private theorem confinedTo_of_refused (h : ∀ r, c.request a ≠ .ok r) (w : Workspace) :
    ConfinedTo registry c a w [] := by
  cases hr : c.request a with
  | ok r => exact absurd hr (h r)
  | error e =>
    exact ⟨by simp, ⟨w, .done (.refl w), tree_handle_of_error hr w⟩, fun r hr => absurd hr (h r)⟩

/-- The generators of all kinds never report nothing: that of the model is always among those that are chosen. -/
private theorem dispatch_standard_ne_nil (hstandard : c.registry = .standard) (hr : c.request a = .ok r)
    (w : Workspace) : (outcome (c.dispatch r) w).1 ≠ .ok [] := by
  intro hnil
  obtain ⟨calls, -, hend, hcalls⟩ := dispatch_calls c r w
  obtain ⟨files, hkinds, hresults, hflat⟩ := hend.report_of_ok hnil
  have hmodel : ArtifactKind.model ∈ calls.map Call.kind := by
    rw [hkinds, hstandard]
    exact List.mem_filter.2 ⟨by decide, (derived_of_request hr).1⟩
  obtain ⟨call, hcall, hkind⟩ := List.mem_map.1 hmodel
  obtain ⟨g, hg, hrun⟩ := hcalls call hcall
  rw [hstandard, hkind] at hg
  obtain ⟨k, -, heq⟩ := List.mem_map.1 hg
  obtain ⟨rfl, rfl⟩ := Prod.mk.inj heq
  obtain ⟨records, hrecords, hok⟩ := List.mem_map.1 (hresults ▸ List.mem_map_of_mem hcall)
  rw [← hok] at hrun
  obtain ⟨-, size, rfl, -⟩ := (ArtifactKind.generator_end (fun _ => rfl) hrun).succeeded _ rfl
  exact absurd hflat.symm (List.ne_nil_of_mem (List.mem_flatten.2 ⟨_, hrecords, List.mem_cons_self⟩))

/-- A run keeps to its registry if and only if there is a generator in it, or if the arguments make no request. -/
theorem confinedTo_iff (settings : Settings) (registry : Registry) (reserved : List String) (a : Arguments)
    (w : Workspace) :
    let c : Command := ⟨settings, registry.orStandard, reserved⟩
    (∃ calls, ConfinedTo registry c a w calls) ↔ registry.generators ≠ [] ∨ ∀ r, c.request a ≠ .ok r := by
  intro c
  by_cases hempty : registry.generators = []
  · have hstandard : c.registry = .standard := if_pos (by rw [hempty]; rfl)
    constructor
    · rintro ⟨calls, hcalls⟩
      refine Or.inr fun r hr => ?_
      obtain ⟨v, -, hend, -, -⟩ := hcalls.reported r hr
      rw [Registry.kinds, hempty] at hend
      exact dispatch_standard_ne_nil hstandard hr v hend.nil
    · rintro (hne | hrefused)
      · exact absurd hempty hne
      · exact ⟨[], confinedTo_of_refused hrefused w⟩
  · have hsame : c.registry = registry := if_neg (by simpa using hempty)
    refine ⟨fun _ => Or.inl hempty, fun _ => ?_⟩
    cases hr : c.request a with
    | ok r => exact confinedTo_of_request hsame hr w
    | error e => exact ⟨[], confinedTo_of_refused (by simp [hr]) w⟩

/-- Of two generators the one for controllers is not asked for, and the other one fails. -/
theorem confinedTo_of_two :
    let registry : Registry :=
      ⟨[(.controller, fun _ => pure [⟨.controller, "a.py", 1⟩]), (.model, fun _ => throw (.breakdown "boom"))]⟩
    let c : Command := ⟨.fallback, registry.orStandard, reservedWords⟩
    let a : Arguments := ⟨"Post", some "title:string", [], none, .absent, .absent⟩
    let w : Workspace := ⟨⟨["home"], []⟩, ⟨⟨⟨2024, 1, 2⟩, 3, 4, 5, 6⟩, []⟩, ⟨0, []⟩, []⟩
    (c.request a).isOk = true ∧ ∃ calls, ConfinedTo registry c a w calls := by
  intro registry c a w
  exact ⟨by decide +kernel, (confinedTo_iff .fallback registry reservedWords a w).2 (Or.inl (List.cons_ne_nil _ _))⟩

/-- With no generator in its registry, a run writes the model's file. -/
theorem not_confinedTo_of_empty :
    let registry : Registry := ⟨[]⟩
    let c : Command := ⟨.fallback, registry.orStandard, reservedWords⟩
    let a : Arguments := ⟨"Post", none, [], none, .absent, .absent⟩
    let w : Workspace := ⟨⟨["home"], []⟩, ⟨⟨⟨2024, 1, 2⟩, 3, 4, 5, 6⟩, []⟩, ⟨0, []⟩, []⟩
    (w.tree.lookup (Path.ofText "models/post.py")).isOk = false ∧
      ((outcome (c.handle a) w).2.tree.lookup (Path.ofText "models/post.py")).isOk = true ∧
        ¬ ∃ calls, ConfinedTo registry c a w calls := by
  intro registry c a w
  refine ⟨by decide +kernel, by decide +kernel, ?_⟩
  rintro ⟨calls, hcalls⟩
  have hok : (c.request a).isOk = true := by decide +kernel
  cases hr : c.request a with
  | error e =>
    rw [hr] at hok
    cases hok
  | ok r =>
    obtain ⟨v, -, hend, -, -⟩ := hcalls.reported r hr
    exact dispatch_standard_ne_nil rfl hr v hend.nil

end Command

end CrudScaffold
