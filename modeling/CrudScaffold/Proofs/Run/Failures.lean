import CrudScaffold.CommandLine.Run
import CrudScaffold.Proofs.Artifact.Registration
import CrudScaffold.Proofs.Run.Calls
import CrudScaffold.Proofs.Run.Success
import CrudScaffold.Proofs.Storage.Refusal

/-!
# What generators fail with

A refusal of the system becomes the problem that is reported for the file of the generator.  Two things are let
through: a null character in the root, and a file of all routes that is not a text (`ArtifactKind.failures_iff`).
What is let through ends a run from the command line without a status (`CommandLine.ending_of_request`).
-/

namespace CrudScaffold

/-- The failure is the problem that is reported for a file of a kind. -/
def Failure.IsGeneration (e : Failure) (k : ArtifactKind) : Prop := ∃ reason, e = .problem (.generation k.name reason)

/-! ### Refusals that become problems -/

namespace Task

variable {α : Type} {w : Workspace} {task : Task α} {describe : FileError → Problem}

theorem failsWith_onFiles {P : FileError → Prop} {operation : Storage α} (h : FailsWith P operation) :
    FailsWith (fun f => ∃ e, f = .file e ∧ P e) (onFiles operation) := by
  intro w f hf
  rw [outcome_onFiles] at hf
  cases hresult : (outcome operation w.tree).1 with
  | ok a =>
    rw [hresult] at hf
    cases hf
  | error e =>
    rw [hresult] at hf
    exact ⟨e, (Except.error.inj hf).symm, h w.tree e hresult⟩

/-- A numbered refusal becomes a problem; every other failure stays what it is. -/
theorem orProblem_error {e : Failure} (h : (outcome (orProblem describe task) w).1 = .error e) :
    (∃ e', (outcome task w).1 = .error (.file e') ∧ Storage.IsNumbered e' ∧ e = .problem (describe e')) ∨
      (outcome task w).1 = .error e ∧ ∀ e', e = .file e' → ¬ Storage.IsNumbered e' := by
  unfold orProblem at h
  rcases ht : outcome task w with ⟨f | a, m⟩
  · rw [outcome_tryCatch_of_error ht] at h
    cases f with
    | file e' =>
      by_cases he' : e'.code?.isSome = true
      · simp only [he', if_true] at h
        exact Or.inl ⟨e', rfl, he', (Except.error.inj h).symm⟩
      · simp only [he', Bool.false_eq_true, if_false] at h
        obtain rfl := Except.error.inj h
        exact Or.inr ⟨rfl, fun e hfile => Failure.file.inj hfile ▸ he'⟩
    | _ =>
      obtain rfl := Except.error.inj h
      exact Or.inr ⟨rfl, fun _ => nofun⟩
  · rw [outcome_tryCatch_of_ok ht] at h
    cases h

/-- A failure that is not a numbered refusal stays what it is. -/
theorem orProblem_of_error {e : Failure} (h : (outcome task w).1 = .error e)
    (he : ∀ e', e = .file e' → ¬ Storage.IsNumbered e') : (outcome (orProblem describe task) w).1 = .error e := by
  rcases ht : outcome task w with ⟨f | a, m⟩
  · rw [ht] at h
    obtain rfl := Except.error.inj h
    unfold orProblem
    rw [outcome_tryCatch_of_error ht]
    cases f with
    | file e' =>
      simp only [show ¬ e'.code?.isSome = true from he e' rfl, Bool.false_eq_true, if_false]
      rfl
    | _ => rfl
  · rw [ht] at h
    cases h

theorem failsWith_writeText {p : Path} (h : ¬ p.HasNull) (text : String) :
    FailsWith (fun f => ∃ e, f = .file e ∧ Storage.IsNumbered e) (writeText p text true) := by
  have hparent : ¬ p.parent.HasNull := fun hnull => h hnull.of_parent
  refine .bind (failsWith_onFiles (Storage.failsWith_ensureDirectory hparent)) fun _ => .bind (.modify _) fun _ => ?_
  exact .bind (failsWith_onFiles (Storage.failsWith_replace h _)) fun _ => .bind (.modify _) fun _ => .pure _

theorem failsWith_readText {p : Path} (h : ¬ p.HasNull) :
    FailsWith (fun f => (∃ e, f = .file e ∧ Storage.IsNumbered e) ∨ f = .undecodable) (readText p) := by
  refine .bind (fun w f hf => Or.inl (failsWith_onFiles (Storage.failsWith_read h) w f hf)) fun content => ?_
  cases String.fromUTF8? content with
  | some text => exact .pure _
  | none => exact .throw (Or.inr rfl)

/-- What cannot be decoded is the content of the file, and it is not a text. -/
theorem readText_undecodable_iff {p : Path} : (outcome (readText p) w).1 = .error .undecodable ↔
    ∃ content, w.tree.lookup p = .ok (.file content) ∧ String.fromUTF8? content = none := by
  unfold readText
  constructor
  · intro h
    rcases hr : outcome (Storage.read p) w.tree with ⟨e | content, t⟩
    · rw [outcome_bind_of_error (outcome_onFiles_of_error hr)] at h
      cases h
    · rw [outcome_bind_of_ok (outcome_onFiles_of_ok hr)] at h
      refine ⟨content, (Storage.outcome_read_cases hr).2 content rfl, ?_⟩
      cases hdecode : String.fromUTF8? content with
      | none => rfl
      | some text =>
        rw [hdecode] at h
        cases h
  · rintro ⟨content, hlookup, hdecode⟩
    rw [outcome_bind_of_ok (outcome_onFiles_of_ok (Storage.outcome_read_of_file hlookup)), hdecode]
    rfl

end Task

namespace ArtifactKind

variable {k : ArtifactKind} {p : Path} {w : Workspace}

theorem failsWith_write (h : ¬ p.HasNull) (text : String) : FailsWith (·.IsGeneration k) (k.write p text) := by
  intro w e he
  rcases Task.orProblem_error he with ⟨_, -, -, rfl⟩ | ⟨hsame, hother⟩
  · exact ⟨_, rfl⟩
  · obtain ⟨e', hfile, hnumbered⟩ := Task.failsWith_writeText h text w e hsame
    exact absurd hnumbered (hother e' hfile)

theorem write_of_hasNull (k : ArtifactKind) (h : p.parent.HasNull) (text : String) (w : Workspace) :
    (outcome (k.write p text) w).1 = .error (.file .nullCharacter) := by
  refine Task.orProblem_of_error ?_ fun e he => ?_
  · unfold Task.writeText
    rw [outcome_bind_of_error (Task.outcome_onFiles_of_error (Storage.ensureDirectory_of_hasNull h w.tree))]
  · obtain rfl := Failure.file.inj he
    exact fun hnumbered => Storage.isNumbered_iff.1 hnumbered rfl

/-! ### Files that are rendered -/

private theorem failsWith_noteRendered {P : Failure → Prop} (k : ArtifactKind) (r : Request) (text : String) :
    FailsWith P (k.noteRendered r text) := by
  intro w e he
  obtain ⟨output, hok⟩ := k.outcome_noteRendered (w := w) r text
  rw [hok] at he
  cases he

/-! ### The file of all routes -/

private theorem outcome_existing (p : Path) (w : Workspace) :
    outcome (do if ← Task.onFiles (Storage.exists? p) then Task.readText p else pure "" : Task String) w =
      match w.tree.probe p fun _ => true with
      | .error e => (.error (.file e), w)
      | .ok true => outcome (Task.readText p) w
      | .ok false => (.ok "", w) := by
  have hask : outcome (Task.onFiles (Storage.exists? p)) w =
      ((w.tree.probe p fun _ => true).mapError .file, w) := by
    rw [Task.outcome_onFiles, show Storage.exists? p = Storage.ask _ from rfl, Storage.outcome_ask]
  cases hp : w.tree.probe p fun _ => true with
  | error e =>
    rw [hp] at hask
    rw [outcome_bind_of_error hask]
  | ok there =>
    rw [hp] at hask
    rw [outcome_bind_of_ok hask]
    cases there <;> rfl

/-- What is there is read, or the refusal is reported, or what is there is not a text. -/
private theorem readExisting_error (h : ¬ p.HasNull) {e : Failure} (he : (outcome (k.readExisting p) w).1 = .error e) :
    e.IsGeneration k ∨ e = .undecodable ∧ ∃ content, w.tree.lookup p = .ok (.file content) ∧
      String.fromUTF8? content = none := by
  rcases Task.orProblem_error he with ⟨_, -, -, rfl⟩ | ⟨hsame, hother⟩
  · exact Or.inl ⟨_, rfl⟩
  rw [outcome_existing] at hsame
  split at hsame
  · rename_i e' hprobe
    obtain rfl := Except.error.inj hsame
    have hnumbered := Storage.failsWith_probe p (fun _ => true) w.tree e' (by rw [Storage.outcome_ask, hprobe])
    exact absurd hnumbered (hother e' rfl)
  · rcases Task.failsWith_readText h w e hsame with ⟨e', hfile, hnumbered⟩ | rfl
    · exact absurd hnumbered (hother e' hfile)
    · exact Or.inr ⟨rfl, Task.readText_undecodable_iff.1 hsame⟩
  · cases hsame

/-- What is not a text is not read. -/
private theorem readExisting_of_undecodable {content : ByteArray} (hfile : w.tree.lookup p = .ok (.file content))
    (hdecode : String.fromUTF8? content = none) : (outcome (k.readExisting p) w).1 = .error .undecodable := by
  refine Task.orProblem_of_error ?_ fun _ => nofun
  have hprobe : (w.tree.probe p fun _ => true) = .ok true := by rw [FileTree.probe, hfile]
  rw [outcome_existing, hprobe]
  exact Task.readText_undecodable_iff.2 ⟨content, hfile, hdecode⟩

/-- Nothing is read where a path has a null character. -/
private theorem readExisting_of_hasNull (h : p.HasNull) (w : Workspace) :
    outcome (k.readExisting p) w = (.ok "", w) := by
  have hlookup : w.tree.lookup p = .error .nullCharacter := by
    rw [FileTree.lookup, FileTree.locate_of_hasNull h]
    rfl
  have hprobe : (w.tree.probe p fun _ => true) = .ok false := by rw [FileTree.probe, hlookup]
  refine outcome_tryCatch_of_ok ?_
  rw [outcome_existing, hprobe]

/-! ### Generators -/

variable {r : Request}

private theorem null_not_mem_names (hsnake : r.snake ≠ "") {stamp : String} (hstamp : Artifact.IsModuleName stamp)
    (k : ArtifactKind) : ∀ name ∈ k.names stamp r, '\x00' ∉ name.toList := by
  intro name hname hnull
  rcases chars_of_mem_names hsnake hstamp k hname _ hnull with hchar | hchar <;> exact absurd hchar (by decide)

/-- A file is written at a path with a null character only if the root has one. -/
private theorem not_hasNull_outputPath (hnull : '\x00' ∉ r.root.toList) (hsnake : r.snake ≠ "") {stamp : String}
    (hstamp : Artifact.IsModuleName stamp) (k : ArtifactKind) : ¬ (k.outputPath stamp r).HasNull := by
  rw [(outputPath_eq_under hsnake hstamp k).1]
  rintro ⟨name, hname, hmem⟩
  rcases List.mem_append.1 hname with hname | hname
  · exact hnull (Path.hasNull_ofText_iff.1 ⟨name, hname, hmem⟩)
  · exact null_not_mem_names hsnake hstamp k name hname hmem

/-- If the root has one, the directory of the file has it too. -/
private theorem hasNull_parent (hnull : '\x00' ∈ r.root.toList) (hsnake : r.snake ≠ "") {stamp : String}
    (hstamp : Artifact.IsModuleName stamp) (k : ArtifactKind) : (k.outputPath stamp r).parent.HasNull := by
  obtain ⟨name, hname, hmem⟩ := Path.hasNull_ofText_iff.2 hnull
  refine ⟨name, ?_, hmem⟩
  rw [(outputPath_eq_under hsnake hstamp k).1, Path.under, Path.parent,
    List.dropLast_append_of_ne_nil (names_ne_nil k stamp r)]
  exact List.mem_append_left _ hname

/-- The stamp that a generator finds leads to the path that it would have with the stamp of the run. -/
private theorem exists_stamp (k : ArtifactKind) (r : Request) (w : Workspace) :
    ∃ found w', outcome k.stamp w = (.ok found, w') ∧
      k.outputPath found r = k.outputPath w.clock.next.stamp r := by
  obtain ⟨found, w', hstamp, hartifact, -⟩ := outcome_stamp_same (k := k) (r := r) (w := w) (fun _ => rfl)
  exact ⟨found, w', hstamp, by rw [outputPath, outputPath, hartifact]⟩

private theorem produce_failsWith (hnull : '\x00' ∉ r.root.toList) (hsnake : r.snake ≠ "") (k : ArtifactKind) :
    FailsWith (·.IsGeneration k) (k.produce r) := by
  intro w e he
  obtain ⟨found, w', hstamp, hpath⟩ := k.exists_stamp r w
  have hplain := not_hasNull_outputPath hnull hsnake (isModuleName_stamp w.clock.next) k
  rw [← hpath] at hplain
  rw [produce_eq, outcome_bind_of_ok hstamp] at he
  unfold publish at he
  refine FailsWith.bind (P := (·.IsGeneration k)) (failsWith_noteRendered k r _) (fun _ => ?_) w' e he
  exact .bind (failsWith_write hplain _) fun _ => .bind (.modify _) fun _ => .pure _

private theorem produce_of_null (hnull : '\x00' ∈ r.root.toList) (hsnake : r.snake ≠ "") (k : ArtifactKind)
    (w : Workspace) : (outcome (k.produce r) w).1 = .error (.file .nullCharacter) := by
  obtain ⟨found, w', hstamp, hpath⟩ := k.exists_stamp r w
  have hparent := hasNull_parent hnull hsnake (isModuleName_stamp w.clock.next) k
  rw [← hpath] at hparent
  rw [produce_eq, outcome_bind_of_ok hstamp]
  unfold publish
  obtain ⟨output, hnote⟩ := k.outcome_noteRendered (w := w') r (k.render found r)
  rw [outcome_bind_of_ok hnote, fst_outcome_bind_of_error (k.write_of_hasNull hparent _ _)]

/-- The file of all routes is the same at all times. -/
private theorem outputPath_routes (stamp : String) : routes.outputPath stamp r = routes.outputPath "" r := rfl

private theorem register_error (hnull : '\x00' ∉ r.root.toList) (hsnake : r.snake ≠ "") {e : Failure}
    (he : (outcome (register r) w).1 = .error e) :
    e.IsGeneration .routes ∨ e = .undecodable ∧ ∃ content,
      w.tree.lookup (routes.outputPath "" r) = .ok (.file content) ∧ String.fromUTF8? content = none := by
  have hplain := not_hasNull_outputPath hnull hsnake (isModuleName_stamp w.clock.next) .routes
  rw [outputPath_routes] at hplain
  unfold register at he
  rcases hread : outcome (routes.readExisting (routes.outputPath "" r)) w with ⟨e' | existing, w'⟩
  · rw [outcome_bind_of_error hread] at he
    obtain rfl := Except.error.inj he
    exact readExisting_error hplain (by rw [hread])
  · rw [outcome_bind_of_ok hread] at he
    cases hregistered : r.registered? existing with
    | none =>
      rw [hregistered] at he
      cases he
    | some content =>
      rw [hregistered] at he
      refine Or.inl ?_
      refine FailsWith.bind (P := (·.IsGeneration .routes)) (failsWith_write hplain content) (fun _ => ?_) w' e he
      exact .bind (.modify _) fun _ => .pure _

private theorem register_of_null (hnull : '\x00' ∈ r.root.toList) (hsnake : r.snake ≠ "") (w : Workspace) :
    (outcome (register r) w).1 = .error (.file .nullCharacter) := by
  have hparent := hasNull_parent hnull hsnake (isModuleName_stamp w.clock.next) .routes
  rw [outputPath_routes] at hparent
  unfold register
  rw [outcome_bind_of_ok (readExisting_of_hasNull hparent.of_parent w), Request.registered?_empty]
  dsimp only
  rw [fst_outcome_bind_of_error (routes.write_of_hasNull hparent _ w)]

/-- A null character in the root is let through by every generator. -/
private theorem generator_of_null (hnull : '\x00' ∈ r.root.toList) (hsnake : r.snake ≠ "") (k : ArtifactKind)
    (w : Workspace) : (outcome (k.generator r) w).1 = .error (.file .nullCharacter) := by
  unfold generator
  split
  · exact register_of_null hnull hsnake w
  · exact produce_of_null hnull hsnake k w

/-- Without one, a generator fails with the problem of its kind, but for a file of all routes that is not a text. -/
private theorem generator_error (hnull : '\x00' ∉ r.root.toList) (hsnake : r.snake ≠ "") {e : Failure}
    (he : (outcome (k.generator r) w).1 = .error e) :
    e.IsGeneration k ∨ e = .undecodable ∧ k = .routes ∧ ∃ content,
      w.tree.lookup (routes.outputPath "" r) = .ok (.file content) ∧ String.fromUTF8? content = none := by
  by_cases hk : k = .routes
  · subst hk
    exact (register_error hnull hsnake he).imp_right fun h => ⟨h.1, rfl, h.2⟩
  · rw [generator, if_neg hk] at he
    exact Or.inl (produce_failsWith hnull hsnake k w e he)

/-- Every failure of a generator is the problem of its kind if and only if there is no null character in the root
and, for the file of all routes, what is there is a text. -/
theorem failures_iff (hsnake : r.snake ≠ "") (k : ArtifactKind) (w : Workspace) :
    (∀ e, (outcome (k.generator r) w).1 = .error e → e.IsGeneration k) ↔
      '\x00' ∉ r.root.toList ∧
        (k = .routes → ∀ content, w.tree.lookup (routes.outputPath "" r) = .ok (.file content) →
          ∃ text : String, content = text.toUTF8) := by
  constructor
  · intro h
    refine ⟨fun hnull => ?_, ?_⟩
    · obtain ⟨reason, hreason⟩ := h _ (generator_of_null hnull hsnake k w)
      cases hreason
    · rintro rfl content hfile
      cases hdecode : String.fromUTF8? content with
      | some text => exact ⟨text, fromUTF8?_eq_some_iff.1 hdecode⟩
      | none =>
        have herror : (outcome (routes.generator r) w).1 = .error .undecodable :=
          fst_outcome_bind_of_error (readExisting_of_undecodable hfile hdecode)
        obtain ⟨reason, hreason⟩ := h _ herror
        cases hreason
  · rintro ⟨hnull, htext⟩ e he
    rcases generator_error hnull hsnake he with hgeneration | ⟨-, hk, content, hfile, hdecode⟩
    · exact hgeneration
    · obtain ⟨text, rfl⟩ := htext hk content hfile
      rw [fromUTF8?_eq_some_iff.2 rfl] at hdecode
      cases hdecode

/-- What a generator fails with is the problem of its kind, or it is no problem that is reported. -/
theorem problem?_of_not_isGeneration (hsnake : r.snake ≠ "") {e : Failure}
    (he : (outcome (k.generator r) w).1 = .error e) (hother : ¬ e.IsGeneration k) : e.problem? = none := by
  by_cases hnull : '\x00' ∈ r.root.toList
  · obtain rfl := Except.error.inj ((generator_of_null hnull hsnake k w).symm.trans he)
    rfl
  · rcases generator_error hnull hsnake he with hgeneration | ⟨rfl, -⟩
    · exact absurd hgeneration hother
    · rfl

end ArtifactKind

/-! ### Runs from the command line -/

namespace CommandLine

open Command

/-- How a run from the command line ends that makes a request: with a status, unless a generator has failed with
something that is not the problem of its kind. -/
structure EndsBy (r : Request) (v : Workspace) (ending : Except Failure Int) (calls : List Call) : Prop where
  /-- Every call is one of the generator of its kind. -/
  called : ∀ call ∈ calls, outcome (call.kind.generator r) call.before = (call.result, call.after)
  follows : ∃ last, Follows v calls last
  /-- The chosen generators are called in order, and the first failure decides. -/
  status : ∃ result, CallsEnd (Registry.standard.kinds.filter fun k => r.isChosen k.choice) calls result ∧
    (∀ report, result = .ok report → ending = .ok Problem.successStatus) ∧
    ∀ e, result = .error e → ∃ call ∈ calls, call.result = .error e ∧
      (e.IsGeneration call.kind → ending = .ok Problem.generationStatus) ∧
        (¬ e.IsGeneration call.kind → ending = .error e)

variable {words : List String} {v v' : Workspace} {i : Invocation} {settings : Settings} {r : Request}

/-- A problem that is reported becomes the status of the task. -/
private theorem outcome_reported (task : Task Int) (w : Workspace) :
    (outcome (Invocation.reported task) w).1 =
      match (outcome task w).1 with
      | .ok status => .ok status
      | .error e => e.problem?.elim (.error e) fun p => .ok p.status := by
  unfold Invocation.reported
  rcases ht : outcome task w with ⟨e | status, m⟩
  · rw [outcome_tryCatch_of_error ht]
    dsimp only
    cases e.problem? <;> rfl
  · rw [outcome_tryCatch_of_ok ht]

/-- Where the settings are loaded and the request is made, the run ends as its generators do. -/
theorem ending_of_request (hwords : Invocation.ofTexts words = .ok i)
    (hload : outcome (Settings.load i.settingsPath none) { v with output := [] } = (.ok settings, v'))
    (hr : request ⟨settings, .standard, reservedWords⟩ i.arguments = .ok r) :
    ∃ calls, EndsBy r v' (run words v).1.ending calls := by
  let c : Command := ⟨settings, .standard, reservedWords⟩
  let v₁ : Workspace := { v' with output := v'.output ++ [.note Registry.standard.orderNote] }
  obtain ⟨u, hnotes, hresult, -⟩ := outcome_handle_of_request (c := c) hr v₁
  obtain ⟨calls, hfollows, hend, hcalls⟩ := dispatch_calls c r u
  have hending : (run words v).1.ending = (outcome (Invocation.reported i.work) { v with output := [] }).1 := by
    unfold run
    rw [hwords]
    rfl
  have hwork : outcome i.work { v with output := [] } = outcome (c.handle i.arguments) v₁ := by
    unfold Invocation.work
    rw [outcome_bind_of_ok hload, outcome_bind_of_ok (Task.outcome_say _)]
  rw [outcome_reported, hwork, hresult] at hending
  have hcalled : ∀ call ∈ calls, outcome (call.kind.generator r) call.before = (call.result, call.after) := by
    intro call hcall
    obtain ⟨g, hg, hrun⟩ := hcalls call hcall
    obtain ⟨k, -, heq⟩ := List.mem_map.1 hg
    obtain ⟨rfl, rfl⟩ := Prod.mk.inj heq
    exact hrun
  have hsaid : v'.OnlyNotes v₁ := ⟨rfl, rfl, [_], rfl⟩
  refine ⟨calls, hcalled, ⟨_, hfollows.after_notes (hsaid.trans hnotes)⟩, _, hend, ?_, ?_⟩
  · intro report hreport
    rw [hending, hreport]
    rfl
  · intro e he
    rw [he] at hend hending
    generalize hresult : (Except.error e : Except Failure Report) = result at hend
    cases hend with
    | succeeded => cases hresult
    | @failed done last rest e' hkinds hdone hlast =>
      obtain rfl := Except.error.inj hresult
      have hmem : last ∈ done ++ [last] := by simp
      refine ⟨last, hmem, hlast, ?_, fun hother => ?_⟩
      · rintro ⟨reason, rfl⟩
        exact hending
      · have hnone := ArtifactKind.problem?_of_not_isGeneration (snake_ne_empty (model_of_request hr))
          (by rw [hcalled last hmem, hlast]) hother
        rw [hending]
        simp only [Except.map, hnone]
        rfl

end CommandLine

namespace Command

open ArtifactKind (routes)

/-- The generators of a request fail with nothing but the problem of their kind, and so end a run from the command
line with a status, if and only if there is no null character in the root and, for the file of all routes, what is
there is a text.  That is said of requests: a run whose root or namespace has surrogates makes none, and how deep a root
may be until its directories are too many to be made is outside the model. -/
theorem generators_report_iff {c : Command} {a : Arguments} {r : Request} (hr : c.request a = .ok r) :
    (∀ (k : ArtifactKind) (w : Workspace),
      (∀ e, (outcome (k.generator r) w).1 = .error e → e.IsGeneration k) ↔
        '\x00' ∉ r.root.toList ∧
          (k = .routes → ∀ content, w.tree.lookup (routes.outputPath "" r) = .ok (.file content) →
            ∃ text : String, content = text.toUTF8)) ∧
    ∀ (words : List String) (i : CommandLine.Invocation) (settings : Settings) (v v' : Workspace),
      CommandLine.Invocation.ofTexts words = .ok i →
      outcome (Settings.load i.settingsPath none) { v with output := [] } = (.ok settings, v') →
      c = ⟨settings, .standard, reservedWords⟩ → a = i.arguments →
        ∃ calls, CommandLine.EndsBy r v' (CommandLine.run words v).1.ending calls := by
  refine ⟨ArtifactKind.failures_iff (snake_ne_empty (model_of_request hr)), ?_⟩
  rintro words i settings v v' hwords hload rfl rfl
  exact CommandLine.ending_of_request hwords hload hr

/-- Where there are no files, a request for a model without fields has no other failures. -/
theorem generators_report_of_post :
    let a : Arguments := ⟨"Post", none, Choice.options.map fun choice => (choice.name, false), none, .absent, .absent⟩
    let v : Workspace := ⟨⟨["home"], []⟩, ⟨⟨⟨2024, 1, 2⟩, 3, 4, 5, 6⟩, []⟩, ⟨0, []⟩, []⟩
    ∃ settings v' r, outcome (Settings.load none none) v = (.ok settings, v') ∧
      Command.request ⟨settings, .standard, reservedWords⟩ a = .ok r ∧
        (∀ (k : ArtifactKind) (e : Failure), (outcome (k.generator r) v).1 = .error e → e.IsGeneration k) ∧
          ∃ calls, CommandLine.EndsBy r v' (CommandLine.run ["Post"] v).1.ending calls := by
  intro a v
  let isPlain (r : Request) : Bool :=
    !r.root.toList.contains '\x00' && (v.tree.lookup (routes.outputPath "" r)).toOption.isNone
  have hplain : (outcome (Settings.load none none) v).1.toOption.any (fun settings =>
      (Command.request ⟨settings, .standard, reservedWords⟩ a).toOption.any isPlain) = true := by decide +kernel
  rcases hload : outcome (Settings.load none none) v with ⟨e | settings, v'⟩
  · rw [hload] at hplain
    cases hplain
  rw [hload] at hplain
  cases hr : Command.request ⟨settings, .standard, reservedWords⟩ a with
  | error e =>
    simp [hr, Except.toOption] at hplain
  | ok r =>
    simp only [hr, Except.toOption, Option.any_some] at hplain
    obtain ⟨hroot, hmissing⟩ := Bool.and_eq_true_iff.1 hplain
    obtain ⟨hiff, hending⟩ := generators_report_iff hr
    refine ⟨settings, v', r, rfl, hr, fun k => (hiff k v).2 ⟨by simpa using hroot, fun _ content hfile => ?_⟩, ?_⟩
    · rw [hfile] at hmissing
      cases hmissing
    · exact hending ["Post"] ⟨a, none, 0, false⟩ settings v v' rfl hload rfl rfl

/-- A file of all routes that is the one byte 255 is let through, and ends the run without a status. -/
theorem not_isGeneration_of_byte :
    let c : Command := ⟨.fallback, .standard, reservedWords⟩
    let flags := Choice.options.map fun choice => (choice.name, choice == .routes)
    let v : Workspace := ⟨⟨["home"], [(["home", "routes"], .directory),
      (["home", "routes", "api.py"], .file ⟨#[255]⟩)]⟩, ⟨⟨⟨2024, 1, 2⟩, 3, 4, 5, 6⟩, []⟩, ⟨0, []⟩, []⟩
    ∃ r, c.request ⟨"Post", none, flags, none, .absent, .absent⟩ = .ok r ∧
      (outcome (routes.generator r) v).1 = .error .undecodable ∧ ¬ Failure.undecodable.IsGeneration .routes ∧
        (CommandLine.run ["Post", "--routes"] v).1.ending = .error .undecodable := by
  intro c flags v
  let a : Arguments := ⟨"Post", none, flags, none, .absent, .absent⟩
  have hpath : (c.request a).toOption.any (fun r => routes.outputPath "" r = .ofText "routes/api.py") = true := by
    decide +kernel
  have hending : (match (CommandLine.run ["Post", "--routes"] v).1.ending with
      | .error .undecodable => true
      | _ => false) = true := by decide +kernel
  cases hr : c.request a with
  | error e =>
    rw [hr] at hpath
    cases hpath
  | ok r =>
    rw [hr] at hpath
    refine ⟨r, rfl, ?_, nofun, ?_⟩
    · have hfile : v.tree.lookup (.ofText "routes/api.py") = .ok (.file ⟨#[255]⟩) := by decide +kernel
      rw [← of_decide_eq_true hpath] at hfile
      exact fst_outcome_bind_of_error (ArtifactKind.readExisting_of_undecodable hfile (by decide +kernel))
    · split at hending
      · assumption
      · cases hending

end Command

end CrudScaffold
