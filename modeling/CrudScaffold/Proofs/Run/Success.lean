import CrudScaffold.Proofs.Artifact.Separate
import CrudScaffold.Proofs.Run.Dispatch
import CrudScaffold.Proofs.Text.LineBreak

/-!
# When generators succeed

A generator that renders a file succeeds exactly where the tree admits the file, whatever else the tree holds, and
then it has written the file (`produce_succeeds_iff`, `produce_writes`).  The generator for routes reads the file
first; it succeeds if that can be read, and if the tree admits the file or nothing is to be added
(`register_succeeds_iff`).
-/

namespace CrudScaffold

open FileTree (ChangedAt Writes)

variable {w w' : Workspace} {p : Path} {text : String}

/-! ### Texts of files -/

/-- The text of the file at a path; it is empty where there is no file. -/
inductive FileTree.HasText (t : FileTree) (p : Path) : String → Prop
  | missing (h : (t.probe p fun _ => true) = .ok false) : HasText t p ""
  | there {text : String} (h : t.lookup p = .ok (.file text.toUTF8)) : HasText t p text

theorem fromUTF8?_eq_some_iff {content : ByteArray} : String.fromUTF8? content = some text ↔ content = text.toUTF8 := by
  unfold String.fromUTF8?
  constructor
  · intro h
    split at h
    · rw [← Option.some.inj h]
      rfl
    · cases h
  · rintro rfl
    simp only [String.toUTF8_eq_toByteArray, dif_pos text.isValidUTF8]
    rfl

theorem toUTF8_injective {text' : String} (h : text.toUTF8 = text'.toUTF8) : text = text' := by
  have hdecode := fromUTF8?_eq_some_iff.2 h
  rw [fromUTF8?_eq_some_iff.2 rfl] at hdecode
  exact Option.some.inj hdecode

theorem FileTree.HasText.unique {t : FileTree} {text' : String} (h : t.HasText p text) (h' : t.HasText p text') :
    text = text' := by
  cases h with
  | missing hnone =>
    cases h' with
    | missing => rfl
    | there hfile => simp [probe, hfile] at hnone
  | there hfile =>
    cases h' with
    | missing hnone => simp [probe, hfile] at hnone
    | there hfile' =>
      rw [hfile] at hfile'
      exact toUTF8_injective (Node.file.inj (Except.ok.inj hfile'))

namespace Task

theorem outcome_orProblem_eq_ok_iff {α : Type} {describe : FileError → Problem} {task : Task α} {a : α} :
    outcome (orProblem describe task) w = (.ok a, w') ↔ outcome task w = (.ok a, w') := by
  constructor
  · intro h
    rcases outcome_orProblem_cases h with ⟨b, hb, htask⟩ | ⟨e, -, he, -⟩
    · rwa [Except.ok.inj hb]
    · cases he
  · exact fun h => outcome_tryCatch_of_ok h

theorem outcome_readText_eq_ok_iff :
    outcome (readText p) w = (.ok text, w') ↔ w' = w ∧ ∃ written : String,
      w.tree.lookup p = .ok (.file written.toUTF8) ∧ text = Text.translated written := by
  constructor
  · intro h
    obtain ⟨rfl, htext⟩ := outcome_readText_cases h
    obtain ⟨content, written, hlookup, hdecode, rfl⟩ := htext text rfl
    rw [fromUTF8?_eq_some_iff.1 hdecode] at hlookup
    exact ⟨rfl, written, hlookup, rfl⟩
  · rintro ⟨rfl, written, hlookup, rfl⟩
    unfold readText
    rw [outcome_bind_of_ok (outcome_onFiles_of_ok (Storage.outcome_read_of_file hlookup)),
      fromUTF8?_eq_some_iff.2 rfl]
    rfl

/-- A text can be written exactly where the tree admits a file. -/
theorem writeText_succeeds_iff : (∃ size w', outcome (writeText p text true) w = (.ok size, w')) ↔ w.tree.Admits p := by
  rw [← @Storage.write_succeeds_iff _ _ text.toUTF8]
  unfold writeText
  generalize text.toUTF8 = content
  rcases hd : outcome (Storage.ensureDirectory p.parent) w.tree with ⟨e | ⟨⟩, t₁⟩
  · rw [outcome_bind_of_error (outcome_onFiles_of_error hd)]
    simp
  · rw [outcome_bind_of_ok (outcome_onFiles_of_ok hd), outcome_bind_of_ok (outcome_note ..)]
    dsimp only [↓reduceIte]
    rcases hr : outcome (Storage.replace p content) t₁ with ⟨e | ⟨⟩, t₂⟩
    · rw [outcome_bind_of_error (outcome_onFiles_of_error hr)]
      simp [hr]
    · rw [outcome_bind_of_ok (outcome_onFiles_of_ok hr), outcome_bind_of_ok (outcome_note ..)]
      simp [hr]

end Task

namespace ArtifactKind

variable {k : ArtifactKind} {r : Request} {stamp : String} {files : List ProducedFile}

theorem outcome_readExisting_eq_ok_iff :
    outcome (k.readExisting p) w = (.ok text, w') ↔
      w' = w ∧ ∃ before, w.tree.HasText p before ∧ text = Text.translated before := by
  have hask : outcome (Task.onFiles (Storage.exists? p)) w =
      ((w.tree.probe p fun _ => true).mapError .file, w) := by
    rw [Task.outcome_onFiles, show Storage.exists? p = Storage.ask _ from rfl, Storage.outcome_ask]
  unfold readExisting
  rw [Task.outcome_orProblem_eq_ok_iff]
  cases hp : w.tree.probe p fun _ => true with
  | error e =>
    rw [hp] at hask
    rw [outcome_bind_of_error hask]
    constructor
    · exact fun h => by cases h
    · rintro ⟨-, before, h | h, -⟩
      · rw [hp] at h
        cases h
      · simp [FileTree.probe, h] at hp
  | ok there =>
    rw [hp] at hask
    rw [outcome_bind_of_ok hask]
    cases there with
    | true =>
      rw [if_pos rfl, Task.outcome_readText_eq_ok_iff]
      constructor
      · rintro ⟨rfl, written, hlookup, rfl⟩
        exact ⟨rfl, written, .there hlookup, rfl⟩
      · rintro ⟨rfl, before, h | h, rfl⟩
        · rw [hp] at h
          cases h
        · exact ⟨rfl, before, h, rfl⟩
    | false =>
      rw [if_neg Bool.false_ne_true, outcome_pure]
      constructor
      · intro h
        obtain ⟨htext, rfl⟩ := Prod.mk.inj h
        obtain rfl := Except.ok.inj htext
        exact ⟨rfl, "", .missing hp, rfl⟩
      · rintro ⟨rfl, before, h | h, rfl⟩
        · rfl
        · simp [FileTree.probe, h] at hp

/-- What has been written when the writing of a file succeeds. -/
theorem write_writes {size : Nat} (h : outcome (k.write p text) w = (.ok size, w')) :
    Writes p text.toUTF8 w.tree w'.tree ∧ size = text.toUTF8.size ∧ w'.clock = w.clock := by
  have hadmits : w.tree.Admits p := Task.writeText_succeeds_iff.1 ⟨size, w', Task.outcome_orProblem_eq_ok_iff.1 h⟩
  obtain ⟨hclock, ⟨e, he, -⟩ | ⟨hsize, hchange, hholds⟩⟩ := outcome_write_cases h
  · cases he
  · exact ⟨⟨hadmits, hchange, hholds⟩, Except.ok.inj hsize, hclock⟩

theorem write_succeeds_iff : (∃ size w', outcome (k.write p text) w = (.ok size, w')) ↔ w.tree.Admits p := by
  unfold write
  simp only [Task.outcome_orProblem_eq_ok_iff]
  exact Task.writeText_succeeds_iff

/-! ### Files that are rendered -/

/-- What a generator that renders a file reports. -/
def produced (k : ArtifactKind) (stamp : String) (r : Request) : ProducedFile :=
  ⟨k.choice, (k.outputPath stamp r).text, (k.render stamp r).toUTF8.size⟩

theorem produce_succeeds_iff (hstamp : k = .migration → w.clock.next.stamp = stamp) :
    (∃ files w', outcome (k.produce r) w = (.ok files, w')) ↔ w.tree.Admits (k.outputPath stamp r) := by
  have hfound : ∃ found w₁, outcome k.stamp w = (.ok found, w₁) ∧ k.artifact found r = k.artifact stamp r ∧
      w₁.tree = w.tree := by
    rw [outcome_stamp]
    by_cases hk : k = .migration
    · rw [if_pos hk, hstamp hk]
      exact ⟨stamp, _, rfl, rfl, rfl⟩
    · rw [if_neg hk]
      exact ⟨"", w, rfl, artifact_congr hk _ _ r, rfl⟩
  obtain ⟨found, w₁, hfound, hsame, htree⟩ := hfound
  have hpath : k.outputPath found r = k.outputPath stamp r := by
    rw [outputPath, hsame, outputPath]
  obtain ⟨output, hnote⟩ := @outcome_noteRendered w₁ k r (k.render found r)
  rw [produce_eq, outcome_bind_of_ok hfound]
  unfold publish
  rw [outcome_bind_of_ok hnote, hpath, ← htree]
  rw [← @write_succeeds_iff { w₁ with output := output } _ (k.render found r) k]
  rcases hwrite : outcome (k.write (k.outputPath stamp r) (k.render found r)) { w₁ with output := output } with
    ⟨e | size, w₂⟩
  · rw [outcome_bind_of_error hwrite]
    simp
  · rw [outcome_bind_of_ok hwrite, outcome_bind_of_ok (Task.outcome_note ..)]
    simp

theorem produce_writes (hk : k ≠ .routes) (hstamp : k = .migration → w.clock.next.stamp = stamp)
    (h : outcome (k.produce r) w = (.ok files, w')) :
    Writes (k.outputPath stamp r) (k.render stamp r).toUTF8 w.tree w'.tree ∧ files = [k.produced stamp r] ∧
      (k ≠ .migration → w'.clock = w.clock) := by
  have hadmits := (produce_succeeds_iff hstamp).1 ⟨files, w', h⟩
  have hgenerator : outcome (k.generator r) w = (.ok files, w') := by
    rwa [generator, if_neg hk]
  have hend := generator_end hstamp hgenerator
  obtain ⟨hchange, size, rfl, hwritten⟩ := hend.succeeded files rfl
  obtain ⟨rfl, hholds⟩ := hwritten hk
  exact ⟨⟨hadmits, hchange, hholds⟩, rfl, hend.clock⟩

/-! ### The routes -/

/-- What a registration that succeeds has found, and what it has done. -/
theorem register_cases (h : outcome (register r) w = (.ok files, w')) :
    w'.clock = w.clock ∧ ∃ before, w.tree.HasText (routes.outputPath "" r) before ∧
      ((r.registered? (Text.translated before) = none ∧ w'.tree = w.tree ∧
          files = [⟨.routes, (routes.outputPath "" r).text, (Text.translated before).utf8ByteSize⟩]) ∨
        ∃ content, r.registered? (Text.translated before) = some content ∧
          Writes (routes.outputPath "" r) content.toUTF8 w.tree w'.tree ∧
          files = [⟨.routes, (routes.outputPath "" r).text, content.toUTF8.size⟩]) := by
  unfold register at h
  obtain ⟨existing, w₁, hread, hrest⟩ := outcome_bind_eq_ok_iff.1 h
  obtain ⟨rfl, before, hbefore, rfl⟩ := outcome_readExisting_eq_ok_iff.1 hread
  cases hregistered : r.registered? (Text.translated before) with
  | none =>
    simp only [hregistered] at hrest
    rw [outcome_bind_of_ok (Task.outcome_note ..)] at hrest
    obtain ⟨hfiles, rfl⟩ := Prod.mk.inj hrest
    exact ⟨rfl, before, hbefore, Or.inl ⟨hregistered, rfl, (Except.ok.inj hfiles).symm⟩⟩
  | some content =>
    simp only [hregistered] at hrest
    obtain ⟨size, w₂, hwrite, hsaid⟩ := outcome_bind_eq_ok_iff.1 hrest
    rw [outcome_bind_of_ok (Task.outcome_note ..)] at hsaid
    obtain ⟨hfiles, rfl⟩ := Prod.mk.inj hsaid
    obtain ⟨hwrites, rfl, hclock⟩ := write_writes hwrite
    exact ⟨hclock, before, hbefore, Or.inr ⟨content, hregistered, hwrites, (Except.ok.inj hfiles).symm⟩⟩

theorem register_succeeds_iff : (∃ files w', outcome (register r) w = (.ok files, w')) ↔
    ∃ before, w.tree.HasText (routes.outputPath "" r) before ∧
      (r.registered? (Text.translated before) = none ∨ w.tree.Admits (routes.outputPath "" r)) := by
  constructor
  · rintro ⟨files, w', h⟩
    obtain ⟨-, before, hbefore, ⟨hnone, -⟩ | ⟨content, -, hwrites, -⟩⟩ := register_cases h
    · exact ⟨before, hbefore, Or.inl hnone⟩
    · exact ⟨before, hbefore, Or.inr hwrites.admits⟩
  · rintro ⟨before, hbefore, hrest⟩
    unfold register
    rw [outcome_bind_of_ok (outcome_readExisting_eq_ok_iff.2 ⟨rfl, before, hbefore, rfl⟩)]
    cases hregistered : r.registered? (Text.translated before) with
    | none =>
      simp only
      rw [outcome_bind_of_ok (Task.outcome_note ..)]
      exact ⟨_, _, rfl⟩
    | some content =>
      simp only
      have hadmits := hrest.resolve_left (by simp [hregistered])
      obtain ⟨size, w₁, hwrite⟩ := (@write_succeeds_iff w _ content routes).2 hadmits
      rw [outcome_bind_of_ok hwrite, outcome_bind_of_ok (Task.outcome_note ..)]
      exact ⟨_, _, rfl⟩

end ArtifactKind

/-! ### Runs of generators -/

namespace Command

variable {k : ArtifactKind} {kinds : List ArtifactKind} {r : Request} {report : Report}

/-- A task succeeds when its time is taken if it succeeds wherever the files and the clock are the same. -/
theorem timed_succeeds {task : Task (List ProducedFile)}
    (h : ∀ v : Workspace, v.tree = w.tree → v.clock = w.clock → ∃ files v', outcome task v = (.ok files, v')) :
    ∃ files w', outcome (timed k task) w = (.ok files, w') := by
  obtain ⟨v, v', hbefore, htimed, -⟩ := outcome_timed k task w
  obtain ⟨files, after, htask⟩ := h v hbefore.tree hbefore.clock
  exact ⟨files, v', by rw [htimed, htask]⟩

theorem runAll_eq_ok_iff :
    outcome (runAll r (kinds.map fun k => (k, k.generator))) w = (.ok report, w') ↔ Completes r kinds w report w' := by
  constructor
  · intro h
    rcases outcome_runAll_cases h with ⟨report', hreport, hdone⟩ | ⟨_, _, _, _, _, _, he, -⟩
    · rwa [Except.ok.inj hreport]
    · cases he
  · intro h
    induction h with
    | nil w => rfl
    | cons hfirst _ ih =>
      rw [List.map_cons, runAll, outcome_bind_of_ok hfirst, outcome_bind_of_ok ih]
      rfl

/-- A dispatch with the standard generators succeeds if all of them do. -/
theorem dispatch_eq_ok_iff {c : Command} (hstandard : c.registry = .standard) :
    outcome (c.dispatch r) w = (.ok report, w') ↔ ∃ v, Completes r (c.chosenKinds r) w report v ∧
      w' = { v with output := v.output ++ [.note ⟨.info, "crudgen.command",
        "Generated " ++ toString report.length ++ " file(s), " ++ toString report.totalSize ++ " bytes."⟩] } := by
  unfold dispatch
  rw [(chosenKinds_standard hstandard r).2, outcome_bind_eq_ok_iff]
  simp only [runAll_eq_ok_iff]
  constructor
  · rintro ⟨found, v, hdone, hsaid⟩
    rw [outcome_bind_of_ok (Task.outcome_note ..)] at hsaid
    obtain ⟨hreport, rfl⟩ := Prod.mk.inj hsaid
    obtain rfl := Except.ok.inj hreport
    exact ⟨v, hdone, rfl⟩
  · rintro ⟨v, hdone, rfl⟩
    exact ⟨report, v, hdone, outcome_bind_of_ok (Task.outcome_note ..)⟩

/-- The moment is still that of the migration while it has not been asked for. -/
theorem stamp_of_kept {stamp : String} (hfresh : k ∉ kinds) (hkept : k ≠ .migration → w'.clock = w.clock)
    (hclock : .migration ∈ k :: kinds → w.clock.next.stamp = stamp) (hm : .migration ∈ kinds) :
    w'.clock.next.stamp = stamp := by
  have hk : k ≠ .migration := by
    rintro rfl
    exact hfresh hm
  rw [hkept hk]
  exact hclock (List.mem_cons_of_mem k hm)

theorem nodup_chosenKinds {c : Command} (hstandard : c.registry = .standard) (r : Request) :
    (c.chosenKinds r).Nodup := by
  rw [(chosenKinds_standard hstandard r).1]
  exact List.Pairwise.filter _ (by decide)

end Command

end CrudScaffold
