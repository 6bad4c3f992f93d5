import CrudScaffold.Proofs.Run.Held
import CrudScaffold.Proofs.Text.Affix

/-!
# What generators change

A generator changes at most the file of its kind and makes the directories above it.  When it fails it changes no
file, and when it succeeds it reports one file.
-/

namespace CrudScaffold

open FileTree (ChangedAt)

variable {w w' : Workspace}

namespace Task

/-- Reading a text changes nothing. -/
theorem outcome_readText_cases {p : Path} {result : Except Failure String}
    (h : outcome (readText p) w = (result, w')) :
    w' = w ∧ ∀ text, result = .ok text → ∃ content written, w.tree.lookup p = .ok (.file content) ∧
      String.fromUTF8? content = some written ∧ text = .ofList (Text.withLineFeeds written.toList) := by
  unfold readText at h
  rcases hr : outcome (Storage.read p) w.tree with ⟨e | content, t⟩
  · obtain ⟨rfl, -⟩ := Storage.outcome_read_cases hr
    rw [outcome_bind_of_error (outcome_onFiles_of_error hr)] at h
    obtain ⟨rfl, rfl⟩ := Prod.mk.inj h
    exact ⟨rfl, fun _ => nofun⟩
  · obtain ⟨rfl, hlookup⟩ := Storage.outcome_read_cases hr
    rw [outcome_bind_of_ok (outcome_onFiles_of_ok hr)] at h
    cases hd : String.fromUTF8? content with
    | none =>
      simp only [hd] at h
      obtain ⟨rfl, rfl⟩ := Prod.mk.inj h
      exact ⟨rfl, fun _ => nofun⟩
    | some written =>
      simp only [hd] at h
      obtain ⟨rfl, rfl⟩ := Prod.mk.inj h
      exact ⟨rfl, fun text htext => ⟨content, written, hlookup _ rfl, hd, (Except.ok.inj htext).symm⟩⟩

/-- A text without carriage returns is read as it was written. -/
theorem outcome_readText_of_file {p : Path} {text : String} (h : w.tree.lookup p = .ok (.file text.toUTF8))
    (hreturn : '\r' ∉ text.toList) : outcome (readText p) w = (.ok text, w) := by
  have hdecode : String.fromUTF8? text.toUTF8 = some text := by
    simp only [String.fromUTF8?, String.toUTF8_eq_toByteArray, dif_pos text.isValidUTF8]
    rfl
  unfold readText
  rw [outcome_bind_of_ok (outcome_onFiles_of_ok (Storage.outcome_read_of_file h)), hdecode]
  simp only [Text.withLineFeeds_of_not_mem hreturn, String.ofList_toList]
  rfl

end Task

namespace ArtifactKind

variable {k : ArtifactKind}

/-- Reading what is there changes nothing. -/
theorem outcome_readExisting_cases {p : Path} {result : Except Failure String}
    (h : outcome (k.readExisting p) w = (result, w')) :
    w' = w ∧ ∀ text, result = .ok text → (text = "" ∧ ∀ n, w.tree.lookup p ≠ .ok n) ∨
      ∃ content written, w.tree.lookup p = .ok (.file content) ∧ String.fromUTF8? content = some written ∧
        text = .ofList (Text.withLineFeeds written.toList) := by
  have hinner {result : Except Failure String} {w' : Workspace}
      (h : outcome (do if ← Task.onFiles (Storage.exists? p) then Task.readText p else pure "" : Task String) w =
        (result, w')) :
      w' = w ∧ ∀ text, result = .ok text → (text = "" ∧ ∀ n, w.tree.lookup p ≠ .ok n) ∨
        ∃ content written, w.tree.lookup p = .ok (.file content) ∧ String.fromUTF8? content = some written ∧
          text = .ofList (Text.withLineFeeds written.toList) := by
    have hask : outcome (Storage.exists? p) w.tree = (w.tree.probe p fun _ => true, w.tree) := Storage.outcome_ask _
    cases hp : w.tree.probe p fun _ => true with
    | error e =>
      rw [hp] at hask
      rw [outcome_bind_of_error (Task.outcome_onFiles_of_error hask)] at h
      obtain ⟨rfl, rfl⟩ := Prod.mk.inj h
      exact ⟨rfl, fun _ => nofun⟩
    | ok there =>
      rw [hp] at hask
      rw [outcome_bind_of_ok (Task.outcome_onFiles_of_ok hask)] at h
      cases there with
      | true =>
        obtain ⟨rfl, htext⟩ := Task.outcome_readText_cases h
        exact ⟨rfl, fun text ht => Or.inr (htext text ht)⟩
      | false =>
        obtain ⟨rfl, rfl⟩ := Prod.mk.inj h
        refine ⟨rfl, fun text ht => Or.inl ⟨(Except.ok.inj ht).symm, fun n hn => ?_⟩⟩
        simp [FileTree.probe, hn] at hp
  rcases Task.outcome_orProblem_cases h with ⟨text, rfl, hread⟩ | ⟨e, e', rfl, hread⟩
  · exact hinner hread
  · exact ⟨(hinner hread).1, fun _ => nofun⟩

theorem outcome_readExisting_of_file {p : Path} {text : String} (h : w.tree.lookup p = .ok (.file text.toUTF8))
    (hreturn : '\r' ∉ text.toList) : outcome (k.readExisting p) w = (.ok text, w) := by
  have hthere : outcome (Storage.exists? p) w.tree = (.ok true, w.tree) := by
    rw [show Storage.exists? p = Storage.ask _ from rfl, Storage.outcome_ask]
    simp [FileTree.probe, h]
  unfold readExisting Task.orProblem
  refine outcome_tryCatch_of_ok ?_
  rw [outcome_bind_of_ok (Task.outcome_onFiles_of_ok hthere)]
  exact Task.outcome_readText_of_file h hreturn

/-- How the writing of a file ends. -/
theorem outcome_write_cases {p : Path} {text : String} {result : Except Failure Nat}
    (h : outcome (k.write p text) w = (result, w')) :
    w'.clock = w.clock ∧
      ((∃ e, result = .error e ∧ ChangedAt (·.IsAbove p) (fun _ => False) w.tree w'.tree) ∨
        (result = .ok text.toUTF8.size ∧ ChangedAt (·.IsAbove p) (· = p) w.tree w'.tree ∧
          w'.tree.lookup p = .ok (.file text.toUTF8))) := by
  rcases Task.outcome_orProblem_cases h with ⟨size, rfl, hwrite⟩ | ⟨e, e', rfl, hwrite⟩
  · obtain ⟨hclock, ⟨e, herror, -⟩ | ⟨hok, hrest⟩⟩ := Task.outcome_writeText_cases hwrite
    · cases herror
    · exact ⟨hclock, Or.inr ⟨hok, hrest⟩⟩
  · obtain ⟨hclock, ⟨e, -, hchange⟩ | ⟨hok, -⟩⟩ := Task.outcome_writeText_cases hwrite
    · exact ⟨hclock, Or.inl ⟨_, rfl, hchange⟩⟩
    · cases hok

theorem outcome_noteRendered (r : Request) (text : String) :
    ∃ output, outcome (k.noteRendered r text) w = (.ok ⟨⟩, { w with output := output }) := by
  unfold noteRendered
  split
  · exact ⟨_, Task.outcome_note ..⟩
  · exact ⟨_, outcome_pure _⟩

variable {r : Request}

/-- How the generator of a kind ends, when the stamp of the run is the one that the clock shows. -/
structure GeneratorEnd (k : ArtifactKind) (stamp : String) (r : Request) (w : Workspace)
    (result : Except Failure (List ProducedFile)) (w' : Workspace) : Prop where
  clock : k ≠ .migration → w'.clock = w.clock
  failed : ∀ e, result = .error e → ChangedAt (·.IsAbove (k.outputPath stamp r)) (fun _ => False) w.tree w'.tree
  succeeded : ∀ files, result = .ok files →
    ChangedAt (·.IsAbove (k.outputPath stamp r)) (· = k.outputPath stamp r) w.tree w'.tree ∧
      ∃ size : Int, files = [⟨k.choice, (k.outputPath stamp r).text, size⟩] ∧
        (k ≠ .routes → size = (k.render stamp r).toUTF8.size ∧
          w'.tree.lookup (k.outputPath stamp r) = .ok (.file (k.render stamp r).toUTF8))

/-- The stamp that a generator finds is as good as the stamp of the run. -/
theorem outcome_stamp_same {stamp : String} (hstamp : k = .migration → w.clock.next.stamp = stamp) :
    ∃ found w₁, outcome k.stamp w = (.ok found, w₁) ∧ k.artifact found r = k.artifact stamp r ∧
      w₁.tree = w.tree ∧ (k ≠ .migration → w₁.clock = w.clock) := by
  rw [outcome_stamp]
  by_cases hk : k = .migration
  · rw [if_pos hk, hstamp hk]
    exact ⟨stamp, _, rfl, rfl, rfl, fun h => absurd hk h⟩
  · rw [if_neg hk]
    exact ⟨"", w, rfl, artifact_congr hk _ _ r, rfl, fun _ => rfl⟩

private theorem produce_end {stamp : String} (hstamp : k = .migration → w.clock.next.stamp = stamp)
    {result : Except Failure (List ProducedFile)} (h : outcome (k.produce r) w = (result, w')) :
    GeneratorEnd k stamp r w result w' := by
  obtain ⟨found, w₁, hfound, hsame, htree, hclock⟩ := @outcome_stamp_same w k r stamp hstamp
  have hpathSame : k.outputPath found r = k.outputPath stamp r := by
    rw [outputPath, hsame, outputPath]
  have hrenderSame : k.render found r = k.render stamp r := by
    rw [render, hsame, render]
  obtain ⟨output, hnote⟩ := @outcome_noteRendered w₁ k r (k.render found r)
  rw [produce_eq, outcome_bind_of_ok hfound] at h
  unfold publish at h
  rw [outcome_bind_of_ok hnote, hpathSame, hrenderSame] at h
  rcases hw : outcome (k.write (k.outputPath stamp r) (k.render stamp r)) { w₁ with output := output } with
    ⟨e | size, w₂⟩
  · rw [outcome_bind_of_error hw] at h
    obtain ⟨rfl, rfl⟩ := Prod.mk.inj h
    obtain ⟨hclock', ⟨e', he, hchange⟩ | ⟨hok, -⟩⟩ := outcome_write_cases hw
    · exact ⟨fun hk => hclock'.trans (hclock hk), fun _ _ => htree ▸ hchange, fun _ => nofun⟩
    · cases hok
  · rw [outcome_bind_of_ok hw, outcome_bind_of_ok (Task.outcome_note ..)] at h
    obtain ⟨rfl, rfl⟩ := Prod.mk.inj h
    obtain ⟨hclock', ⟨e', he, -⟩ | ⟨hok, hchange, hlookup⟩⟩ := outcome_write_cases hw
    · cases he
    · obtain rfl := Except.ok.inj hok
      refine ⟨fun hk => hclock'.trans (hclock hk), fun _ => nofun, fun files hfiles => ?_⟩
      exact ⟨htree ▸ hchange, _, (Except.ok.inj hfiles).symm, fun _ => ⟨rfl, hlookup⟩⟩

private theorem register_end (stamp : String) {result : Except Failure (List ProducedFile)}
    (h : outcome (register r) w = (result, w')) : GeneratorEnd .routes stamp r w result w' := by
  unfold register at h
  rw [show routes.outputPath "" r = routes.outputPath stamp r from rfl] at h
  rcases hr : outcome (routes.readExisting (routes.outputPath stamp r)) w with ⟨e | existing, w₁⟩
  · obtain ⟨rfl, -⟩ := outcome_readExisting_cases hr
    rw [outcome_bind_of_error hr] at h
    obtain ⟨rfl, rfl⟩ := Prod.mk.inj h
    exact ⟨fun _ => rfl, fun _ _ => .refl _, fun _ hno => (by cases hno)⟩
  · obtain ⟨rfl, -⟩ := outcome_readExisting_cases hr
    rw [outcome_bind_of_ok hr] at h
    cases hreg : r.registered? existing with
    | none =>
      simp only [hreg] at h
      rw [outcome_bind_of_ok (Task.outcome_note ..)] at h
      obtain ⟨rfl, rfl⟩ := Prod.mk.inj h
      refine ⟨fun _ => rfl, fun _ hno => (by cases hno), fun files hfiles => ?_⟩
      exact ⟨.refl _, _, (Except.ok.inj hfiles).symm, fun hk => absurd rfl hk⟩
    | some content =>
      simp only [hreg] at h
      rcases hw : outcome (routes.write (routes.outputPath stamp r) content) w₁ with ⟨e | size, w₂⟩
      · rw [outcome_bind_of_error hw] at h
        obtain ⟨rfl, rfl⟩ := Prod.mk.inj h
        obtain ⟨hclock, ⟨e', -, hchange⟩ | ⟨hok, -⟩⟩ := outcome_write_cases hw
        · exact ⟨fun _ => hclock, fun _ _ => hchange, fun _ hno => (by cases hno)⟩
        · cases hok
      · rw [outcome_bind_of_ok hw, outcome_bind_of_ok (Task.outcome_note ..)] at h
        obtain ⟨rfl, rfl⟩ := Prod.mk.inj h
        obtain ⟨hclock, ⟨e', he, -⟩ | ⟨-, hchange, -⟩⟩ := outcome_write_cases hw
        · cases he
        · refine ⟨fun _ => hclock, fun _ hno => (by cases hno), fun files hfiles => ?_⟩
          exact ⟨hchange, _, (Except.ok.inj hfiles).symm, fun hk => absurd rfl hk⟩

/-- Every generator ends in one of the two ways. -/
theorem generator_end {stamp : String} (hstamp : k = .migration → w.clock.next.stamp = stamp)
    {result : Except Failure (List ProducedFile)} (h : outcome (k.generator r) w = (result, w')) :
    GeneratorEnd k stamp r w result w' := by
  unfold generator at h
  by_cases hk : k = .routes
  · rw [if_pos hk] at h
    exact hk ▸ register_end stamp h
  · rw [if_neg hk] at h
    exact produce_end hstamp h

end ArtifactKind

end CrudScaffold
