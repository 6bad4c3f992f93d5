import CrudScaffold.Proofs.Run.Success
import CrudScaffold.Settings.Load

/-!
# How the loading of settings ends

A file of settings is decoded, read as a document, completed and checked.  What the format's rules or the checks refuse
becomes a problem of the configuration.  Bytes that are no text, a scalar that stands for no value, and a group that is
named by an integer too long to be written do not, so that loading ends with settings or with such a problem exactly
when the file has none of these (`load_reports_iff`).  What is said of loading holds with any reader in place of the
usual one.
-/

namespace CrudScaffold

/-- The failure is reported as a problem of the configuration, with the status that is kept for those. -/
def Failure.IsConfiguration (f : Failure) : Prop :=
  ∃ p, f.problem? = some p ∧ (∃ text, p = .configuration text none) ∧ p.status = 4

namespace Settings

variable {reader : Reader} {w : Workspace} {p : Path} {entries : List (Scalar × Value)} {v : Value} {text : String}

/-- The end of a loading: settings, or a problem of the configuration. -/
def Reports (result : Except Failure Settings) : Prop :=
  ∀ f, result = .error f → f.IsConfiguration

/-- No group of the document is named by an integer that has too many digits to be written. -/
def NamesGroups (v : Value) : Prop :=
  ∀ entries groups, v = .mapping entries → Value.find? "groups" entries = some (.mapping groups) →
    ∀ n group, (Scalar.int n, group) ∈ groups → n.natAbs < Number.tenTo Yaml.maxDigits

/-- Bytes that are the encoding of a text which either breaks the rules of the format or holds a document whose groups
have names. -/
def Readable (reader : Reader) (content : ByteArray) : Prop :=
  ∃ text : String, content = text.toUTF8 ∧
    (reader (Text.translated text) = .error .malformed ∨
      ∃ v, reader (Text.translated text) = .ok v ∧ NamesGroups v)

/-- The file that settings are loaded from: the one that is named, or else that of the usual name in a directory. -/
def source (file directory : Option Path) (home : Location) : Path :=
  file.getD ((directory.getD ⟨.root, home⟩).join (.ofText fileName))

/-- The file that settings are loaded from holds a document that is a mapping. -/
def HoldsMapping (reader : Reader) (w : Workspace) (file directory : Option Path)
    (entries : List (Scalar × Value)) : Prop :=
  ∃ text, w.tree.lookup (source file directory w.tree.home) = .ok (.file text.toUTF8) ∧
    reader (Text.translated text) = .ok (.mapping entries)

/-! ### Failures -/

private theorem isConfiguration_problem (text : String) : (Failure.problem (.configuration text none)).IsConfiguration :=
  ⟨_, rfl, ⟨text, rfl⟩, rfl⟩

private theorem isConfiguration_settings (path : String) (fs : List Fault) :
    (Failure.settings path fs).IsConfiguration :=
  ⟨_, rfl, ⟨_, rfl⟩, rfl⟩

private theorem not_isConfiguration_document (e : Yaml.Error) : ¬ (Failure.document e).IsConfiguration := by
  rintro ⟨p, hp, -⟩
  cases hp

private theorem reports_ok (s : Settings) : Reports (.ok s) := fun _ h => by cases h

theorem reports_error_iff {f : Failure} : Reports (.error f) ↔ f.IsConfiguration :=
  ⟨fun h => h f rfl, fun h _ hg => Except.error.inj hg ▸ h⟩

/-! ### Documents -/

/-- A document whose groups are left out, or are no mapping, names none. -/
theorem namesGroups_of_find? (h : ∀ groups, Value.find? "groups" entries ≠ some (.mapping groups)) :
    NamesGroups (.mapping entries) := by
  intro _ groups hv hgroups
  obtain rfl := Value.mapping.inj hv
  exact absurd hgroups (h groups)

theorem namesGroups_iff {groups : List (Scalar × Value)}
    (h : Value.find? "groups" entries = some (.mapping groups)) :
    NamesGroups (.mapping entries) ↔ tooLong? groups = false := by
  simp only [tooLong?, List.any_eq_false]
  constructor
  · rintro hnames ⟨key, group⟩ hmem
    cases key with
    | int n => exact fun hlong => absurd (of_decide_eq_true hlong) (not_le.2 (hnames entries groups rfl h n group hmem))
    | _ => simp
  · intro hshort _ found hv hfound n group hmem
    obtain rfl := Value.mapping.inj hv
    rw [h] at hfound
    obtain rfl := Value.mapping.inj (Option.some.inj hfound)
    exact not_le.1 fun hlong => hshort _ hmem (decide_eq_true hlong)

/-- Completing the groups fails for the name of a group, or with a problem that is reported. -/
private theorem complete_cases (entries : List (Scalar × Value)) :
    (NamesGroups (.mapping entries) ∧ ∀ f, complete entries = .error f → f.IsConfiguration) ∨
      (¬ NamesGroups (.mapping entries) ∧ complete entries = .error (.document .tooLong)) := by
  have hother {found : Option Value} (hfind : Value.find? "groups" entries = found)
      (h : ∀ groups, found ≠ some (.mapping groups)) : NamesGroups (.mapping entries) :=
    namesGroups_of_find? fun groups => hfind ▸ h groups
  unfold complete
  split
  · rename_i hfind
    exact Or.inl ⟨hother hfind (by simp), fun _ hf => by cases hf⟩
  · rename_i hfind
    exact Or.inl ⟨hother hfind (by simp), fun _ hf => by cases hf⟩
  · rename_i groups hfind
    rw [namesGroups_iff hfind]
    split
    · rename_i hlong
      exact Or.inr ⟨Bool.not_eq_false _ ▸ hlong, rfl⟩
    · rename_i hshort
      exact Or.inl ⟨Bool.eq_false_iff.2 hshort, fun _ hf => by cases hf⟩
  · rename_i found hnull hmapping hfind
    refine Or.inl ⟨hother hfind fun groups hgroups => ?_, fun f hf => ?_⟩
    · exact hmapping groups (Option.some.inj hgroups)
    · obtain rfl := Except.error.inj hf
      exact isConfiguration_problem _

theorem ofDocument_mapping (path : String) (entries : List (Scalar × Value)) :
    ofDocument path (.mapping entries) = complete entries >>= fun completed =>
      (check (.mapping completed)).mapError (Failure.settings path) := by
  unfold ofDocument
  simp only [pure_bind]
  congr
  funext completed
  cases check (.mapping completed) <;> rfl

/-- The settings of a mapping are found or a problem is reported, unless a group has no name. -/
theorem reports_ofDocument_mapping_iff (path : String) (entries : List (Scalar × Value)) :
    Reports (ofDocument path (.mapping entries)) ↔ NamesGroups (.mapping entries) := by
  rw [ofDocument_mapping]
  obtain ⟨hnames, hcomplete⟩ | ⟨hnames, hcomplete⟩ := complete_cases entries
  · refine iff_of_true ?_ hnames
    cases hc : complete entries with
    | error f => exact reports_error_iff.2 (hcomplete f hc)
    | ok completed =>
      change Reports ((check (.mapping completed)).mapError (Failure.settings path))
      cases check (.mapping completed) with
      | ok s => exact reports_ok s
      | error fs => exact reports_error_iff.2 (isConfiguration_settings path fs)
  · rw [hcomplete]
    exact iff_of_false (fun h => not_isConfiguration_document _ (reports_error_iff.1 h)) hnames

/-- Whatever the shape of a document, its settings are found or a problem is reported, unless a group has no name. -/
private theorem reports_ofDocument_iff (path : String) (v : Value) : Reports (ofDocument path v) ↔ NamesGroups v := by
  have hnot (h : ∀ entries, v ≠ .mapping entries) : NamesGroups v := fun entries _ hv => absurd hv (h entries)
  cases v with
  | mapping entries => exact reports_ofDocument_mapping_iff path entries
  | list | pair | set => exact iff_of_true (reports_error_iff.2 (isConfiguration_problem _)) (hnot (by simp))
  | scalar s =>
    refine iff_of_true ?_ (hnot (by simp))
    cases s with
    | null => exact (reports_ofDocument_mapping_iff path []).2 (namesGroups_of_find? (by simp [Value.find?]))
    | _ => exact reports_error_iff.2 (isConfiguration_problem _)

/-- The settings in a text are found or a problem is reported, if the text can be read as far as that. -/
private theorem reports_ofText_iff (path text : String) :
    Reports (ofText reader path text) ↔ reader text = .error .malformed ∨
      ∃ v, reader text = .ok v ∧ NamesGroups v := by
  unfold ofText
  split
  · rename_i v hread
    rw [reports_ofDocument_iff, hread]
    simp
  · rename_i hread
    exact iff_of_true (reports_error_iff.2 (isConfiguration_problem _)) (Or.inl hread)
  · rename_i e hmalformed hread
    rw [hread]
    refine iff_of_false (fun h => not_isConfiguration_document _ (reports_error_iff.1 h)) ?_
    rintro (h | ⟨v, h, -⟩)
    · exact hmalformed (Except.error.inj h)
    · cases h

/-! ### Files -/

private theorem fst_outcome_read {content : ByteArray} (h : w.tree.lookup p = .ok (.file content)) :
    (outcome (read reader p) w).1 =
      match String.fromUTF8? content with
      | some text => ofText reader p.text (Text.translated text)
      | none => .error .undecodable := by
  have hbytes := Task.outcome_onFiles_of_ok (Storage.outcome_read_of_file h)
  unfold read
  cases hdecode : String.fromUTF8? content with
  | none =>
    have htext : outcome (Task.readText p) w = (.error .undecodable, w) := by
      unfold Task.readText
      rw [outcome_bind_of_ok hbytes, hdecode]
      rfl
    have hfails (describe : FileError → Problem) :
        outcome (Task.orProblem describe (Task.readText p)) w = (.error .undecodable, w) :=
      outcome_tryCatch_of_error htext
    rw [outcome_bind_of_error (hfails _)]
  | some text =>
    have htext : outcome (Task.readText p) w = (.ok (Text.translated text), w) :=
      Task.outcome_readText_eq_ok_iff.2 ⟨rfl, text, fromUTF8?_eq_some_iff.1 hdecode ▸ h, rfl⟩
    rw [outcome_bind_of_ok (Task.outcome_orProblem_eq_ok_iff.2 htext)]
    simp only
    generalize ofText reader p.text (Text.translated text) = result
    cases result <;> rfl

private theorem source_some (p : Path) (directory : Option Path) (home : Location) : source (some p) directory home = p :=
  rfl

private theorem source_directory (d : Path) (home : Location) : source none (some d) home = d.join (.ofText fileName) :=
  rfl

private theorem source_none (home : Location) : source none none home = Path.join ⟨.root, home⟩ (.ofText fileName) :=
  rfl

/-- A file that exists is read, however it was found. -/
private theorem outcome_loadWith {file directory : Option Path} {content : ByteArray}
    (h : w.tree.lookup (source file directory w.tree.home) = .ok (.file content)) :
    outcome (loadWith reader file directory) w = outcome (read reader (source file directory w.tree.home)) w := by
  have hthere : outcome (Task.onFiles (Storage.isFile (source file directory w.tree.home))) w = (.ok true, w) := by
    refine Task.outcome_onFiles_of_ok ?_
    rw [Storage.isFile, Storage.outcome_ask]
    simp [FileTree.probe, h]
  unfold loadWith
  cases file with
  | some p =>
    rw [source_some] at hthere ⊢
    rw [outcome_bind_of_ok hthere, if_pos rfl]
  | none =>
    cases directory with
    | some d =>
      rw [source_directory] at hthere ⊢
      simp only [pure_bind]
      rw [outcome_bind_of_ok hthere, if_pos rfl]
    | none =>
      have hhome : outcome currentDirectory w = (.ok ⟨.root, w.tree.home⟩, w) := rfl
      rw [source_none] at hthere ⊢
      rw [outcome_bind_of_ok hhome, outcome_bind_of_ok hthere, if_pos rfl]

/-- The settings of a file that holds a mapping are those of the mapping. -/
theorem fst_outcome_loadWith_of_mapping {file directory : Option Path}
    (h : HoldsMapping reader w file directory entries) :
    (outcome (loadWith reader file directory) w).1 =
      ofDocument (source file directory w.tree.home).text (.mapping entries) := by
  obtain ⟨text, hfile, hread⟩ := h
  rw [outcome_loadWith hfile, fst_outcome_read hfile, fromUTF8?_eq_some_iff.2 rfl]
  simp only [ofText, hread]

/-- Loading from a file that exists ends with settings or with a problem of the configuration exactly when the file can
be read: its bytes are the encoding of a text that breaks the rules of the format or holds a document, whose groups
have names. -/
theorem load_reports_iff (reader : Reader) {file directory : Option Path} {content : ByteArray}
    (hfile : w.tree.lookup (source file directory w.tree.home) = .ok (.file content)) :
    Reports (outcome (loadWith reader file directory) w).1 ↔ Readable reader content := by
  rw [outcome_loadWith hfile, fst_outcome_read hfile]
  unfold Readable
  cases hdecode : String.fromUTF8? content with
  | none =>
    refine iff_of_false ?_ ?_
    · rintro h
      obtain ⟨p, hp, -⟩ := reports_error_iff.1 h
      cases hp
    · rintro ⟨text, htext, -⟩
      rw [fromUTF8?_eq_some_iff.2 htext] at hdecode
      cases hdecode
  | some text =>
    rw [reports_ofText_iff]
    constructor
    · exact fun h => ⟨text, fromUTF8?_eq_some_iff.1 hdecode, h⟩
    · rintro ⟨other, hother, h⟩
      rw [fromUTF8?_eq_some_iff.2 hother] at hdecode
      rwa [← Option.some.inj hdecode]

/-- A workspace whose only file has the given bytes and stands where settings are looked for. -/
def holding (content : ByteArray) : Workspace :=
  ⟨⟨["home"], [(["home", fileName], .file content)]⟩, ⟨⟨⟨2024, 1, 2⟩, 3, 4, 5, 6⟩, []⟩, ⟨0, []⟩, []⟩

/-- A document that leaves the groups out. -/
private def leavesGroups : Value → Bool
  | .mapping entries => (Value.find? "groups" entries).isNone
  | _ => false

private theorem namesGroups_of_leavesGroups (h : leavesGroups v = true) : NamesGroups v := by
  cases v with
  | mapping entries => exact namesGroups_of_find? (by simp [Option.isNone_iff_eq_none.1 h])
  | _ => cases h

/-- Settings that choose one artifact by default are loaded by the usual reader. -/
theorem load_reports_of_choice :
    let text := "default_generates: [seeder]\n"
    let w := holding text.toUTF8
    w.tree.lookup (source none none w.tree.home) = .ok (.file text.toUTF8) ∧
      Reports (outcome (load none none) w).1 ∧
      ∃ s, (outcome (load none none) w).1 = .ok s ∧ s.generates = [.seeder] := by
  intro text w
  have hfile : w.tree.lookup (source none none w.tree.home) = .ok (.file text.toUTF8) := by decide +kernel
  obtain ⟨v, hread, hleaves⟩ := exists_of_any_toOption
    (show ((yaml (Text.translated text)).toOption.any leavesGroups) = true by decide +kernel)
  obtain ⟨s, hs, hgenerates⟩ := exists_of_any_toOption
    (show ((outcome (load none none) w).1.toOption.any fun s => decide (s.generates = [.seeder])) = true by
      decide +kernel)
  exact ⟨hfile, (load_reports_iff yaml hfile).2 ⟨text, rfl, Or.inr ⟨v, hread, namesGroups_of_leavesGroups hleaves⟩⟩,
    s, hs, of_decide_eq_true hgenerates⟩

/-- A failure without a problem is no problem of the configuration. -/
private theorem not_reports_of_isNone {result : Except Failure Settings}
    (h : (match result with
      | .error f => f.problem?.isNone
      | .ok _ => false) = true) : ¬ Reports result := by
  cases result with
  | ok s => cases h
  | error f =>
    intro hreports
    obtain ⟨p, hp, -⟩ := reports_error_iff.1 hreports
    simp [hp] at h

/-- A byte that no text begins with, and a date in a month that there is not: neither is reported as a problem of the
configuration. -/
theorem not_reports_of_month :
    let undecodable := ByteArray.mk #[0xff]
    let month := "generate: 2024-13-01\n".toUTF8
    (holding undecodable).tree.lookup (source none none ["home"]) = .ok (.file undecodable) ∧
      ¬ Reports (outcome (load none none) (holding undecodable)).1 ∧
      (holding month).tree.lookup (source none none ["home"]) = .ok (.file month) ∧
      ¬ Reports (outcome (load none none) (holding month)).1 := by
  refine ⟨?_, not_reports_of_isNone ?_, ?_, not_reports_of_isNone ?_⟩
  · decide +kernel
  · decide +kernel
  · decide +kernel
  · decide +kernel

end Settings

end CrudScaffold
