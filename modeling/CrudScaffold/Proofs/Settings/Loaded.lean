import CrudScaffold.Proofs.Settings.Accepts
import CrudScaffold.Proofs.Settings.Precedence

/-!
# What loaded settings promise

Settings that are loaded from a mapping have their default group among their groups, and `all` stands for options only.
Their groups are those of the mapping, each as it is written last, and the built-in one if it was put to them
(`load_loaded`).  So a run that names no group has one, and neither its group nor what `all` stands for can fail it.
-/

namespace CrudScaffold

open Text (Symbol Symbols)

variable {c : Command} {a : Arguments}

/-! ### Runs whose group is known -/

/-- Whatever else fails a run, a group that is known does not. -/
theorem Command.inputs_ne_unknownGroup {name : Symbols} (h : c.group a = .ok name) (other : Symbols) :
    c.inputs a ≠ .error (.problem (.unknownGroup other)) := by
  intro hinputs
  unfold inputs at hinputs
  simp only [bind_eq_error_iff, mapError_eq_error_iff] at hinputs
  -- the five checks in their order
  obtain ⟨p, hmodel, hp⟩ | ⟨_, -, ⟨p, hgroup, -⟩ | ⟨_, -, ⟨e, -, he⟩ | ⟨_, -, hselection | ⟨_, -, fs, -, hfs⟩⟩⟩⟩ :=
    hinputs
  · obtain rfl := Failure.problem.inj hp
    unfold modelName at hmodel
    split at hmodel
    · cases hmodel
    split at hmodel <;> cases hmodel
  · cases h.symm.trans hgroup
  · cases he
  · unfold selection at hselection
    split at hselection <;> cases hselection
  · cases hfs

namespace Settings

variable {reader : Reader} {w : Workspace} {file directory : Option Path} {entries groups : List (Scalar × Value)}
  {s : Settings}

/-- The groups of settings are the ones that a mapping has, and the built-in one if it was put to them. -/
structure HasGroupsOf (entries groups : List (Scalar × Value)) (s : Settings) : Prop where
  mem_keys_iff (name : Symbols) : name ∈ s.groups.keys ↔
    (∃ e ∈ groups, e.1.name = name) ∨ name = Symbol.ofString "default" ∧ NamesBuiltIn entries
  /-- Every group is as it is written last. -/
  written (name : Symbols) (v : Value) : lastUnder name groups = some v →
    SettlesGroup v ∧ s.groups.get? name = some (groupOf v)
  builtIn : NamesBuiltIn entries → (∀ e ∈ groups, e.1.name ≠ Symbol.ofString "default") →
    s.groups.get? (Symbol.ofString "default") = some ⟨some ".", some "app"⟩

/-- No run that has the settings fails by a group that it does not name, or by what `all` stands for. -/
structure Serves (s : Settings) : Prop where
  hasGroup_iff (name : Symbols) : s.hasGroup name = true ↔ name ≠ [] ∧ name ∈ s.groups.keys
  unnamed (c : Command) (a : Arguments) : c.settings = s → a.group = none ∨ a.group = some [] →
    c.group a = .ok s.defaultName ∧ ∀ name, c.inputs a ≠ .error (.problem (.unknownGroup name)) ∧
      c.request a ≠ .error (.problem (.unknownGroup name))
  selection (c : Command) (a : Arguments) : c.settings = s → (∀ flag ∈ a.flags, Choice.IsOptionName flag.1) →
    ∃ selection, c.selection a = .ok selection

/-- What settings promise that were loaded from a mapping. -/
structure Loaded (entries : List (Scalar × Value)) (s : Settings) : Prop where
  default_mem : s.defaultName ∈ s.groups.keys
  generates : ∀ o ∈ s.generates, o ∈ Choice.options ∧ o ≠ .all
  groups (groups : List (Scalar × Value)) : Value.find? "groups" entries = some (.mapping groups) →
    HasGroupsOf entries groups s
  serves : Serves s

/-- Settings serve every run if their default group has a name and is one of the groups. -/
theorem serves_of_default (hne : s.defaultGroup ≠ "") (hmem : s.defaultName ∈ s.groups.keys) : Serves s := by
  have hgroup (name : Symbols) : s.hasGroup name = true ↔ name ≠ [] ∧ name ∈ s.groups.keys := by
    simp only [hasGroup, Bool.and_eq_true, Bool.or_eq_true, decide_eq_true_eq, List.contains_iff_mem, beq_iff_eq]
    refine and_congr_right fun _ => or_iff_left_of_imp ?_
    rintro rfl
    exact hmem
  refine ⟨hgroup, ?_, fun c _ _ hflags => c.exists_selection hflags⟩
  rintro c a rfl hnone
  have hname : c.groupName a = c.settings.defaultName := by
    unfold Command.groupName
    rcases hnone with hnone | hnone <;> simp [hnone]
  have hdefault : c.group a = .ok c.settings.defaultName :=
    Command.group_eq_ok_iff.2 ⟨hname.symm, (hgroup _).2 ⟨mt Symbol.ofString_eq_nil_iff.1 hne, hmem⟩⟩
  have hinputs := Command.inputs_ne_unknownGroup hdefault
  exact ⟨hdefault, fun name => ⟨hinputs name, mt Command.inputs_of_request_eq_problem (hinputs name)⟩⟩

/-! ### What is read from a mapping -/

private theorem isOption_of_mem_generates {o : Choice} (h : o ∈ (ofEntries entries).generates) :
    o ∈ Choice.options ∧ o ≠ .all := by
  change o ∈ ((Value.find? "default_generates" entries).map generatesOf).getD fallbackGenerates at h
  cases hfind : Value.find? "default_generates" entries with
  | none =>
    have hfallback : ∀ o ∈ fallbackGenerates, o ∈ Choice.options ∧ o ≠ .all := by decide
    rw [hfind] at h
    exact hfallback o h
  | some v =>
    rw [hfind] at h
    exact isOption_of_mem_generatesOf h

private theorem defaultGroup_ne_empty (h : PartIs "default_path_group" IsName entries) :
    (ofEntries entries).defaultGroup ≠ "" := by
  change ((Value.find? "default_path_group" entries).map nameOf).getD fallbackGroup ≠ ""
  cases hfind : Value.find? "default_path_group" entries with
  | none => decide
  | some v =>
    obtain ⟨name, htext, hne⟩ := h v hfind
    simpa [nameOf, htext] using hne

private theorem hasGroupsOf_filled (h : IsGroups (.mapping (completeGroups entries groups))) :
    HasGroupsOf entries groups (ofEntries (filled entries groups)) := by
  have hget (name : Symbols) := get?_groupsOf_completeGroups name entries groups
  refine ⟨fun name => ?_, fun name v hlast => ?_, fun hbuiltIn hnone => ?_⟩
  · rw [groups_ofEntries_filled, mem_keys_groupsOf_completeGroups]
  · rw [groups_ofEntries_filled, hget, hlast]
    exact ⟨isGroups_completeGroups_iff.1 h _ v hlast, rfl⟩
  · have hlast : lastUnder (Symbol.ofString "default") groups = none := by
      rw [← Option.not_isSome_iff_eq_none, isSome_lastUnder_iff]
      rintro ⟨e, he, hkey⟩
      exact hnone e he hkey
    rw [groups_ofEntries_filled, hget, hlast, if_pos ⟨rfl, hbuiltIn⟩]
    rfl

/-- What passes the checks has the groups of the mapping, and serves every run. -/
private theorem loaded_of_ofDocument {path : String} (h : ofDocument path (.mapping entries) = .ok s) :
    Loaded entries s := by
  rcases ofDocument_eq_ok_iff.1 h with ⟨hnone, hcheck⟩ | ⟨groups, hgroups, -, hcheck⟩
  · obtain ⟨hset, hdefault, rfl⟩ := check_eq_ok_iff.1 hcheck
    exact ⟨hdefault, fun o => isOption_of_mem_generates, fun groups hgroups => absurd (hnone.symm.trans hgroups) nofun,
      serves_of_default (defaultGroup_ne_empty hset.name) hdefault⟩
  · obtain ⟨hset, hdefault, rfl⟩ := check_eq_ok_iff.1 hcheck
    refine ⟨hdefault, fun o => isOption_of_mem_generates, fun found hfound => ?_,
      serves_of_default (defaultGroup_ne_empty hset.name) hdefault⟩
    obtain rfl := Value.mapping.inj (Option.some.inj (hgroups.symm.trans hfound))
    exact hasGroupsOf_filled (hset.groups _ find?_groups_filled)

/-- Settings that are loaded from a mapping have its groups, each as it is written last, and the built-in one just when
runs that name no group need it.  No run that has the settings fails by a group that it does not name, or by what `all`
stands for. -/
theorem load_loaded (h : HoldsMapping reader w file directory entries)
    (hs : (outcome (loadWith reader file directory) w).1 = .ok s) : Loaded entries s := by
  rw [fst_outcome_loadWith_of_mapping h] at hs
  exact loaded_of_ofDocument hs

/-- Settings with a default group of their own, and with a group whose name and root are surrogates. -/
def surrogateEntries : List (Scalar × Value) :=
  [(.text "default_path_group", .text "admin"),
    (.text "groups", .mapping
      [(.text "admin", .mapping [(.text "plugin_path", .text "lib")]),
        (.brokenText [.surrogate 0xdcff],
          .mapping [(.text "plugin_path", .scalar (.brokenText [.surrogate 0xd83d]))])])]

def surrogateText : String :=
  adminText ++ "  \"\\udcff\":\n    plugin_path: \"\\ud83d\"\n"

/-- A default group that is named, so that the built-in one is not needed, and a group of surrogates. -/
theorem load_loaded_of_admin :
    HoldsMapping yaml (holding surrogateText.toUTF8) none none surrogateEntries ∧
      ∃ s, (outcome (load none none) (holding surrogateText.toUTF8)).1 = .ok s ∧
        s.groups.get? (Symbol.ofString "admin") = some ⟨some "lib", none⟩ ∧
        s.groups.get? [.surrogate 0xdcff] = some ⟨some [.surrogate 0xd83d], none⟩ ∧
        Symbol.ofString "default" ∉ s.groups.keys := by
  have hholds : HoldsMapping yaml (holding surrogateText.toUTF8) none none surrogateEntries :=
    holdsMapping_of_same (by decide +kernel) (by decide +kernel)
  have hloads : ((outcome (load none none) (holding surrogateText.toUTF8)).1.toOption.any fun _ => true) = true := by
    rw [load, fst_outcome_loadWith_of_mapping hholds]
    decide +kernel
  obtain ⟨s, hs, -⟩ := exists_of_any_toOption hloads
  have hgroups := (load_loaded hholds hs).groups _ rfl
  have hadmin := (hgroups.written (Symbol.ofString "admin") _ rfl).2
  have hsurrogate := (hgroups.written [.surrogate 0xdcff] _ rfl).2
  refine ⟨hholds, s, hs, hadmin, hsurrogate, fun hdefault => ?_⟩
  rcases (hgroups.mem_keys_iff _).1 hdefault with ⟨e, he, hkey⟩ | ⟨-, hbuiltIn⟩
  · rcases List.mem_cons.1 he with rfl | he
    · exact absurd hkey (by decide)
    · obtain rfl := List.mem_singleton.1 he
      exact absurd hkey (by decide)
  · exact absurd (hbuiltIn _ rfl) (by simp)

end Settings

end CrudScaffold
