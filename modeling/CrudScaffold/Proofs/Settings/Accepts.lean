import CrudScaffold.Proofs.Settings.Complete
import CrudScaffold.Proofs.Settings.Load

/-!
# Which settings are accepted

A mapping becomes settings just when its keys are known, its parts have the shapes that are checked, and its default
group is one of its groups or the built-in one (`load_accepts_iff`).  Every mapping is accepted that settings are
described by, but for groups that are null and names that are no texts (`Documented.accepted`).
-/

namespace CrudScaffold

namespace Settings

open Text (Symbol)

variable {reader : Reader} {w : Workspace} {file directory : Option Path} {entries groups : List (Scalar × Value)}
  {s : Settings} {path : String}

/-- The name of the default group. -/
def defaultNameOf (entries : List (Scalar × Value)) : String :=
  ((Value.find? "default_path_group" entries).map nameOf).getD "default"

/-- The default group is the built-in one, or one of the groups. -/
def DefaultIsGroup (entries : List (Scalar × Value)) : Prop :=
  (Value.find? "groups" entries = none ∧ defaultNameOf entries = "default") ∨ NamesBuiltIn entries ∨
    ∃ groups, Value.find? "groups" entries = some (.mapping groups) ∧
      ∃ e ∈ groups, e.1.name = Symbol.ofString (defaultNameOf entries)

/-- The groups are a mapping, in which what stands under the last key of every name settles something for a group or
does not count as given. -/
def SettlesGroups (v : Value) : Prop :=
  ∃ groups, v = .mapping groups ∧ ∀ name v, lastUnder name groups = some v → SettlesGroup v

/-- A mapping that becomes settings. -/
structure Accepted (entries : List (Scalar × Value)) : Prop where
  keys : KeysAmong ["default_generates", "default_path_group", "groups"] entries
  generates : PartIs "default_generates" IsGenerates entries
  name : PartIs "default_path_group" IsName entries
  groups : PartIs "groups" SettlesGroups entries
  named : NamesGroups (.mapping entries)
  default : DefaultIsGroup entries

/-- A mapping as it is described: the groups may be left out or be null, and what stands under each of their keys is
null or settles something for a group. -/
structure Documented (entries : List (Scalar × Value)) : Prop where
  keys : KeysAmong ["default_generates", "default_path_group", "groups"] entries
  generates : PartIs "default_generates" IsGenerates entries
  name : PartIs "default_path_group" IsName entries
  groups : PartIs "groups" (fun v => v.isNull = true ∨
    ∃ groups, v = .mapping groups ∧ ∀ e ∈ groups, e.2.isNull = true ∨ IsGroup e.2) entries
  default : defaultNameOf entries = "default" ∨ ∃ groups, Value.find? "groups" entries = some (.mapping groups) ∧
    ∃ e ∈ groups, e.1.name = Symbol.ofString (defaultNameOf entries)

/-! ### Mappings with groups and without -/

/-- The mapping with its groups completed. -/
def filled (entries groups : List (Scalar × Value)) : List (Scalar × Value) :=
  Value.putKey (.text "groups") (.mapping (completeGroups entries groups)) entries

/-- A mapping becomes settings if it passes the checks, with its groups completed if it has some. -/
theorem ofDocument_eq_ok_iff :
    ofDocument path (.mapping entries) = .ok s ↔
      (Value.find? "groups" entries = none ∧ check (.mapping entries) = .ok s) ∨
        ∃ groups, Value.find? "groups" entries = some (.mapping groups) ∧ NamesGroups (.mapping entries) ∧
          check (.mapping (filled entries groups)) = .ok s := by
  rw [ofDocument_mapping, bind_eq_ok_iff]
  simp only [mapError_eq_ok_iff]
  constructor
  · rintro ⟨completed, hcomplete, hcheck⟩
    unfold complete at hcomplete
    split at hcomplete
    · rename_i hnone
      exact Or.inl ⟨hnone, Except.ok.inj hcomplete ▸ hcheck⟩
    · rename_i hnull
      obtain rfl := Except.ok.inj hcomplete
      obtain ⟨groups, hgroups, -⟩ := (check_eq_ok_iff.1 hcheck).1.groups _ hnull
      cases hgroups
    · rename_i groups hgroups
      obtain ⟨hshort, hcompleted⟩ := refuse_eq_ok_iff.1 hcomplete
      obtain rfl := Except.ok.inj hcompleted
      exact Or.inr ⟨groups, hgroups, (namesGroups_iff hgroups).2 (Bool.eq_false_iff.2 hshort), hcheck⟩
    · cases hcomplete
  · rintro (⟨hnone, hcheck⟩ | ⟨groups, hgroups, hnames, hcheck⟩)
    · have hcomplete : complete entries = .ok entries := by
        rw [complete, show Value.find? groupsKey entries = none from hnone]
      exact ⟨entries, hcomplete, hcheck⟩
    · have hcomplete : complete entries = .ok (filled entries groups) := by
        rw [complete, show Value.find? groupsKey entries = some (.mapping groups) from hgroups]
        exact if_neg (Bool.eq_false_iff.1 ((namesGroups_iff hgroups).1 hnames))
      exact ⟨_, hcomplete, hcheck⟩

/-! ### What a filled mapping settles -/

theorem find?_groups_filled :
    Value.find? "groups" (filled entries groups) = some (.mapping (completeGroups entries groups)) :=
  Value.find?_putKey_self ..

private theorem find?_filled {name : String} (h : "groups" ≠ name) :
    Value.find? name (filled entries groups) = Value.find? name entries :=
  Value.find?_putKey_of_ne h ..

private theorem isSettings_filled_iff (h : Value.find? "groups" entries = some (.mapping groups)) :
    IsSettings (filled entries groups) ↔
      KeysAmong ["default_generates", "default_path_group", "groups"] entries ∧
        PartIs "default_generates" IsGenerates entries ∧ PartIs "default_path_group" IsName entries ∧
        PartIs "groups" SettlesGroups entries := by
  have hkeys (known : List String) : KeysAmong known (filled entries groups) ↔ KeysAmong known entries := by
    have hmap (l : List (Scalar × Value)) :
        KeysAmong known l ↔ ∀ key ∈ l.map Prod.fst, ∃ name ∈ known, key = .text name := by
      simp [KeysAmong]
    rw [hmap, hmap, filled, Value.map_fst_putKey (by rw [h]; rfl)]
  have hpart (name : String) (P : Value → Prop) (hname : "groups" ≠ name) :
      PartIs name P (filled entries groups) ↔ PartIs name P entries := by
    rw [PartIs, PartIs, find?_filled hname]
  have hgroups : PartIs "groups" IsGroups (filled entries groups) ↔ PartIs "groups" SettlesGroups entries := by
    simp only [PartIs, find?_groups_filled, h, Option.some.injEq, forall_eq', isGroups_completeGroups_iff]
    simp [SettlesGroups]
  rw [← hkeys, ← hpart _ _ (by decide), ← hpart _ _ (by decide), ← hgroups]
  constructor
  · exact fun h => ⟨h.keys, h.generates, h.name, h.groups⟩
  · rintro ⟨hkeys, hgenerates, hname, hgroups⟩
    exact ⟨hkeys, hgenerates, hname, hgroups⟩

theorem groups_ofEntries_filled :
    (ofEntries (filled entries groups)).groups = groupsOf (.mapping (completeGroups entries groups)) := by
  rw [ofEntries, find?_groups_filled]
  rfl

theorem defaultGroup_ofEntries_filled : (ofEntries (filled entries groups)).defaultGroup = defaultNameOf entries := by
  change defaultNameOf (filled entries groups) = defaultNameOf entries
  rw [defaultNameOf, find?_filled (by decide), defaultNameOf]

theorem defaultName_ofEntries_filled :
    (ofEntries (filled entries groups)).defaultName = Symbol.ofString (defaultNameOf entries) :=
  congrArg Symbol.ofString defaultGroup_ofEntries_filled

theorem groups_ofEntries_of_none (h : Value.find? "groups" entries = none) :
    (ofEntries entries).groups = fallback.groups := by
  rw [ofEntries, h]
  rfl

private theorem defaultNameOf_of_namesBuiltIn (h : NamesBuiltIn entries) : defaultNameOf entries = "default" := by
  unfold defaultNameOf
  cases hname : Value.find? "default_path_group" entries with
  | none => rfl
  | some v =>
    obtain rfl := h v hname
    rfl

/-! ### What is accepted -/

/-- A mapping becomes settings just when it is accepted. -/
theorem exists_ofDocument_iff : (∃ s, ofDocument path (.mapping entries) = .ok s) ↔ Accepted entries := by
  simp only [ofDocument_eq_ok_iff, check_eq_ok_iff]
  constructor
  · rintro ⟨s, ⟨hnone, hset, hdefault, -⟩ | ⟨groups, hgroups, hnames, hset, hdefault, -⟩⟩
    · rw [groups_ofEntries_of_none hnone] at hdefault
      exact ⟨hset.keys, hset.generates, hset.name, partIs_of_none _ hnone, namesGroups_of_find? (by simp [hnone]),
        Or.inl ⟨hnone, Symbol.ofString_inj.1 (List.mem_singleton.1 hdefault)⟩⟩
    · obtain ⟨hkeys, hgenerates, hname, hparts⟩ := (isSettings_filled_iff hgroups).1 hset
      refine ⟨hkeys, hgenerates, hname, hparts, hnames, Or.inr ?_⟩
      rw [groups_ofEntries_filled, defaultName_ofEntries_filled, mem_keys_groupsOf_completeGroups] at hdefault
      rcases hdefault with hkey | ⟨-, hbuiltIn⟩
      · exact Or.inr ⟨groups, hgroups, hkey⟩
      · exact Or.inl hbuiltIn
  · intro h
    cases hfind : Value.find? "groups" entries with
    | none =>
      refine ⟨_, Or.inl ⟨rfl, ⟨h.keys, h.generates, h.name, partIs_of_none _ hfind⟩, ?_, rfl⟩⟩
      rw [groups_ofEntries_of_none hfind]
      refine List.mem_singleton.2 (congrArg Symbol.ofString (?_ : defaultNameOf entries = "default"))
      rcases h.default with ⟨-, hname⟩ | hbuiltIn | ⟨groups, hgroups, -⟩
      · exact hname
      · exact defaultNameOf_of_namesBuiltIn hbuiltIn
      · cases hfind.symm.trans hgroups
    | some v =>
      obtain ⟨groups, rfl, -⟩ := h.groups v hfind
      refine ⟨_, Or.inr ⟨groups, rfl, h.named,
        (isSettings_filled_iff hfind).2 ⟨h.keys, h.generates, h.name, h.groups⟩, ?_, rfl⟩⟩
      rw [groups_ofEntries_filled, defaultName_ofEntries_filled, mem_keys_groupsOf_completeGroups]
      rcases h.default with ⟨hnone, -⟩ | hbuiltIn | ⟨found, hfound, hkey⟩
      · cases hfind.symm.trans hnone
      · exact Or.inr ⟨congrArg _ (defaultNameOf_of_namesBuiltIn hbuiltIn), hbuiltIn⟩
      · obtain rfl := Value.mapping.inj (Option.some.inj (hfind.symm.trans hfound))
        exact Or.inl hkey

/-- The settings of a file that holds a mapping are accepted or not by the mapping alone.  What is not accepted is
reported as a problem of the configuration, unless a group has no name. -/
theorem load_accepts_iff (h : HoldsMapping reader w file directory entries) :
    ((∃ s, (outcome (loadWith reader file directory) w).1 = .ok s) ↔ Accepted entries) ∧
      ∀ f, (outcome (loadWith reader file directory) w).1 = .error f →
        (f.IsConfiguration ↔ NamesGroups (.mapping entries)) := by
  rw [fst_outcome_loadWith_of_mapping h]
  refine ⟨exists_ofDocument_iff, fun f hf => ?_⟩
  rw [← reports_ofDocument_mapping_iff, hf]
  exact reports_error_iff.symm

/-- A described mapping is accepted, unless its groups are null, a group has no name, or the default group is named by
something other than a text. -/
theorem Documented.accepted (h : Documented entries) (hnull : Value.find? "groups" entries ≠ some .null)
    (hnamed : NamesGroups (.mapping entries))
    (htext : PartIs "default_path_group" (fun v => ∃ name, v = .text name) entries) : Accepted entries := by
  refine ⟨h.keys, h.generates, h.name, fun v hv => ?_, hnamed, ?_⟩
  · rcases h.groups v hv with hv' | ⟨groups, rfl, hall⟩
    · exact absurd (Value.eq_null_of_isNull hv' ▸ hv) hnull
    · refine ⟨groups, rfl, fun name u hlast => ?_⟩
      obtain ⟨e, he, -, rfl⟩ := exists_of_lastUnder hlast
      exact (hall e he).imp_left fun hu => by rw [Value.eq_null_of_isNull hu]; rfl
  · rcases h.default with hname | hkey
    · refine Or.inr (Or.inl fun v hv => ?_)
      obtain ⟨name, rfl⟩ := htext v hv
      rw [defaultNameOf, hv] at hname
      exact congrArg Value.text hname
    · exact Or.inr (Or.inr hkey)

/-! ### Settings that are accepted, and some that are not -/

/-- A mapping is read from a text if what is read from it is the same. -/
theorem holdsMapping_of_same {text : String}
    (hfile : (holding text.toUTF8).tree.lookup (source none none ["home"]) = .ok (.file text.toUTF8))
    (hread : ((yaml (Text.translated text)).toOption.any fun v => v.same (.mapping entries)) = true) :
    HoldsMapping yaml (holding text.toUTF8) none none entries := by
  obtain ⟨v, hv, hsame⟩ := exists_of_any_toOption hread
  exact ⟨text, hfile, Value.eq_of_same hsame ▸ hv⟩

/-- Settings with a group of their own that is the default group. -/
def adminEntries : List (Scalar × Value) :=
  [(.text "default_path_group", .text "admin"),
    (.text "groups", .mapping [(.text "admin", .mapping [(.text "plugin_path", .text "lib")])])]

def adminText : String := "default_path_group: admin\ngroups:\n  admin:\n    plugin_path: lib\n"

theorem holdsMapping_admin : HoldsMapping yaml (holding adminText.toUTF8) none none adminEntries :=
  holdsMapping_of_same (by decide +kernel) (by decide +kernel)

theorem accepted_admin : Accepted adminEntries where
  keys := by simp [KeysAmong, adminEntries]
  generates := partIs_of_none _ rfl
  name := partIs_of_some rfl ⟨"admin", rfl, by decide⟩
  groups := by
    refine partIs_of_some rfl ⟨_, rfl, fun name v hlast => Or.inr ?_⟩
    obtain ⟨e, he, -, rfl⟩ := exists_of_lastUnder hlast
    obtain rfl := List.mem_singleton.1 he
    exact ⟨_, rfl, ⟨partIs_of_some rfl (Or.inr ⟨"lib", rfl⟩), partIs_of_none _ rfl⟩, by simp [KeysAmong]⟩
  named := (namesGroups_iff rfl).2 rfl
  default := Or.inr (Or.inr ⟨_, rfl, _, List.mem_singleton.2 rfl, rfl⟩)

/-- The settings of the group that is its own default group are accepted. -/
theorem load_accepts_of_admin :
    HoldsMapping yaml (holding adminText.toUTF8) none none adminEntries ∧
      ∃ s, (outcome (load none none) (holding adminText.toUTF8)).1 = .ok s :=
  ⟨holdsMapping_admin, (load_accepts_iff holdsMapping_admin).1.2 accepted_admin⟩

/-- Groups that are null are described and not accepted.  A group that is false is accepted and not described. -/
theorem not_accepts_of_nullGroups :
    let nullGroups : List (Scalar × Value) := [(.text "groups", .null)]
    let falseGroup : List (Scalar × Value) := [(.text "groups", .mapping [(.text "shop", .scalar (.bool false))])]
    let ends (text : String) := (outcome (load none none) (holding text.toUTF8)).1
    (HoldsMapping yaml (holding "groups:\n".toUTF8) none none nullGroups ∧ Documented nullGroups ∧
        ¬ ∃ s, ends "groups:\n" = .ok s) ∧
      HoldsMapping yaml (holding "groups:\n  shop: false\n".toUTF8) none none falseGroup ∧ ¬ Documented falseGroup ∧
        ∃ s, ends "groups:\n  shop: false\n" = .ok s := by
  intro nullGroups falseGroup ends
  have hnull : HoldsMapping yaml (holding "groups:\n".toUTF8) none none nullGroups :=
    holdsMapping_of_same (by decide +kernel) (by decide +kernel)
  have hfalse : HoldsMapping yaml (holding "groups:\n  shop: false\n".toUTF8) none none falseGroup :=
    holdsMapping_of_same (by decide +kernel) (by decide +kernel)
  rw [show ends _ = _ from fst_outcome_loadWith_of_mapping hnull,
    show ends _ = _ from fst_outcome_loadWith_of_mapping hfalse, exists_ofDocument_iff, exists_ofDocument_iff]
  refine ⟨⟨hnull, ?_, fun haccepted => ?_⟩, hfalse, fun hdocumented => ?_, ?_⟩
  · exact ⟨by simp [KeysAmong, nullGroups], partIs_of_none _ rfl, partIs_of_none _ rfl,
      partIs_of_some rfl (Or.inl rfl), Or.inl rfl⟩
  · obtain ⟨groups, hgroups, -⟩ := haccepted.groups .null rfl
    cases hgroups
  · rcases hdocumented.groups _ rfl with hisNull | ⟨groups, hgroups, hall⟩
    · cases hisNull
    · obtain rfl := Value.mapping.inj hgroups
      rcases hall _ (List.mem_singleton.2 rfl) with hisNull | ⟨fields, hfields, -⟩
      · cases hisNull
      · cases hfields
  · refine ⟨by simp [KeysAmong, falseGroup], partIs_of_none _ rfl, partIs_of_none _ rfl, ?_,
      (namesGroups_iff rfl).2 rfl, Or.inr (Or.inl fun v hv => by cases hv)⟩
    refine partIs_of_some rfl ⟨_, rfl, fun name v hlast => Or.inl ?_⟩
    obtain ⟨e, he, -, rfl⟩ := exists_of_lastUnder hlast
    obtain rfl := List.mem_singleton.1 he
    rfl

end Settings

end CrudScaffold
