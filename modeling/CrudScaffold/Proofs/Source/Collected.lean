import CrudScaffold.Artifact.Module
import Mathlib.Data.List.Nodup
import Mathlib.Data.List.Perm.Basic

/-!
# Collected imports

Imports are collected one by one and written in sections, so that the lines of a file have nothing but what was
collected (`perm_importSections`).  If every name that is asked for has one module, by a table of names and modules, the
lines bind no name twice (`nodup_flatMap_binds`).
-/

namespace CrudScaffold

namespace Entries

variable {α β : Type} [DecidableEq α] {key : α} {value : β} {entries : Entries α β} {e : α × β}

theorem mem_put_self (key : α) (value : β) (entries : Entries α β) : (key, value) ∈ entries.put key value := by
  induction entries with
  | nil => simp [put]
  | cons first rest ih =>
    obtain ⟨other, old⟩ := first
    unfold put
    split
    · rename_i hsame
      rw [hsame]
      exact List.mem_cons_self
    · exact List.mem_cons_of_mem _ ih

/-- What stands under another key stays. -/
theorem mem_put_of_ne (h : e ∈ entries) (hkey : e.1 ≠ key) : e ∈ entries.put key value := by
  induction entries with
  | nil => cases h
  | cons first rest ih =>
    obtain ⟨other, old⟩ := first
    unfold put
    split
    · rename_i hsame
      rcases List.mem_cons.1 h with rfl | h
      · exact absurd hsame.symm hkey
      · exact List.mem_cons_of_mem _ h
    · rcases List.mem_cons.1 h with rfl | h
      · exact List.mem_cons_self
      · exact List.mem_cons_of_mem _ (ih h)

end Entries

namespace Source

/-! ### Names of one module -/

private theorem eraseDups_of_nodup {names : List String} (h : names.Nodup) : names.eraseDups = names := by
  induction names with
  | nil => rfl
  | cons name names ih =>
    rw [List.nodup_cons] at h
    have hothers : names.filter (fun other => !other == name) = names := by
      refine List.filter_eq_self.2 fun other hother => ?_
      rw [Bool.not_eq_true', beq_eq_false_iff_ne]
      rintro rfl
      exact h.1 hother
    rw [List.eraseDups_cons, hothers, ih h.2]

namespace Import

variable {table : List (String × String)} {i : Import} {origin name : String} {names : List String}

/-- Names that are given no other names are bound as they are. -/
theorem binds_of_names (hne : names ≠ []) (h : ∀ name ∈ names, alias? name = none) :
    (⟨origin, names⟩ : Import).binds = names := by
  have hplain : (⟨origin, names⟩ : Import).isPlain = false := by simpa [isPlain] using hne
  have hself : ∀ name ∈ names, (alias? name).getD name = name := by
    intro name hname
    rw [h name hname]
    rfl
  rw [binds, hplain, if_neg Bool.false_ne_true]
  exact (List.map_congr_left hself).trans (List.map_id' _)

/-- The line binds names that the table has for its module, each of them once and as it is asked for. -/
structure Within (table : List (String × String)) (i : Import) : Prop where
  nodup : i.names.Nodup
  unnamed : ∀ name ∈ i.names, alias? name = none
  rows : ∀ name ∈ i.binds, (name, i.origin) ∈ table

instance (table : List (String × String)) (i : Import) : Decidable (i.Within table) :=
  decidable_of_iff (i.names.Nodup ∧ (∀ name ∈ i.names, alias? name = none) ∧ ∀ name ∈ i.binds, (name, i.origin) ∈ table)
    ⟨fun h => ⟨h.1, h.2.1, h.2.2⟩, fun h => ⟨h.nodup, h.unnamed, h.rows⟩⟩

theorem Within.mono {other : List (String × String)} (h : i.Within table) (hsub : table ⊆ other) : i.Within other :=
  ⟨h.nodup, h.unnamed, fun name hname => hsub (h.rows name hname)⟩

theorem within_of_names (hne : names ≠ []) (hnodup : names.Nodup)
    (h : ∀ name ∈ names, alias? name = none ∧ (name, origin) ∈ table) : Within table ⟨origin, names⟩ := by
  refine ⟨hnodup, fun name hname => (h name hname).1, fun name hname => ?_⟩
  rw [binds_of_names hne fun name hname => (h name hname).1] at hname
  exact (h name hname).2

theorem Within.nodup_binds (h : i.Within table) : i.binds.Nodup := by
  by_cases hne : i.names = []
  · have hplain : i.isPlain = true := by simp [isPlain, hne]
    rw [binds, if_pos hplain]
    exact List.nodup_singleton _
  · have hbinds : i.binds = i.names := binds_of_names hne h.unnamed
    rw [hbinds]
    exact h.nodup

/-- Every line binds a name. -/
theorem binds_ne_nil (i : Import) : i.binds ≠ [] := by
  unfold binds
  by_cases hplain : i.isPlain = true
  · simp [hplain]
  · rw [if_neg hplain]
    simpa [isPlain] using hplain

theorem Within.origin_mem (h : i.Within table) : i.origin ∈ table.map Prod.snd := by
  obtain ⟨name, hname⟩ := List.exists_mem_of_ne_nil _ i.binds_ne_nil
  exact List.mem_map.2 ⟨_, h.rows name hname, rfl⟩

end Import

/-- Lines that are within a table which has one module for a name, each with a module of its own, bind no name
twice. -/
theorem nodup_flatMap_binds {table : List (String × String)} (htable : (table.map Prod.fst).Nodup) {lines : List Import}
    (horigins : (lines.map Import.origin).Nodup) (h : ∀ i ∈ lines, i.Within table) :
    (lines.flatMap Import.binds).Nodup := by
  have howner : ∀ name origin other, (name, origin) ∈ table → (name, other) ∈ table → origin = other := by
    intro name origin other hrow hother
    exact congrArg Prod.snd (List.inj_on_of_nodup_map htable hrow hother rfl)
  refine List.nodup_flatMap.2 ⟨fun i hi => (h i hi).nodup_binds, ?_⟩
  refine (List.pairwise_map.1 horigins).imp_of_mem fun {i j} hi hj hne name hname hother => hne ?_
  exact howner _ _ _ ((h i hi).rows name hname) ((h j hj).rows name hother)

/-! ### Names of all modules -/

namespace Imports

variable {table : List (String × String)} {imports : Imports} {origin name : String} {names : List String}

/-- Each module is there once, and what is asked for is within the table. -/
structure Within (table : List (String × String)) (imports : Imports) : Prop where
  keys : imports.keys.Nodup
  entries : ∀ e ∈ imports, Import.Within table ⟨e.1, e.2⟩

theorem within_nil : Within table [] := ⟨List.nodup_nil, fun _ he => absurd he List.not_mem_nil⟩

theorem Within.put (h : imports.Within table) (hnew : Import.Within table ⟨origin, names⟩) :
    Within table (Entries.put origin names imports) := by
  constructor
  · exact Entries.nodup_keys_put h.keys origin names
  · intro e he
    rcases Entries.mem_put he with rfl | he
    · exact hnew
    · exact h.entries e he

theorem Within.set (h : imports.Within table) (hne : names ≠ []) (hnodup : names.Nodup)
    (hnames : ∀ name ∈ names, Import.alias? name = none ∧ (name, origin) ∈ table) :
    Within table (imports.set origin names) := by
  have hsame : names.eraseDups = names := eraseDups_of_nodup hnodup
  rw [Imports.set, hsame]
  exact h.put (Import.within_of_names hne hnodup hnames)

/-- What was asked for before stays within the table. -/
private theorem Within.old (h : imports.Within table) {old : List String} (hold : imports.get? origin = some old) :
    Import.Within table ⟨origin, old⟩ :=
  h.entries _ (Entries.mem_of_get?_eq_some hold)

theorem Within.whole (h : imports.Within table) (hrows : Import.Within table ⟨origin, []⟩) :
    Within table (imports.whole origin) := by
  unfold Imports.whole
  refine h.put ?_
  cases hold : imports.get? origin with
  | none => exact hrows
  | some old => exact h.old hold

theorem Within.add (h : imports.Within table) (hunnamed : Import.alias? name = none) (hrow : (name, origin) ∈ table) :
    Within table (imports.add origin name) := by
  unfold Imports.add
  refine h.put ?_
  cases hold : imports.get? origin with
  | none => exact Import.within_of_names (by simp) (by simp) (by simpa using ⟨hunnamed, hrow⟩)
  | some old =>
    have hwithin := h.old hold
    simp only [Option.getD_some, List.contains_iff_mem]
    split
    · exact hwithin
    · rename_i hnew
      refine Import.within_of_names (by simp) ?_ fun other hother => ?_
      · rw [List.nodup_append]
        refine ⟨hwithin.nodup, by simp, fun a ha b hb heq => ?_⟩
        rw [List.mem_singleton.1 hb] at heq
        exact hnew (heq ▸ ha)
      · rcases List.mem_append.1 hother with hother | hother
        · have hbinds : (⟨origin, old⟩ : Import).binds = old :=
            Import.binds_of_names (List.ne_nil_of_mem hother) hwithin.unnamed
          refine ⟨hwithin.unnamed other hother, hwithin.rows other ?_⟩
          rwa [hbinds]
        · rw [List.mem_singleton.1 hother]
          exact ⟨hunnamed, hrow⟩

theorem within_ofList {writes : List (String × List String)}
    (h : ∀ e ∈ writes, Import.Within table ⟨e.1, e.2⟩) : Within table (Entries.ofList writes) :=
  ⟨Entries.nodup_keys_ofList writes, fun e he => h e (Entries.mem_ofList he)⟩

/-- Whether the condition holds or not. -/
theorem Within.ite {others : Imports} {p : Prop} [Decidable p] (h : p → imports.Within table)
    (hothers : ¬ p → others.Within table) : Within table (if p then imports else others) := by
  split
  · rename_i hp
    exact h hp
  · rename_i hp
    exact hothers hp

/-! ### Types of fields -/

/-- The modules of the value types, and the name that optional types have. -/
def typeRows : List (String × String) :=
  [("Optional", "typing"), ("dt", timeModule), ("decimal", "decimal"), ("uuid", "uuid")]

theorem Within.forType (h : imports.Within table) (hrows : typeRows ⊆ table) (hint : String) :
    Within table (imports.forType hint) := by
  have hmodules : ∀ e ∈ typeModules, ∀ name ∈ (⟨e.2, []⟩ : Import).binds, (name, e.2) ∈ typeRows := by decide
  unfold Imports.forType
  split
  · rename_i origin horigin
    obtain ⟨before, after, he, -⟩ := List.lookup_eq_some_iff.1 horigin
    have hmem : (hint, origin) ∈ typeModules := by simp [he]
    exact h.whole ⟨List.nodup_nil, by simp, fun name hname => hrows (hmodules _ hmem name hname)⟩
  · exact h

theorem within_typeImports (hrows : typeRows ⊆ table) (everyOptional : Bool) (fields : List Field) :
    Within table (typeImports everyOptional fields) := by
  have hoptional : ("Optional", "typing") ∈ table := hrows (by decide)
  unfold typeImports
  refine List.foldlRecOn (motive := fun imports => Within table imports) fields _ within_nil ?_
  intro imports h f _
  exact Within.ite (fun _ => (h.forType hrows _).add (by decide) hoptional) fun _ => h.forType hrows _

end Imports

/-! ### Lines of a file -/

/-- Every element is in the part of its section. -/
theorem perm_filter_sections {α : Type} (choose : α → ImportSection) (l : List α) :
    (ImportSection.all.flatMap fun s => l.filter fun a => choose a = s).Perm l := by
  induction l with
  | nil => rfl
  | cons a l ih =>
    simp only [ImportSection.all, List.flatMap_cons, List.flatMap_nil, List.append_nil, List.filter_cons] at ih ⊢
    cases choose a with
    | standard => simpa using ih.cons a
    | library => simpa using List.perm_middle.trans (ih.cons a)
    | application =>
      simpa using ((List.perm_middle.append_left _).trans List.perm_middle).trans (ih.cons a)

/-- The lines of a file are what was collected, after the first one. -/
theorem perm_importSections (r : Request) (imports : Imports) :
    (importSections r imports).flatten.Perm
      (⟨"__future__", ["annotations"]⟩ :: imports.map fun e => ⟨e.1, sortTexts e.2⟩) := by
  refine List.Perm.cons _ ?_
  unfold Imports.sections
  rw [List.flatten_filter_not_isEmpty, ← List.flatMap_def]
  exact (perm_filter_sections _ _).trans (List.mergeSort_perm _ _)

/-- The names of a line are bound in whichever order they stand. -/
theorem perm_binds_sortTexts (origin : String) (names : List String) :
    (Import.mk origin (sortTexts names)).binds.Perm (Import.mk origin names).binds := by
  have hnames : (sortTexts names).Perm names := List.mergeSort_perm _ _
  unfold Import.binds Import.isPlain
  rw [hnames.isEmpty_eq]
  split
  · rfl
  · exact hnames.map _

/-- The lines of a file bind what was asked for. -/
theorem perm_binds_importSections (r : Request) (imports : Imports) :
    ((importSections r imports).flatten.flatMap Import.binds).Perm
      ("annotations" :: imports.flatMap fun e => (Import.mk e.1 e.2).binds) := by
  have hfuture : (⟨"__future__", ["annotations"]⟩ : Import).binds = ["annotations"] := by decide
  refine ((perm_importSections r imports).flatMap_right _).trans ?_
  rw [List.flatMap_cons, hfuture, List.flatMap_map]
  exact (List.Perm.flatMap_left _ fun e _ => perm_binds_sortTexts e.1 e.2).cons _

theorem Import.Within.sorted {table : List (String × String)} {origin : String} {names : List String}
    (h : Import.Within table ⟨origin, names⟩) : Import.Within table ⟨origin, sortTexts names⟩ := by
  have hnames : (sortTexts names).Perm names := List.mergeSort_perm _ _
  refine ⟨hnames.nodup_iff.2 h.nodup, fun name hname => h.unnamed name (hnames.subset hname), fun name hname => ?_⟩
  exact h.rows name ((perm_binds_sortTexts origin names).subset hname)

/-- What was collected within a table is within it as lines of a file, with one line for a module. -/
theorem Imports.Within.sections {table : List (String × String)} {imports : Imports} (h : imports.Within table)
    (hfuture : "__future__" ∉ table.map Prod.snd) (r : Request) :
    ((importSections r imports).flatten.map Import.origin).Nodup ∧
      ∀ i ∈ (importSections r imports).flatten, i.Within (("annotations", "__future__") :: table) := by
  have hperm := perm_importSections r imports
  constructor
  · have horigins : (imports.map fun e => Import.mk e.1 (sortTexts e.2)).map Import.origin = imports.keys := by
      rw [List.map_map]
      rfl
    rw [(hperm.map Import.origin).nodup_iff, List.map_cons, horigins, List.nodup_cons]
    refine ⟨fun hmem => ?_, h.keys⟩
    obtain ⟨e, he, hkey⟩ := List.mem_map.1 hmem
    have horigin : e.1 ∈ table.map Prod.snd := (h.entries e he).origin_mem
    rw [hkey] at horigin
    exact hfuture horigin
  · intro i hi
    rcases List.mem_cons.1 (hperm.subset hi) with rfl | hi
    · exact Import.within_of_names (by simp) (by simp) (by simp; decide)
    · obtain ⟨e, he, rfl⟩ := List.mem_map.1 hi
      exact (h.entries e he).sorted.mono (List.subset_cons_self _ _)

end Source

end CrudScaffold
