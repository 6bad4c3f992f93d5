import CrudScaffold.Proofs.Source.Collected

/-!
# Names that are taken from modules

What a file takes from a module is what was asked for: the names, or the module itself under the name that it is given.
Every way to ask adds to what was there before (`mem_namesOf_add`, `mem_namesOf_set`, `mem_keys_forType`), and so the
imports that are collected from fields are what some field asks for (`mem_namesOf_typeImports`,
`mem_keys_typeImports`).
-/

namespace CrudScaffold.Source

/-- What has been gathered from a list was there before, or comes from one of the elements. -/
theorem foldl_iff {α β : Type} {P : β → Prop} {Q : α → Prop} {f : β → α → β} (hstep : ∀ b a, P (f b a) ↔ P b ∨ Q a)
    (l : List α) (b : β) : P (l.foldl f b) ↔ P b ∨ ∃ a ∈ l, Q a := by
  induction l generalizing b with
  | nil => simp
  | cons a l ih => rw [List.foldl_cons, ih, hstep, List.exists_mem_cons_iff, or_assoc]

/-- A line of the file binds the name, which it takes from the module. -/
def SourceFile.Takes (f : SourceFile) (origin name : String) : Prop :=
  ∃ i ∈ f.imports.flatten, i.origin = origin ∧ name ∈ i.binds

namespace Imports

variable {imports : Imports} {origin other name new : String} {names : List String}

/-- The names that are asked for of a module. -/
def namesOf (origin : String) (imports : Imports) : List String :=
  (imports.get? origin).getD []

/-- The line for the module binds the name. -/
def Binds (imports : Imports) (origin name : String) : Prop :=
  ∃ names, imports.get? origin = some names ∧ name ∈ (Import.mk origin names).binds

/-! ### Asking for more -/

private theorem namesOf_put (origin other : String) (names : List String) (imports : Imports) :
    Imports.namesOf other (Entries.put origin names imports) =
      if other = origin then names else imports.namesOf other := by
  unfold namesOf
  rw [Entries.get?_put]
  split <;> rfl

private theorem mem_keys_put :
    other ∈ (Entries.put origin names imports).keys ↔ other ∈ imports.keys ∨ other = origin := by
  rw [← Entries.isSome_get?_iff, ← Entries.isSome_get?_iff, Entries.get?_put]
  split <;> rename_i h <;> simp [h]

theorem mem_namesOf_add :
    name ∈ (imports.add origin new).namesOf other ↔ name ∈ imports.namesOf other ∨ other = origin ∧ name = new := by
  unfold add
  rw [namesOf_put]
  by_cases h : other = origin
  · subst h
    simp only [if_true, true_and, List.contains_iff_mem]
    split
    · rename_i hold
      exact ⟨Or.inl, fun h => h.elim id fun heq => heq ▸ hold⟩
    · rw [List.mem_append, List.mem_singleton]
      rfl
  · simp [h]

theorem mem_keys_add : other ∈ (imports.add origin new).keys ↔ other ∈ imports.keys ∨ other = origin :=
  mem_keys_put

theorem mem_namesOf_set :
    name ∈ (imports.set origin names).namesOf other ↔ if other = origin then name ∈ names else name ∈ imports.namesOf other := by
  unfold set
  rw [namesOf_put]
  split
  · exact List.mem_eraseDups
  · rfl

theorem mem_keys_set : other ∈ (imports.set origin names).keys ↔ other ∈ imports.keys ∨ other = origin :=
  mem_keys_put

/-- Asking for a type's module asks for no name. -/
theorem namesOf_forType (hint other : String) (imports : Imports) :
    (imports.forType hint).namesOf other = imports.namesOf other := by
  unfold forType
  split
  · unfold whole
    rw [namesOf_put]
    split
    · rename_i h
      rw [h, namesOf]
    · rfl
  · rfl

theorem mem_keys_forType {hint : String} :
    other ∈ (imports.forType hint).keys ↔ other ∈ imports.keys ∨ typeModules.lookup hint = some other := by
  unfold forType
  split
  · rename_i origin horigin
    rw [whole, mem_keys_put, horigin, Option.some_inj, eq_comm]
  · rename_i hnone
    simp [hnone]

/-! ### Types of fields -/

theorem mem_namesOf_typeImports {everyOptional : Bool} {fields : List Field} :
    name ∈ (typeImports everyOptional fields).namesOf origin ↔
      ∃ f ∈ fields, (everyOptional || f.isNullable) = true ∧ origin = "typing" ∧ name = "Optional" := by
  unfold typeImports
  rw [foldl_iff (P := fun imports => name ∈ Imports.namesOf origin imports)
    (Q := fun f => (everyOptional || f.isNullable) = true ∧ origin = "typing" ∧ name = "Optional")]
  · simp [namesOf, Entries.get?]
  · intro imports f
    dsimp only
    split
    · rename_i h
      rw [mem_namesOf_add, namesOf_forType]
      simp [h]
    · rename_i h
      rw [namesOf_forType]
      simp [h]

theorem mem_keys_typeImports {everyOptional : Bool} {fields : List Field} :
    origin ∈ (typeImports everyOptional fields).keys ↔ ∃ f ∈ fields, typeModules.lookup f.type.valueType = some origin ∨
      (everyOptional || f.isNullable) = true ∧ origin = "typing" := by
  unfold typeImports
  rw [foldl_iff (P := fun imports => origin ∈ Entries.keys imports)
    (Q := fun f => typeModules.lookup f.type.valueType = some origin ∨
      (everyOptional || f.isNullable) = true ∧ origin = "typing")]
  · simp [Entries.keys]
  · intro imports f
    dsimp only
    split
    · rename_i h
      rw [mem_keys_add, mem_keys_forType, or_assoc]
      simp [h]
    · rename_i h
      rw [mem_keys_forType]
      simp [h]

/-! ### Lines -/

theorem binds_of_mem_namesOf (h : name ∈ imports.namesOf origin) (hunnamed : Import.alias? name = none) :
    imports.Binds origin name := by
  unfold namesOf at h
  cases hnames : imports.get? origin with
  | none => simp [hnames] at h
  | some names =>
    rw [hnames, Option.getD_some] at h
    have hplain : names.isEmpty = false := List.isEmpty_eq_false_iff.2 (List.ne_nil_of_mem h)
    refine ⟨names, hnames, ?_⟩
    simp only [Import.binds, Import.isPlain, hplain, Bool.false_eq_true, if_false]
    exact List.mem_map.2 ⟨name, h, by simp [hunnamed]⟩

theorem binds_of_mem_keys (h : origin ∈ imports.keys) (hnone : imports.namesOf origin = [])
    (hname : name ∈ (Import.mk origin []).binds) : imports.Binds origin name := by
  obtain ⟨names, hnames⟩ := Option.isSome_iff_exists.1 (Entries.isSome_get?_iff.2 h)
  rw [namesOf, hnames, Option.getD_some] at hnone
  exact ⟨[], hnone ▸ hnames, hname⟩

/-- What the line for a module binds was asked for. -/
theorem Binds.cases (h : imports.Binds origin name)
    (hunnamed : ∀ other ∈ imports.namesOf origin, Import.alias? other = none) :
    name ∈ imports.namesOf origin ∨
      origin ∈ imports.keys ∧ imports.namesOf origin = [] ∧ name ∈ (Import.mk origin []).binds := by
  obtain ⟨names, hnames, hname⟩ := h
  have hnamesOf : imports.namesOf origin = names := by rw [namesOf, hnames, Option.getD_some]
  by_cases hnone : names = []
  · subst hnone
    exact Or.inr ⟨Entries.isSome_get?_iff.1 (by simp [hnames]), hnamesOf, hname⟩
  · left
    rw [hnamesOf] at hunnamed ⊢
    rwa [Import.binds_of_names hnone hunnamed] at hname

end Imports

/-- A file takes what was asked for, and asks for nothing else but what stands in its first line. -/
theorem SourceFile.takes_iff {f : SourceFile} {r : Request} {imports : Imports} {origin name : String}
    (hfile : f.imports = importSections r imports) (hkeys : imports.keys.Nodup) :
    f.Takes origin name ↔ origin = "__future__" ∧ name = "annotations" ∨ imports.Binds origin name := by
  have hfuture : (⟨"__future__", ["annotations"]⟩ : Import).binds = ["annotations"] := by decide
  unfold SourceFile.Takes Imports.Binds
  rw [hfile]
  simp only [(perm_importSections r imports).mem_iff, List.exists_mem_cons_iff, hfuture, List.mem_singleton]
  refine or_congr (and_congr_left' eq_comm) ?_
  constructor
  · rintro ⟨i, hi, rfl, hname⟩
    obtain ⟨e, he, rfl⟩ := List.mem_map.1 hi
    exact ⟨e.2, (Entries.get?_eq_some_iff hkeys).2 he, (perm_binds_sortTexts e.1 e.2).mem_iff.1 hname⟩
  · rintro ⟨names, hnames, hname⟩
    have hline := List.mem_map_of_mem (f := fun e => Import.mk e.1 (sortTexts e.2)) (Entries.mem_of_get?_eq_some hnames)
    exact ⟨_, hline, rfl, (perm_binds_sortTexts origin names).mem_iff.2 hname⟩

end CrudScaffold.Source
