import CrudScaffold.Selection

/-!
# Selections from known options

Flags whose names are options in one of the two spellings always make a selection, whatever the options that `all`
stands for (`build_of_known`).
-/

namespace CrudScaffold

/-- A check that every part passes succeeds. -/
theorem Checked.all_of_forall {α β : Type} {check : α → Checked β} {parts : List α}
    (h : ∀ part ∈ parts, ∃ b, check part = .ok b) : ∃ bs, Checked.all check parts = .ok bs := by
  induction parts with
  | nil => exact ⟨[], rfl⟩
  | cons part parts ih =>
    obtain ⟨b, hb⟩ := h part (by simp)
    obtain ⟨bs, hbs⟩ := ih fun p hp => h p (by simp [hp])
    exact ⟨b :: bs, by rw [Checked.all, hb, hbs]; rfl⟩

namespace Choice

/-- A name of one of the user's options, with hyphens or with underscores. -/
def IsOptionName (name : String) : Prop := ∃ c ∈ options, name = c.name ∨ name = c.key

theorem option?_isSome {name : String} (h : IsOptionName name) : ∃ c, option? name = some c := by
  have hall : ∀ c ∈ options, (option? c.name).isSome ∧ (option? c.key).isSome := by decide
  obtain ⟨c, hc, rfl | rfl⟩ := h
  · exact Option.isSome_iff_exists.1 (hall c hc).1
  · exact Option.isSome_iff_exists.1 (hall c hc).2

theorem ofKey?_key (c : Choice) : ofKey? c.key = some c := by
  cases c <;> decide

end Choice

namespace Flags

/-- Only names of choices, which every write keeps. -/
def Known (flags : Flags) : Prop := ∀ e ∈ flags, ∃ c : Choice, e.1 = c.name

theorem known_unset : Known unset := by
  intro e he
  obtain ⟨c, -, rfl⟩ := List.mem_map.1 he
  exact ⟨c, rfl⟩

theorem Known.put {flags : Flags} (h : flags.Known) (c : Choice) (value : Bool) : Known (flags.put c.name value) := by
  intro e he
  rcases Entries.mem_put he with rfl | he
  · exact ⟨c, rfl⟩
  · exact h e he

theorem normalise_of_known {flags : List (String × Bool)} (h : ∀ flag ∈ flags, Choice.IsOptionName flag.1) :
    ∃ result, normalise flags = .ok result ∧ Known result := by
  have hfold {start : Flags} (hstart : start.Known) :
      ∃ result, flags.foldlM setFlag start = .ok result ∧ Known result := by
    induction flags generalizing start with
    | nil => exact ⟨start, rfl, hstart⟩
    | cons flag flags ih =>
      obtain ⟨c, hc⟩ := Choice.option?_isSome (h flag (by simp))
      have hset : start.setFlag flag = .ok (start.put c.name flag.2) := by rw [setFlag, hc]
      obtain ⟨result, hresult, hknown⟩ := ih (fun f hf => h f (by simp [hf])) (hstart.put c flag.2)
      exact ⟨result, by rw [List.foldlM_cons, hset]; exact hresult, hknown⟩
  exact hfold known_unset

theorem expand_of_known {flags : List (String × Bool)} (h : ∀ flag ∈ flags, Choice.IsOptionName flag.1)
    (defaults : List Choice) : ∃ result, expand flags (defaults.map Choice.name) = .ok result ∧ Known result := by
  obtain ⟨result, hresult, hknown⟩ := normalise_of_known h
  have hfold {start : Flags} (hstart : start.Known) :
      Known ((defaults.map Choice.name).foldl (fun r name => r.put name true) start) := by
    induction defaults generalizing start with
    | nil => exact hstart
    | cons c defaults ih => exact ih (hstart.put c true)
  rw [expand, hresult]
  refine ⟨_, rfl, ?_⟩
  dsimp only
  split
  · exact hfold hknown
  · exact hknown

end Flags

/-- Flags that name options make a selection. -/
theorem Selection.build_of_known {flags : List (String × Bool)} (h : ∀ flag ∈ flags, Choice.IsOptionName flag.1)
    (defaults : List Choice) : ∃ s, Selection.build flags (defaults.map Choice.name) = .ok s := by
  obtain ⟨expanded, hexpanded, hknown⟩ := Flags.expand_of_known h defaults
  have hentries : ∀ e ∈ Entries.ofList (expanded.map fun e => (Choice.underscored e.1, Value.scalar (.bool e.2))),
      ∃ chosen, checkEntry e = .ok chosen := by
    intro e he
    obtain ⟨flag, hflag, rfl⟩ := List.mem_map.1 (Entries.mem_ofList he)
    obtain ⟨c, hc⟩ := hknown flag hflag
    have hkey : Choice.ofKey? (Choice.underscored flag.1) = some c := by
      rw [hc]
      exact Choice.ofKey?_key c
    exact ⟨(c, flag.2), by rw [checkEntry, hkey]; rfl⟩
  obtain ⟨chosen, hchosen⟩ := Checked.all_of_forall hentries
  rw [build, hexpanded]
  simp only [ofValues, hchosen]
  exact ⟨_, rfl⟩

end CrudScaffold
