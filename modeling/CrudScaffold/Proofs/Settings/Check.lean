import CrudScaffold.Proofs.Value
import CrudScaffold.Settings

/-!
# Settings that pass their checks

Every check is described by the property that it passes and by what it makes of a value that has it (`Checks`).  A check
of several parts then passes what has the properties of all parts.  Altogether a mapping becomes settings just when its
keys are known, its parts pass, and its default group is one of its groups (`check_eq_ok_iff`).
-/

namespace CrudScaffold

variable {α β : Type}

/-- The check passes the values that have a property, and reads what they stand for. -/
def Checks (check : α → Checked β) (P : α → Prop) (read : α → β) : Prop :=
  ∀ a b, check a = .ok b ↔ P a ∧ read a = b

namespace Checks

variable {γ : Type} {check : α → Checked β} {P : α → Prop} {read : α → β}

theorem map (h : Checks check P read) (f : β → γ) : Checks (fun a => (check a).map f) P fun a => f (read a) := by
  intro a c
  simp only [map_eq_ok_iff, h a]
  constructor
  · rintro ⟨_, ⟨hP, rfl⟩, hc⟩
    exact ⟨hP, hc⟩
  · exact fun ⟨hP, hc⟩ => ⟨_, ⟨hP, rfl⟩, hc⟩

theorem both {check' : α → Checked γ} {P' : α → Prop} {read' : α → γ} (h : Checks check P read)
    (h' : Checks check' P' read') :
    Checks (fun a => Checked.both (check a) (check' a)) (fun a => P a ∧ P' a) fun a => (read a, read' a) := by
  rintro a ⟨b, c⟩
  simp only [both_eq_ok_iff, h a, h' a, Prod.mk.injEq]
  exact and_and_and_comm

theorem all (h : Checks check P read) :
    Checks (Checked.all check) (fun parts => ∀ part ∈ parts, P part) (·.map read) := by
  intro parts bs
  induction parts generalizing bs with
  | nil => simp [Checked.all]
  | cons part parts ih =>
    simp only [Checked.all, map_eq_ok_iff, both_eq_ok_iff, Prod.exists, ih, h part, List.forall_mem_cons, List.map_cons]
    constructor
    · rintro ⟨_, _, ⟨⟨hpart, rfl⟩, hparts, rfl⟩, rfl⟩
      exact ⟨⟨hpart, hparts⟩, rfl⟩
    · rintro ⟨⟨hpart, hparts⟩, rfl⟩
      exact ⟨_, _, ⟨⟨hpart, rfl⟩, hparts, rfl⟩, rfl⟩

theorem under (h : Checks check P read) (step : Step) : Checks (fun a => Checked.under step (check a)) P read :=
  fun a b => mapError_eq_ok_iff.trans (h a b)

end Checks

namespace Settings

variable {entries : List (Scalar × Value)}

/-! ### Mappings with known keys -/

/-- All keys are texts, and known ones. -/
def KeysAmong (known : List String) (entries : List (Scalar × Value)) : Prop :=
  ∀ e ∈ entries, ∃ name ∈ known, e.1 = .text name

/-- What stands under a name has a property, if anything does. -/
def PartIs (name : String) (P : Value → Prop) (entries : List (Scalar × Value)) : Prop :=
  ∀ v, Value.find? name entries = some v → P v

theorem partIs_of_none {name : String} (P : Value → Prop) (h : Value.find? name entries = none) :
    PartIs name P entries :=
  fun _ hv => absurd (h.symm.trans hv) nofun

theorem partIs_of_some {name : String} {P : Value → Prop} {v : Value} (h : Value.find? name entries = some v)
    (hv : P v) : PartIs name P entries :=
  fun _ hu => Option.some.inj (h.symm.trans hu) ▸ hv

private theorem checks_onlyKeys (known : List String) : Checks (onlyKeys known) (KeysAmong known) fun _ => () := by
  delta onlyKeys
  refine Checks.map (@Checks.all _ _ _ _ (fun _ => ()) ?_) fun _ => ()
  rintro ⟨key, v⟩ u
  cases key with
  | text s => by_cases hs : s ∈ known <;> simp [hs]
  | _ => simp

private theorem checks_checkFields {check : List (Scalar × Value) → Checked α} {P : List (Scalar × Value) → Prop}
    {read : List (Scalar × Value) → α} (h : Checks check P read) (known : List String) :
    Checks (checkFields known check) (fun entries => P entries ∧ KeysAmong known entries) read := by
  intro entries a
  have hparts := (h.both (checks_onlyKeys known)).map Prod.fst entries a
  have hbroken (hkeys : KeysAmong known entries) : ¬ (entries.any fun e => isBroken e.1) = true := by
    intro hany
    obtain ⟨e, he, hbroken⟩ := List.any_eq_true.1 hany
    obtain ⟨name, -, hname⟩ := hkeys e he
    rw [hname] at hbroken
    cases hbroken
  rw [checkFields, refuse_eq_ok_iff, hparts]
  exact and_iff_right_of_imp fun h => hbroken h.1.2

private theorem checks_optional {check : Value → Checked α} {P : Value → Prop} {read : Value → α}
    (h : Checks check P read) (name : String) (fallback : α) :
    Checks (optional name fallback check) (PartIs name P)
      fun entries => ((Value.find? name entries).map read).getD fallback := by
  intro entries a
  unfold optional PartIs
  dsimp only
  cases Value.find? name entries with
  | none => simp
  | some v => simpa using h.under (.key (.text name)) v a

/-! ### Groups -/

/-- A value that settles a word, or nothing. -/
def IsWord (v : Value) : Prop := v.isNull = true ∨ ∃ s, v.word? = some s

/-- A value that settles what the two keys of a group can. -/
def IsGroup (v : Value) : Prop :=
  ∃ fields, v = .mapping fields ∧ (PartIs "plugin_path" IsWord fields ∧ PartIs "namespace" IsWord fields) ∧
    KeysAmong ["plugin_path", "namespace"] fields

/-- What is settled for a group, where keys that are missing settle nothing. -/
def groupOf : Value → Group
  | .mapping fields =>
    ⟨(Value.find? "plugin_path" fields).bind Value.word?, (Value.find? "namespace" fields).bind Value.word?⟩
  | _ => ⟨none, none⟩

private theorem word?_of_isNull {v : Value} (h : v.isNull = true) : v.word? = none := by
  rw [Value.eq_null_of_isNull h]
  rfl

private theorem checks_checkWord (name : String) :
    Checks (checkWord name) (PartIs name IsWord) fun fields => (Value.find? name fields).bind Value.word? := by
  intro fields word
  unfold checkWord PartIs IsWord
  dsimp only
  cases Value.find? name fields with
  | none => simp
  | some v =>
    simp only [Option.some.injEq, forall_eq', Option.bind_some]
    by_cases hnull : v.isNull = true
    · simp [hnull, word?_of_isNull hnull]
    · rw [if_neg hnull, mapError_eq_ok_iff, map_eq_ok_iff, or_iff_right hnull]
      simp only [Value.checkSymbols_eq_ok_iff]
      constructor
      · rintro ⟨s, hs, rfl⟩
        exact ⟨⟨s, hs⟩, hs⟩
      · rintro ⟨⟨s, hs⟩, rfl⟩
        exact ⟨s, hs, hs.symm⟩

private theorem checks_checkGroup : Checks checkGroup IsGroup groupOf := by
  intro v g
  cases v with
  | mapping fields =>
    have hwords := ((checks_checkWord "plugin_path").both (checks_checkWord "namespace")).map fun p => Group.mk p.1 p.2
    simpa [IsGroup, checkGroup, groupOf] using checks_checkFields hwords ["plugin_path", "namespace"] fields g
  | _ => simp [checkGroup, IsGroup]

/-- The groups by their names, of which the last ones count. -/
def groupsOf : Value → Entries Text.Symbols Group
  | .mapping groups => .ofList (groups.map fun e => (e.1.name, groupOf e.2))
  | _ => []

/-- A value that settles groups under keys that are texts. -/
def IsGroups (v : Value) : Prop :=
  ∃ groups, v = .mapping groups ∧ ∀ e ∈ groups, e.1.symbols?.isSome = true ∧ IsGroup e.2

private theorem checks_checkGroups : Checks checkGroups IsGroups groupsOf := by
  intro v result
  cases v with
  | mapping groups =>
    rw [checkGroups]
    refine ((@Checks.all _ _ _ (fun e => e.1.symbols?.isSome = true ∧ IsGroup e.2)
      (fun e => (e.1.name, groupOf e.2)) ?_).map _ groups result).trans ?_
    · rintro ⟨key, v⟩ part
      have hv (g : Group) : Checked.under (.key key) (checkGroup v) = .ok g ↔ IsGroup v ∧ groupOf v = g :=
        checks_checkGroup.under (.key key) v g
      cases key <;> simp [map_eq_ok_iff, hv, and_assoc, Scalar.symbols?, Scalar.name, Scalar.label]
    · simp [IsGroups, groupsOf]
  | _ => simp [checkGroups, IsGroups]

/-! ### The other parts -/

/-- The values in a list or a set. -/
def items? : Value → Option (List Value)
  | .list items => some items
  | .set members => some (members.map .scalar)
  | _ => none

/-- A list or a set of names, each of an option that `all` can stand for. -/
def IsGenerates (v : Value) : Prop :=
  ∃ items, items? v = some items ∧ ∀ item ∈ items, ∃ o ∈ Choice.options, o ≠ .all ∧ item.text? = some o.name

def generatesOf (v : Value) : List Choice :=
  ((items? v).getD []).filterMap fun item => item.text?.bind generated?

private theorem generated?_eq_some_iff {name : String} {o : Choice} :
    generated? name = some o ↔ o ∈ Choice.options ∧ o ≠ .all ∧ name = o.name := by
  have hnames : ∀ o ∈ generated, generated? o.name = some o := by decide
  have hgenerated : o ∈ generated ↔ o ∈ Choice.options ∧ o ≠ .all := by simp [generated]
  rw [← and_assoc, ← hgenerated]
  constructor
  · intro h
    unfold generated? at h
    have hname := List.find?_some h
    exact ⟨List.mem_of_find?_eq_some h, (beq_iff_eq.1 hname).symm⟩
  · rintro ⟨ho, rfl⟩
    exact hnames o ho

/-- What is read from a list of names are options that `all` can stand for. -/
theorem isOption_of_mem_generatesOf {v : Value} {o : Choice} (h : o ∈ generatesOf v) :
    o ∈ Choice.options ∧ o ≠ .all := by
  obtain ⟨item, -, hitem⟩ := List.mem_filterMap.1 h
  obtain ⟨name, -, hname⟩ := Option.bind_eq_some_iff.1 hitem
  obtain ⟨ho, hne, -⟩ := generated?_eq_some_iff.1 hname
  exact ⟨ho, hne⟩

/-- The word of a value, if it has one. -/
private def wordOrEmpty (v : Value) : Text.Symbols := v.word?.getD []

private theorem choice_wordOrEmpty (v : Value) :
    (Text.Symbol.string? (wordOrEmpty v)).bind generated? = v.text?.bind generated? := by
  rw [Value.text?_eq, wordOrEmpty]
  cases v.word? with
  | some symbols => rfl
  | none => exact (by decide : generated? "" = none)

/-- What is an option has a word. -/
private theorem isSome_word?_of_choice {v : Value} (h : (v.text?.bind generated?).isSome = true) :
    v.word?.isSome = true := by
  rw [Value.text?_eq] at h
  cases hword : v.word? with
  | some symbols => rfl
  | none =>
    rw [hword] at h
    cases h

private theorem all_checkSymbols_eq_ok_iff (items : List Value) (names : List Text.Symbols) :
    Checked.all (fun x : Value × Nat => x.1.checkSymbols.mapError fun kind => [Fault.mk [.index x.2] kind])
        items.zipIdx = .ok names ↔
      (∀ item ∈ items, item.word?.isSome = true) ∧ items.map wordOrEmpty = names := by
  have hitem : Checks (fun x : Value × Nat => x.1.checkSymbols.mapError fun kind => [Fault.mk [.index x.2] kind])
      (fun e => e.1.word?.isSome = true) fun e => wordOrEmpty e.1 := by
    rintro ⟨item, i⟩ symbols
    simp only [mapError_eq_ok_iff, Value.checkSymbols_eq_ok_iff, wordOrEmpty]
    cases item.word? <;> simp
  refine (hitem.all items.zipIdx names).trans ?_
  -- the places of the items are only for the faults
  generalize hplaced : items.zipIdx = placed
  obtain rfl : placed.map Prod.fst = items := hplaced ▸ List.zipIdx_map_fst 0 items
  simp only [List.forall_mem_map, List.map_map]
  rfl

private theorem checkGenerates_list (items : List Value) (os : List Choice) :
    checkGenerates (.list items) = .ok os ↔
      (∀ item ∈ items, (item.text?.bind generated?).isSome = true) ∧
        (items.filterMap fun item => item.text?.bind generated?) = os := by
  simp only [checkGenerates, bind_eq_ok_iff, all_checkSymbols_eq_ok_iff, and_assoc, exists_and_left, exists_eq_left']
  have hunknown : (((items.map wordOrEmpty).filter fun name =>
      ((Text.Symbol.string? name).bind generated?).isNone).isEmpty = true) ↔
      ∀ item ∈ items, (item.text?.bind generated?).isSome = true := by
    simp only [List.isEmpty_iff, List.filter_eq_nil_iff, List.forall_mem_map, choice_wordOrEmpty,
      Bool.not_eq_true, Option.isNone_eq_false_iff]
  have hknown : (items.map wordOrEmpty).filterMap (fun name => (Text.Symbol.string? name).bind generated?) =
      items.filterMap fun item => item.text?.bind generated? := by
    rw [List.filterMap_map]
    simp only [Function.comp_def, choice_wordOrEmpty]
  rw [hknown]
  constructor
  · rintro ⟨-, h⟩
    split at h
    · exact ⟨hunknown.1 ‹_›, Except.ok.inj h⟩
    · cases h
  · rintro ⟨h, rfl⟩
    exact ⟨fun item hitem => isSome_word?_of_choice (h item hitem), if_pos (hunknown.2 h)⟩

private theorem isOption_iff {v : Value} :
    (v.text?.bind generated?).isSome = true ↔ ∃ o ∈ Choice.options, o ≠ .all ∧ v.text? = some o.name := by
  simp only [Option.isSome_iff_exists, Option.bind_eq_some_iff, generated?_eq_some_iff]
  constructor
  · rintro ⟨o, name, htext, ho, hne, rfl⟩
    exact ⟨o, ho, hne, htext⟩
  · rintro ⟨o, ho, hne, htext⟩
    exact ⟨o, o.name, htext, ho, hne, rfl⟩

private theorem checks_checkGenerates : Checks checkGenerates IsGenerates generatesOf := by
  have hlist (items : List Value) (os : List Choice) :
      checkGenerates (.list items) = .ok os ↔ IsGenerates (.list items) ∧ generatesOf (.list items) = os := by
    rw [checkGenerates_list]
    refine and_congr_left fun _ => ?_
    simp only [isOption_iff, IsGenerates, items?, Option.some.injEq, exists_eq_left']
  intro v os
  cases v with
  | list items => exact hlist items os
  | set members => exact hlist (members.map .scalar) os
  | _ => simp [checkGenerates, IsGenerates, items?]

/-- A text that is not empty. -/
def IsName (v : Value) : Prop := ∃ s, v.text? = some s ∧ s ≠ ""

def nameOf (v : Value) : String := v.text?.getD ""

private theorem checks_name :
    Checks (fun v : Value => v.checkNonemptyText.mapError fun kind => [⟨[], kind⟩]) IsName nameOf := by
  intro v s
  rw [mapError_eq_ok_iff, Value.checkNonemptyText_eq_ok_iff, IsName, nameOf]
  constructor
  · rintro ⟨htext, hne⟩
    exact ⟨⟨s, htext, hne⟩, by rw [htext]; rfl⟩
  · rintro ⟨⟨t, htext, hne⟩, hs⟩
    rw [htext] at hs ⊢
    obtain rfl : t = s := hs
    exact ⟨rfl, hne⟩

/-! ### Settings -/

/-- The keys and the parts of settings. -/
structure IsSettings (entries : List (Scalar × Value)) : Prop where
  keys : KeysAmong ["default_generates", "default_path_group", "groups"] entries
  generates : PartIs "default_generates" IsGenerates entries
  name : PartIs "default_path_group" IsName entries
  groups : PartIs "groups" IsGroups entries

/-- The settings that a mapping stands for. -/
def ofEntries (entries : List (Scalar × Value)) : Settings :=
  ⟨((Value.find? "default_generates" entries).map generatesOf).getD fallbackGenerates,
    ((Value.find? "default_path_group" entries).map nameOf).getD fallbackGroup,
    ((Value.find? "groups" entries).map groupsOf).getD fallback.groups⟩

private theorem checkDefault_eq_ok_iff {s s' : Settings} :
    checkDefault s = .ok s' ↔ s.defaultName ∈ s.groups.keys ∧ s = s' := by
  unfold checkDefault
  by_cases h : s.defaultName ∈ s.groups.keys <;> simp [h]

/-- A mapping becomes settings just when its keys and its parts are fit for it and the default group is one of the
groups. -/
theorem check_eq_ok_iff {s : Settings} :
    check (.mapping entries) = .ok s ↔
      IsSettings entries ∧ (ofEntries entries).defaultName ∈ (ofEntries entries).groups.keys ∧
        ofEntries entries = s := by
  have hparts := (((checks_optional checks_checkGenerates "default_generates" fallbackGenerates).both
    (checks_optional checks_name "default_path_group" fallbackGroup)).both
    (checks_optional checks_checkGroups "groups" fallback.groups)).map fun p => Settings.mk p.1.1 p.1.2 p.2
  have hfields (s : Settings) : checkFields _ checkParts entries = .ok s ↔ _ ∧ ofEntries entries = s :=
    checks_checkFields hparts ["default_generates", "default_path_group", "groups"] entries s
  rw [check, bind_eq_ok_iff]
  simp only [hfields, checkDefault_eq_ok_iff]
  constructor
  · rintro ⟨_, ⟨⟨⟨⟨hgenerates, hname⟩, hgroups⟩, hkeys⟩, rfl⟩, hdefault, rfl⟩
    exact ⟨⟨hkeys, hgenerates, hname, hgroups⟩, hdefault, rfl⟩
  · rintro ⟨h, hdefault, rfl⟩
    exact ⟨_, ⟨⟨⟨⟨h.generates, h.name⟩, h.groups⟩, h.keys⟩, rfl⟩, hdefault, rfl⟩

end Settings

end CrudScaffold
