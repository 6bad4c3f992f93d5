import CrudScaffold.Proofs.Settings.Check
import CrudScaffold.Settings.Load

/-!
# Completed groups

The groups of a document are named by the texts that their keys have.  Where several keys have one text the last one
counts (`get?_groupsOf_completeGroups`).  A group without settings settles nothing, and the built-in default group is
put to the others if runs that name no group need it (`mem_keys_groupsOf_completeGroups`).
-/

namespace CrudScaffold.Settings

open Text (Symbol Symbols)

variable {entries groups : List (Scalar × Value)} {name : Symbols}

/-- What stands under the last key with a name. -/
def lastUnder (name : Symbols) (groups : List (Scalar × Value)) : Option Value :=
  Entries.get? name (groups.map fun e => (e.1.name, e.2)).reverse

/-- The default group is left open, or has the name of the built-in one. -/
def NamesBuiltIn (entries : List (Scalar × Value)) : Prop :=
  ∀ v, Value.find? "default_path_group" entries = some v → v = .text "default"

theorem isSome_lastUnder_iff : (lastUnder name groups).isSome = true ↔ ∃ e ∈ groups, e.1.name = name := by
  rw [lastUnder, Entries.isSome_get?_iff, Entries.keys, List.map_reverse, List.mem_reverse, List.map_map, List.mem_map]
  rfl

/-- What is found under a name stands under a key. -/
theorem exists_of_lastUnder {v : Value} (h : lastUnder name groups = some v) :
    ∃ e ∈ groups, e.1.name = name ∧ e.2 = v := by
  have hmem := List.mem_reverse.1 (Entries.mem_of_get?_eq_some h)
  obtain ⟨e, he, heq⟩ := List.mem_map.1 hmem
  exact ⟨e, he, Prod.mk.inj heq⟩

/-! ### The completed groups as a map -/

/-- A value that settles nothing stands for a group without settings. -/
private def orEmpty (v : Value) : Value := if v.isTruthy then v else .mapping []

private def toEntry (e : Symbols × Value) : Scalar × Value := (.ofSymbols e.1, e.2)

private theorem putKey_map (name : Symbols) (v : Value) (l : Entries Symbols Value) :
    Value.putKey (.ofSymbols name) v (l.map toEntry) = (l.put name v).map toEntry := by
  induction l with
  | nil => rfl
  | cons e l ih =>
    obtain ⟨other, old⟩ := e
    simp only [List.map_cons, toEntry, Value.putKey, Entries.put, Scalar.ofSymbols_sameKey_iff]
    split
    · rfl
    · exact congrArg _ ih

private theorem find?_map (s : String) (l : Entries Symbols Value) :
    Value.find? s (l.map toEntry) = l.get? (Symbol.ofString s) := by
  induction l with
  | nil => rfl
  | cons e l ih =>
    obtain ⟨other, v⟩ := e
    rw [List.map_cons, Entries.get?, ← ih, toEntry]
    split
    · rename_i hsame
      rw [← hsame, Scalar.ofSymbols_ofString, Value.find?_cons_self]
    · rename_i hother
      refine Value.find?_cons_of_ne ?_ _ _
      rw [← Scalar.ofSymbols_ofString, ne_eq, Scalar.ofSymbols_inj]
      exact mt Eq.symm hother

/-- The groups by name. -/
private def named (groups : List (Scalar × Value)) : Entries Symbols Value :=
  .ofList (groups.map fun e => (e.1.name, orEmpty e.2))

private theorem namedGroups_eq (groups : List (Scalar × Value)) : namedGroups groups = (named groups).map toEntry := by
  unfold namedGroups named Entries.ofList
  rw [List.foldl_map]
  change List.foldl _ (List.map toEntry []) groups = _
  exact List.foldl_hom (List.map toEntry) fun l e => putKey_map _ _ l

private theorem get?_named (name : Symbols) (groups : List (Scalar × Value)) :
    (named groups).get? name = (lastUnder name groups).map orEmpty := by
  rw [named, Entries.get?_ofList, lastUnder, ← Entries.get?_map, List.map_reverse, List.map_map]
  rfl

private def usesBuiltIn (entries : List (Scalar × Value)) : Bool :=
  (Value.find? "default_path_group" entries).all isFallbackName

private theorem usesBuiltIn_iff : usesBuiltIn entries = true ↔ NamesBuiltIn entries := by
  have hname (v : Value) : isFallbackName v = true ↔ v = .text "default" := by
    cases v with
    | scalar a => cases a <;> simp [isFallbackName, fallbackGroup]
    | _ => simp [isFallbackName]
  rw [usesBuiltIn, NamesBuiltIn]
  cases Value.find? "default_path_group" entries <;> simp [hname]

instance : Decidable (NamesBuiltIn entries) := decidable_of_iff _ usesBuiltIn_iff

/-- The groups by name, with the built-in one if it is needed. -/
private def completed (entries groups : List (Scalar × Value)) : Entries Symbols Value :=
  if usesBuiltIn entries && ((named groups).get? (Symbol.ofString fallbackGroup)).isNone then
    (named groups).put (Symbol.ofString fallbackGroup) fallbackGroupValue
  else named groups

private theorem completeGroups_eq (entries groups : List (Scalar × Value)) :
    completeGroups entries groups = (completed entries groups).map toEntry := by
  simp only [completeGroups, namedGroups_eq, find?_map]
  by_cases hput : (usesBuiltIn entries && ((named groups).get? (Symbol.ofString fallbackGroup)).isNone) = true
  · rw [completed, if_pos hput, ← putKey_map, Scalar.ofSymbols_ofString]
    exact if_pos hput
  · rw [completed, if_neg hput]
    exact if_neg hput

private theorem nodup_completed (entries groups : List (Scalar × Value)) : (completed entries groups).keys.Nodup := by
  unfold completed
  split
  · exact Entries.nodup_keys_put (Entries.nodup_keys_ofList _) _ _
  · exact Entries.nodup_keys_ofList _

private theorem get?_completed (name : Symbols) (entries groups : List (Scalar × Value)) :
    (completed entries groups).get? name =
      ((lastUnder name groups).map orEmpty).or
        (if name = Symbol.ofString "default" ∧ NamesBuiltIn entries then some fallbackGroupValue else none) := by
  rw [← get?_named, completed]
  by_cases hput : usesBuiltIn entries = true ∧ (named groups).get? (Symbol.ofString fallbackGroup) = none
  · obtain ⟨hused, hnone⟩ := hput
    rw [if_pos (by rw [hused, hnone]; rfl), Entries.get?_put]
    by_cases hname : name = Symbol.ofString fallbackGroup
    · rw [if_pos hname, hname, hnone, if_pos ⟨rfl, usesBuiltIn_iff.1 hused⟩]
      rfl
    · rw [if_neg hname, if_neg fun h => hname h.1, Option.or_none]
  · rw [if_neg (by simpa using hput)]
    by_cases hbuiltIn : name = Symbol.ofString "default" ∧ NamesBuiltIn entries
    · obtain ⟨rfl, hused⟩ := hbuiltIn
      obtain ⟨v, hv⟩ := Option.ne_none_iff_exists'.1 fun hnone => hput ⟨usesBuiltIn_iff.2 hused, hnone⟩
      rw [show (named groups).get? (Symbol.ofString "default") = some v from hv, Option.some_or]
    · rw [if_neg hbuiltIn, Option.or_none]

/-! ### What the completed groups settle -/

/-- A value that settles something for a group, or does not count as given. -/
def SettlesGroup (v : Value) : Prop := v.isTruthy = false ∨ IsGroup v

private theorem isGroup_orEmpty_iff {v : Value} : IsGroup (orEmpty v) ↔ SettlesGroup v := by
  unfold orEmpty SettlesGroup
  cases v.isTruthy with
  | true => simp
  | false => simp [IsGroup, PartIs, KeysAmong, Value.find?]

private theorem groupOf_orEmpty (v : Value) : groupOf (orEmpty v) = groupOf v := by
  unfold orEmpty
  split
  · rfl
  · rename_i hempty
    cases v with
    | mapping fields =>
      obtain rfl : fields = [] := by simpa [Value.isTruthy] using hempty
      rfl
    | _ => rfl

private theorem isGroup_fallbackGroupValue : IsGroup fallbackGroupValue := by
  have hword (s : String) : IsWord (.text s) := Or.inr ⟨s, rfl⟩
  exact ⟨_, rfl, ⟨partIs_of_some rfl (hword fallbackRoot), partIs_of_some rfl (hword fallbackApplication)⟩,
    by simp [KeysAmong]⟩

private theorem groupOf_fallbackGroupValue : groupOf fallbackGroupValue = ⟨some ".", some "app"⟩ := rfl

/-- The completed groups pass the checks if what stands under the last key of every name does. -/
theorem isGroups_completeGroups_iff :
    IsGroups (.mapping (completeGroups entries groups)) ↔
      ∀ name v, lastUnder name groups = some v → SettlesGroup v := by
  have hget (name : Symbols) (v : Value) : (name, v) ∈ completed entries groups ↔ _ = some v :=
    (Entries.get?_eq_some_iff (nodup_completed entries groups)).symm
  simp only [get?_completed] at hget
  rw [completeGroups_eq]
  constructor
  · rintro ⟨_, heq, hall⟩ name v hlast
    obtain rfl := Value.mapping.inj heq
    have hmem : (name, orEmpty v) ∈ completed entries groups := (hget _ _).2 (by rw [hlast]; rfl)
    exact isGroup_orEmpty_iff.1 (hall _ (List.mem_map_of_mem hmem)).2
  · refine fun h => ⟨_, rfl, fun e he => ?_⟩
    obtain ⟨⟨name, v⟩, hmem, rfl⟩ := List.mem_map.1 he
    refine ⟨by rw [toEntry, Scalar.symbols?_ofSymbols]; rfl, ?_⟩
    have hv := (hget name v).1 hmem
    cases hlast : lastUnder name groups with
    | some u =>
      rw [hlast] at hv
      exact Option.some.inj hv ▸ isGroup_orEmpty_iff.2 (h name u hlast)
    | none =>
      rw [hlast, Option.map_none, Option.none_or, Option.ite_none_right_eq_some] at hv
      exact Option.some.inj hv.2 ▸ isGroup_fallbackGroupValue

/-- The groups have what is written under the last key of their name.  The built-in group is put to them if there is no
such key. -/
theorem get?_groupsOf_completeGroups (name : Symbols) (entries groups : List (Scalar × Value)) :
    (groupsOf (.mapping (completeGroups entries groups))).get? name =
      ((lastUnder name groups).map groupOf).or
        (if name = Symbol.ofString "default" ∧ NamesBuiltIn entries then some ⟨some ".", some "app"⟩ else none) := by
  have hnames : (completeGroups entries groups).map (fun e => (e.1.name, groupOf e.2)) =
      (completed entries groups).map fun e => (e.1, groupOf e.2) := by
    rw [completeGroups_eq, List.map_map]
    exact List.map_congr_left fun e _ => by rw [Function.comp_apply, toEntry, Scalar.name_ofSymbols]
  rw [groupsOf, hnames, Entries.get?_ofList, ← List.map_reverse, Entries.get?_map,
    Entries.get?_reverse (nodup_completed entries groups), get?_completed]
  cases lastUnder name groups with
  | some v => simp [groupOf_orEmpty]
  | none =>
    by_cases h : name = Symbol.ofString "default" ∧ NamesBuiltIn entries <;> simp [h, groupOf_fallbackGroupValue]

/-- The groups are named by the texts of the keys, and by that of the built-in group if it is put to them. -/
theorem mem_keys_groupsOf_completeGroups :
    name ∈ (groupsOf (.mapping (completeGroups entries groups))).keys ↔
      (∃ e ∈ groups, e.1.name = name) ∨ name = Symbol.ofString "default" ∧ NamesBuiltIn entries := by
  rw [← Entries.isSome_get?_iff, get?_groupsOf_completeGroups, ← isSome_lastUnder_iff]
  by_cases h : name = Symbol.ofString "default" ∧ NamesBuiltIn entries <;> simp [h]

end CrudScaffold.Settings
