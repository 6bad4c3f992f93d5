import CrudScaffold.Proofs.Run.Dispatch
import CrudScaffold.Proofs.Selection

/-!
# What flags and defaults come to

Of the flags for one option the last one counts, in whichever spelling it is written, and `all` adds the defaults.  So
a list of flags is no more than a truth value for every option (`Flags.normalise_eq`), what is made of it is again one
(`Flags.expand_eq`, `Selection.build_eq`), and neither the order of flags for different options nor the order and the
number of the defaults is in it.
-/

namespace CrudScaffold

namespace Choice

/-- The name is one of the two spellings of the choice. -/
def isCalled (c : Choice) (name : String) : Bool := name == c.name || name == c.key

theorem name_injective {c d : Choice} (h : c.name = d.name) : c = d := by
  have hkey : c.key = d.key := congrArg underscored h
  exact Option.some.inj ((ofKey?_key c).symm.trans (hkey ▸ ofKey?_key d))

/-- A name of an option is looked up for the option that is called so. -/
theorem option?_of_isOptionName {name : String} (h : IsOptionName name) :
    ∃ c ∈ options, option? name = some c ∧ ∀ d ∈ options, d.isCalled name = true ↔ d = c := by
  have hall : ∀ c ∈ options, (option? c.name = some c ∧ ∀ d ∈ options, d.isCalled c.name = true ↔ d = c) ∧
      option? c.key = some c ∧ ∀ d ∈ options, d.isCalled c.key = true ↔ d = c := by decide
  obtain ⟨c, hc, rfl | rfl⟩ := h
  · exact ⟨c, hc, (hall c hc).1⟩
  · exact ⟨c, hc, (hall c hc).2⟩

end Choice

open Choice (IsOptionName options)

namespace Flags

variable {flags flags' : List (String × Bool)} {defaults defaults' : List Choice} {on : Choice → Bool}

/-- The last flag for a choice. -/
def last? (flags : List (String × Bool)) (c : Choice) : Option Bool :=
  (flags.filter fun flag => c.isCalled flag.1).getLast?.map Prod.snd

/-- The options with a truth value for each. -/
def ofOptions (on : Choice → Bool) : Flags :=
  options.map fun c => (c.name, on c)

/-- What the flags for a choice come to when `all` stands for the given options. -/
def asked (flags : List (String × Bool)) (defaults : List Choice) (c : Choice) : Bool :=
  (last? flags c).getD false || (last? flags .all).getD false && defaults.contains c

/-! ### Truth values of options -/

theorem ofOptions_congr {on on' : Choice → Bool} (h : ∀ c ∈ options, on c = on' c) : ofOptions on = ofOptions on' :=
  List.map_congr_left fun c hc => by rw [h c hc]

theorem keys_ofOptions (on : Choice → Bool) : (ofOptions on).keys = options.map Choice.name := List.map_map

theorem nodup_keys_ofOptions (on : Choice → Bool) : (ofOptions on).keys.Nodup := by
  rw [keys_ofOptions]
  decide

theorem isSet_ofOptions {c : Choice} (hc : c ∈ options) : (ofOptions on).isSet c.name = on c := by
  have hget : (ofOptions on).get? c.name = some (on c) :=
    (Entries.get?_eq_some_iff (nodup_keys_ofOptions on)).2 (List.mem_map_of_mem hc)
  rw [isSet, hget]
  rfl

/-- A write under the name of a choice changes its truth value only. -/
private theorem put_map_name {l : List Choice} (hl : l.Nodup) {c : Choice} (hc : c ∈ l) (value : Bool) :
    Entries.put c.name value (l.map fun d => (d.name, on d)) =
      l.map fun d => (d.name, if d = c then value else on d) := by
  induction l with
  | nil => cases hc
  | cons d l ih =>
    obtain ⟨hfresh, hl⟩ := List.nodup_cons.1 hl
    rw [List.map_cons, List.map_cons, Entries.put]
    by_cases hcd : c = d
    · subst hcd
      have hothers : l.map (fun d => (d.name, on d)) = l.map fun d => (d.name, if d = c then value else on d) :=
        List.map_congr_left fun e he => by rw [if_neg (ne_of_mem_of_not_mem he hfresh)]
      rw [if_pos rfl, if_pos rfl, hothers]
    · have hmem : c ∈ l := (List.mem_cons.1 hc).resolve_left hcd
      rw [if_neg fun heq => hcd (Choice.name_injective heq), if_neg (Ne.symm hcd), ih hl hmem]

theorem put_ofOptions {c : Choice} (hc : c ∈ options) (value : Bool) :
    (ofOptions on).put c.name value = ofOptions fun d => if d = c then value else on d :=
  put_map_name (by decide) hc value

/-- Choices are switched on one after the other. -/
private theorem foldl_put_true (hdefaults : ∀ c ∈ defaults, c ∈ options) :
    (defaults.map Choice.name).foldl (fun r name => r.put name true) (ofOptions on) =
      ofOptions fun c => on c || defaults.contains c := by
  induction defaults generalizing on with
  | nil => simp
  | cons d defaults ih =>
    rw [List.map_cons, List.foldl_cons, put_ofOptions (hdefaults d (by simp)), ih fun c hc => hdefaults c (by simp [hc])]
    refine ofOptions_congr fun c _ => ?_
    by_cases hcd : c = d <;> simp [hcd]

/-! ### Flags -/

theorem isOptionName_name {c : Choice} (hc : c ∈ options) : IsOptionName c.name := ⟨c, hc, Or.inl rfl⟩

theorem last?_cons {flag : String × Bool} (c : Choice) :
    last? (flag :: flags) c = (last? flags c).or (if c.isCalled flag.1 then some flag.2 else none) := by
  unfold last?
  rw [List.filter_cons]
  split
  · rw [List.getLast?_cons]
    cases (flags.filter fun flag => c.isCalled flag.1).getLast? <;> rfl
  · rw [Option.or_none]

/-- The last flag for an option counts, and an option without a flag keeps its truth value. -/
private theorem foldlM_setFlag (hflags : ∀ flag ∈ flags, IsOptionName flag.1) :
    flags.foldlM setFlag (ofOptions on) = .ok (ofOptions fun c => (last? flags c).getD (on c)) := by
  induction flags generalizing on with
  | nil => rfl
  | cons flag flags ih =>
    obtain ⟨c, hc, hlookup, hcalled⟩ := Choice.option?_of_isOptionName (hflags flag (by simp))
    have hset : setFlag (ofOptions on) flag = .ok (ofOptions fun d => if d = c then flag.2 else on d) := by
      rw [setFlag, hlookup]
      exact congrArg Except.ok (put_ofOptions hc flag.2)
    rw [List.foldlM_cons, hset]
    refine (ih fun f hf => hflags f (by simp [hf])).trans (congrArg Except.ok (ofOptions_congr fun d hd => ?_))
    rw [last?_cons]
    simp only [hcalled d hd]
    cases last? flags d <;> by_cases hdc : d = c <;> simp [hdc]

theorem normalise_eq (hflags : ∀ flag ∈ flags, IsOptionName flag.1) :
    normalise flags = .ok (ofOptions fun c => (last? flags c).getD false) :=
  foldlM_setFlag hflags

theorem expand_eq (hflags : ∀ flag ∈ flags, IsOptionName flag.1) (hdefaults : ∀ c ∈ defaults, c ∈ options) :
    expand flags (defaults.map Choice.name) = .ok (ofOptions (asked flags defaults)) := by
  rw [expand, normalise_eq hflags]
  refine congrArg Except.ok ?_
  dsimp only
  rw [isSet_ofOptions (by decide)]
  unfold asked
  cases (last? flags .all).getD false with
  | false => simp
  | true => simpa using foldl_put_true hdefaults

/-- Flags that are truth values of options say of an option just that. -/
theorem last?_ofOptions {c : Choice} (hc : c ∈ options) : last? (ofOptions on) c = some (on c) := by
  have honly : options.filter (fun d => c.isCalled d.name) = [c] := by
    have hall : ∀ c ∈ options, options.filter (fun d => c.isCalled d.name) = [c] := by decide
    exact hall c hc
  have hfilter : (ofOptions on).filter (fun flag => c.isCalled flag.1) =
      (options.filter fun d => c.isCalled d.name).map fun d => (d.name, on d) := List.filter_map
  rw [last?, hfilter, honly]
  rfl

/-- What has been expanded expands to itself. -/
theorem expand_expand (hdefaults : ∀ c ∈ defaults, c ∈ options) :
    expand (ofOptions (asked flags defaults)) (defaults.map Choice.name) = .ok (ofOptions (asked flags defaults)) := by
  have hnames : ∀ flag ∈ ofOptions (asked flags defaults), IsOptionName flag.1 := by
    intro flag hflag
    obtain ⟨c, hc, rfl⟩ := List.mem_map.1 hflag
    exact isOptionName_name hc
  rw [expand_eq hnames hdefaults]
  refine congrArg Except.ok (ofOptions_congr fun c hc => ?_)
  rw [asked, last?_ofOptions hc, last?_ofOptions (by decide), Option.getD_some, Option.getD_some]
  -- `all` is on after the expansion exactly if it was before
  unfold asked
  cases (last? flags .all).getD false <;> simp

theorem asked_eq_true_iff {c : Choice} :
    asked flags defaults c = true ↔ last? flags c = some true ∨ last? flags .all = some true ∧ c ∈ defaults := by
  have hget (o : Option Bool) : o.getD false = true ↔ o = some true := by
    cases o <;> simp
  rw [asked, Bool.or_eq_true, Bool.and_eq_true, hget, hget, List.contains_iff_mem]

end Flags

namespace Selection

open Flags (ofOptions)

variable {flags : List (String × Bool)} {defaults : List Choice} {on : Choice → Bool}

/-- The selection in which the options have the given truth values, and the other choices follow. -/
def ofOptions (on : Choice → Bool) : Selection where
  isOn
    | .createRequest | .updateRequest => on .request
    | .model => true
    | c => on c

theorem isOn_ofOptions {c : Choice} (hc : c ∈ options) : (ofOptions on).isOn c = on c := by
  cases c with
  | createRequest | updateRequest | model => exact absurd hc (by decide)
  | _ => rfl

theorem ofOptions_congr {on on' : Choice → Bool} (h : ∀ c ∈ options, on c = on' c) : ofOptions on = ofOptions on' := by
  refine congrArg Selection.mk (funext fun c => ?_)
  cases c with
  | createRequest | updateRequest => exact h .request (by decide)
  | model => rfl
  | _ => exact h _ (by decide)

private theorem all_checkEntry (on : Choice → Bool) (l : List Choice) :
    Checked.all checkEntry (l.map fun c => (c.key, Value.scalar (.bool (on c)))) = .ok (l.map fun c => (c, on c)) := by
  induction l with
  | nil => rfl
  | cons c l ih =>
    have hentry : checkEntry (c.key, Value.scalar (.bool (on c))) = .ok (c, on c) := by
      rw [checkEntry, Choice.ofKey?_key]
      rfl
    rw [List.map_cons, Checked.all, hentry, ih]
    rfl

private theorem ofList_keys (on : Choice → Bool) :
    Entries.ofList ((Flags.ofOptions on).map fun e => (Choice.underscored e.1, Value.scalar (.bool e.2))) =
      options.map fun c => (c.key, Value.scalar (.bool (on c))) := by
  have hentries : (Flags.ofOptions on).map (fun e => (Choice.underscored e.1, Value.scalar (.bool e.2))) =
      options.map fun c => (c.key, Value.scalar (.bool (on c))) := List.map_map
  have hkeys : Entries.keys (options.map fun c => (c.key, Value.scalar (.bool (on c)))) = options.map Choice.key :=
    List.map_map
  rw [hentries]
  refine Entries.ofList_of_nodup ?_
  rw [hkeys]
  decide

/-- The truth values of the options make a selection. -/
theorem build_eq (hflags : ∀ flag ∈ flags, IsOptionName flag.1) (hdefaults : ∀ c ∈ defaults, c ∈ options) :
    build flags (defaults.map Choice.name) = .ok (ofOptions (Flags.asked flags defaults)) := by
  rw [build, Flags.expand_eq hflags hdefaults]
  simp only [ofList_keys, ofValues, all_checkEntry, Except.map]
  refine congrArg Except.ok (congrArg Selection.mk (funext fun d => ?_))
  cases d <;> rfl

end Selection

/-! ### From flags to generators -/

/-- What flags come to when `all` stands for the given options: the expanded flags, and the selection made of them. -/
structure Expansion (flags : List (String × Bool)) (defaults : List Choice) (expanded : Flags) (s : Selection) :
    Prop where
  expand : Flags.expand flags (defaults.map Choice.name) = .ok expanded
  again : Flags.expand expanded (defaults.map Choice.name) = .ok expanded
  keys : expanded.keys = options.map Choice.name
  build : Selection.build flags (defaults.map Choice.name) = .ok s
  /-- An option is on if its last flag says so, or if the last flag for `all` does and it is one of the defaults. -/
  isOn : ∀ c ∈ options, s.isOn c = true ↔
    Flags.last? flags c = some true ∨ Flags.last? flags .all = some true ∧ c ∈ defaults
  /-- The expanded flags say the same of the options as the selection. -/
  isSet : ∀ c ∈ options, expanded.isSet c.name = s.isOn c
  bodies : s.isOn .createRequest = s.isOn .request ∧ s.isOn .updateRequest = s.isOn .request
  model : s.isOn .model = true

/-- A request is served by the generators of the kinds that are selected, in the order of all kinds. -/
structure Command.RunsSelected (c : Command) (r : Request) (s : Selection) : Prop where
  selection : ∀ choice : Choice, r.isSelected choice.name = .ok (s.isOn choice)
  ordered : (c.chosenKinds r).Sublist Registry.dispatchOrder
  mem_iff : ∀ k, k ∈ c.chosenKinds r ↔ s.isOn k.choice = true
  called : ∀ w, ∃ calls, Follows w calls (outcome (c.dispatch r) w).2 ∧
    CallsEnd (c.chosenKinds r) calls (outcome (c.dispatch r) w).1

section

variable {flags flags' : List (String × Bool)} {defaults defaults' : List Choice}

theorem expansion_asked (hflags : ∀ flag ∈ flags, IsOptionName flag.1) (hdefaults : ∀ c ∈ defaults, c ∈ options) :
    Expansion flags defaults (Flags.ofOptions (Flags.asked flags defaults))
      (Selection.ofOptions (Flags.asked flags defaults)) where
  expand := Flags.expand_eq hflags hdefaults
  again := Flags.expand_expand hdefaults
  keys := Flags.keys_ofOptions _
  build := Selection.build_eq hflags hdefaults
  isOn c hc := by
    rw [Selection.isOn_ofOptions hc]
    exact Flags.asked_eq_true_iff
  isSet c hc := by rw [Flags.isSet_ofOptions hc, Selection.isOn_ofOptions hc]
  bodies := ⟨rfl, rfl⟩
  model := rfl

/-- Only the last flag for each option counts, and which options are defaults. -/
theorem Flags.asked_congr (hflags : ∀ c ∈ options, last? flags' c = last? flags c)
    (hdefaults : ∀ c, c ∈ defaults' ↔ c ∈ defaults) :
    ∀ c ∈ options, asked flags' defaults' c = asked flags defaults c := by
  intro c hc
  refine Bool.eq_iff_iff.2 ?_
  rw [asked_eq_true_iff, asked_eq_true_iff, hflags c hc, hflags .all (by decide), hdefaults]

/-- With the generators of all kinds, those of the kinds that are selected are called. -/
theorem Command.runsSelected {c : Command} (hstandard : c.registry = .standard) (r : Request) :
    c.RunsSelected r r.selection := by
  obtain ⟨hkinds, -⟩ := chosenKinds_standard hstandard r
  refine ⟨fun choice => by cases choice <;> rfl, ?_, fun k => ?_, fun w => ?_⟩
  · rw [hkinds]
    exact List.filter_sublist
  · have hall : k ∈ Registry.dispatchOrder := by cases k <;> decide
    rw [hkinds, List.mem_filter]
    exact and_iff_right hall
  · obtain ⟨calls, hfollows, hend, -⟩ := c.dispatch_calls r w
    exact ⟨calls, hfollows, hend⟩

end

end CrudScaffold
