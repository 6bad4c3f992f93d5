import CrudScaffold.Proofs.Request
import CrudScaffold.Proofs.Run.Task
import CrudScaffold.Proofs.Selection

/-!
# Which arguments are refused

Four checks can fail: that the name of the model is not reserved, that it is well formed, that its group is known
and that its schema can be read.  The first one that fails decides (`firstProblem?`); then nothing runs and nothing
but the problem is said.  What passes all four becomes inputs, unless the name of a group that is known has surrogates
in it, or a place is given without a text (`checks_decide`).
-/

namespace CrudScaffold

open Text (Symbol)

/-- A text that is given, or none. -/
def Given.ofText? : Option String → Given
  | none => .absent
  | some s => .text s

/-- Arguments that are texts in characters wherever they are given. -/
def Arguments.ofTexts (model : String) (schema : Option String) (flags : List (String × Bool))
    (group root application : Option String) : Arguments :=
  ⟨model, schema, flags, group.map Symbol.ofString, .ofText? root, .ofText? application⟩

/-- A place passes if it is a text, given or not. -/
theorem Given.checkSymbols_value (given : Given) (fallback : Text.Symbols) :
    (given.value fallback).checkSymbols =
      if given = .empty then .error .notText else .ok (given.text?.getD fallback) := by
  cases given with
  | absent => exact Value.checkSymbols_symbols fallback
  | empty => rfl
  | text s => exact Value.checkSymbols_symbols s

namespace Command

variable {c : Command} {a : Arguments} {p : Problem}

/-- The problem that the first failing check finds, if one fails. -/
def firstProblem? (c : Command) (a : Arguments) : Option Problem :=
  if isReserved c.reserved a.model then some (.reservedName a.model)
  else if !isModelName a.model then some (.malformedName a.model)
  else if !c.settings.hasGroup (c.groupName a) then some (.unknownGroup (c.groupName a))
  else
    match Schema.parse a.schema with
    | .ok _ => none
    | .error e => some e.problem

/-- What the checks hand on when none of them fails. -/
theorem passed_of_no_problem (h : c.firstProblem? a = none) :
    modelName c.reserved a.model = .ok (Naming.upperFirst a.model) ∧ c.group a = .ok (c.groupName a) ∧
      ∃ s, Schema.parse a.schema = .ok s := by
  unfold firstProblem? at h
  split at h
  · cases h
  rename_i hreserved
  split at h
  · cases h
  rename_i hname
  split at h
  · cases h
  rename_i hgroup
  rw [Bool.not_eq_true', Bool.not_eq_false] at hgroup
  refine ⟨by rw [modelName, if_neg hreserved, if_neg hname], group_eq_ok_iff.2 ⟨rfl, hgroup⟩, ?_⟩
  cases hs : Schema.parse a.schema with
  | ok s => exact ⟨s, rfl⟩
  | error e =>
    rw [hs] at h
    cases h

/-- Every problem that a check finds is one of the input. -/
theorem isInput_of_firstProblem? (h : c.firstProblem? a = some p) : p.isInput = true ∧ p.status = 1 := by
  unfold firstProblem? at h
  split at h
  · exact Option.some.inj h ▸ ⟨rfl, rfl⟩
  split at h
  · exact Option.some.inj h ▸ ⟨rfl, rfl⟩
  split at h
  · exact Option.some.inj h ▸ ⟨rfl, rfl⟩
  split at h
  · cases h
  · exact Option.some.inj h ▸ ⟨rfl, rfl⟩

/-- The first check that fails decides, whatever the other ones would find. -/
theorem inputs_of_firstProblem? (h : c.firstProblem? a = some p) : c.inputs a = .error (.problem p) := by
  unfold firstProblem? at h
  unfold inputs modelName
  -- one check after the other; the rest of the inputs is not looked at once one of them has failed
  split at h
  · rename_i hreserved
    obtain rfl := Option.some.inj h
    rw [if_pos hreserved]
    rfl
  rename_i hreserved
  rw [if_neg hreserved]
  split at h
  · rename_i hname
    obtain rfl := Option.some.inj h
    rw [if_pos hname]
    rfl
  rename_i hname
  rw [if_neg hname]
  unfold group
  split at h
  · rename_i hgroup
    obtain rfl := Option.some.inj h
    rw [Bool.not_eq_true'] at hgroup
    simp only [hgroup]
    rfl
  rename_i hgroup
  rw [Bool.not_eq_true', Bool.not_eq_false] at hgroup
  simp only [hgroup, if_true]
  cases hs : Schema.parse a.schema with
  | ok s =>
    rw [hs] at h
    cases h
  | error e =>
    rw [hs] at h
    obtain rfl := Option.some.inj h
    rfl

theorem request_of_firstProblem? (h : c.firstProblem? a = some p) : c.request a = .error (.problem p) :=
  request_of_inputs_eq_error (inputs_of_firstProblem? h)

/-- Flags whose names are options make a selection, whatever `all` stands for. -/
theorem exists_selection (c : Command) (hflags : ∀ flag ∈ a.flags, Choice.IsOptionName flag.1) :
    ∃ selection, c.selection a = .ok selection := by
  obtain ⟨selection, hselection⟩ := Selection.build_of_known hflags c.settings.generates
  exact ⟨selection, by rw [Command.selection, Command.defaults, hselection]⟩

/-! ### What the checks leave -/

/-- What is wrong with arguments that pass the checks: surrogates in the name of the group, and places that are given
without a text. -/
def leftFaults (c : Command) (a : Arguments) : List Fault :=
  (if (Symbol.string? (c.groupName a)).isSome then [] else [.field "path_group" .undecodable]) ++
    ((if a.root = .empty then [.field "plugin_path" .notText] else []) ++
      if a.application = .empty then [.field "base_namespace" .notText] else [])

theorem leftFaults_eq_nil_iff :
    c.leftFaults a = [] ↔
      (∃ name : String, c.groupName a = name) ∧ a.root ≠ .empty ∧ a.application ≠ .empty := by
  have hname : (∃ name : String, c.groupName a = name) ↔ (Symbol.string? (c.groupName a)).isSome = true := by
    rw [Option.isSome_iff_exists]
    exact exists_congr fun name => Symbol.string?_eq_some_iff.symm
  rw [hname, leftFaults, List.append_eq_nil_iff, List.append_eq_nil_iff]
  refine and_congr ?_ (and_congr ?_ ?_) <;> split <;> simp_all

/-- Without a problem the arguments become inputs if nothing is wrong with them, and else they fail for what is. -/
theorem inputs_of_no_problem (hflags : ∀ flag ∈ a.flags, Choice.IsOptionName flag.1) (h : c.firstProblem? a = none) :
    (c.leftFaults a = [] → ∃ i, c.inputs a = .ok i) ∧
      (c.leftFaults a ≠ [] → c.inputs a = .error (.faults (c.leftFaults a))) := by
  obtain ⟨hmodel, hgroup, s, hschema⟩ := passed_of_no_problem h
  obtain ⟨selection, hselection⟩ := c.exists_selection hflags
  have hname := ne_empty_of_modelName hmodel
  have hinputs : c.inputs a = (Inputs.ofValues (.text (Naming.upperFirst a.model)) (.symbols (c.groupName a))
      (c.root a (c.groupName a)) (c.application a (c.groupName a)) selection s).mapError .faults := by
    rw [inputs, hmodel, hgroup, hschema, hselection]
    rfl
  have hknown : c.groupName a ≠ [] := ne_nil_of_group hgroup
  unfold Inputs.ofValues root application at hinputs
  dsimp only at hinputs
  rw [Given.checkSymbols_value, Given.checkSymbols_value, Value.checkNonemptyText_text hname] at hinputs
  rw [hinputs, leftFaults]
  cases hsymbols : Symbol.string? (c.groupName a) with
  | none =>
    rw [Value.checkNonemptyText_symbols_of_none hsymbols]
    by_cases hroot : a.root = .empty <;> by_cases happlication : a.application = .empty <;>
      simp [hroot, happlication, Checked.both, Except.mapError, Except.map]
  | some name =>
    have hchecked : (Value.symbols (c.groupName a)).checkNonemptyText = .ok name := by
      refine Value.checkNonemptyText_eq_ok_iff.2 ⟨by rw [Value.text?_eq, Value.word?_symbols]; exact hsymbols, ?_⟩
      rintro rfl
      exact hknown (Symbol.string?_eq_some_iff.1 hsymbols)
    rw [hchecked]
    by_cases hroot : a.root = .empty <;> by_cases happlication : a.application = .empty <;>
      simp [hroot, happlication, Checked.both, Except.mapError, Except.map]

/-- Texts in characters that pass the checks have nothing wrong with them. -/
theorem inputs_of_texts {model : String} {schema group root application : Option String} {flags : List (String × Bool)}
    (hflags : ∀ flag ∈ flags, Choice.IsOptionName flag.1)
    (h : c.firstProblem? (.ofTexts model schema flags group root application) = none) :
    ∃ i, c.inputs (.ofTexts model schema flags group root application) = .ok i := by
  refine (inputs_of_no_problem hflags h).1 (leftFaults_eq_nil_iff.2 ⟨?_, ?_, ?_⟩)
  · cases group with
    | none => exact ⟨_, rfl⟩
    | some name =>
      by_cases hname : Symbol.ofString name = []
      · exact ⟨c.settings.defaultGroup, if_pos hname⟩
      · exact ⟨name, if_neg hname⟩
  · cases root <;> exact nofun
  · cases application <;> exact nofun

/-! ### Runs with a problem -/

/-- How a run ends whose arguments have a problem: whatever the generators are, it says some notes and the problem,
none of it on the standard output, and changes nothing else. -/
structure Refused (c : Command) (a : Arguments) (p : Problem) : Prop where
  inputs : c.inputs a = .error (.problem p)
  input : p.isInput = true
  handle : ∀ w : Workspace, ∃ notes : List Note,
    (∀ registry : Registry, outcome ({ c with registry := registry }.handle a) w =
      (.ok 1, { w with output := w.output ++ notes.map .note ++ [.complaint p.message] })) ∧
    Output.standard (w.output ++ notes.map .note ++ [.complaint p.message]) = Output.standard w.output

/-- The first check that fails refuses the arguments; if none fails, there are inputs. -/
structure Decides (c : Command) (a : Arguments) : Prop where
  refused (p : Problem) : c.firstProblem? a = some p → c.Refused a p
  made : c.firstProblem? a = none → ∃ i, c.inputs a = .ok i

private theorem standard_append_notes (o : List Output) (notes : List Note) (text : String) :
    Output.standard (o ++ notes.map .note ++ [.complaint text]) = Output.standard o := by
  simp [Output.standard]

theorem refused_of_firstProblem? (h : c.firstProblem? a = some p) : c.Refused a p := by
  have hrequest := request_of_firstProblem? h
  obtain ⟨hinput, hstatus⟩ := isInput_of_firstProblem? h
  let failed : Note := ⟨.debug, "crudgen.command", "Validation failed: " ++ p.message⟩
  refine ⟨inputs_of_firstProblem? h, hinput, fun w =>
    ⟨c.notes a ++ [failed], fun registry => ?_, standard_append_notes _ _ _⟩⟩
  unfold handle
  rw [outcome_bind_of_ok (Task.outcome_sayNotes _ w)]
  have hsame : Command.request { c with registry := registry } a = .error (.problem p) := hrequest
  have hnotes : Command.notes { c with registry := registry } a = c.notes a := rfl
  simp only [hsame, hinput, hnotes, if_true]
  rw [outcome_bind_of_ok (Task.outcome_note ..), outcome_bind_of_ok (Task.outcome_say _), hstatus]
  simp [outcome_pure, failed]

/-- Faults are no problem of the input, and end the run. -/
theorem handle_of_faults {fs : List Fault} (h : c.inputs a = .error (.faults fs)) (w : Workspace) :
    (outcome (c.handle a) w).1 = .error (.faults fs) := by
  have hrequest := request_of_inputs_eq_error h
  unfold handle
  rw [outcome_bind_of_ok (Task.outcome_sayNotes _ w), hrequest]
  rfl

/-- Arguments with flags that name options are refused for the first problem.  Those without one become inputs, if and
only if the name of the group is a text in characters and no place is given without a text; they fail for these faults
otherwise, and the run with them.  No field that is read on the way fails the checks for fields. -/
theorem checks_decide (c : Command) (a : Arguments) (hflags : ∀ flag ∈ a.flags, Choice.IsOptionName flag.1) :
    (∀ p, c.firstProblem? a = some p → c.Refused a p) ∧
      (c.firstProblem? a = none → c.leftFaults a = [] → ∃ i, c.inputs a = .ok i) ∧
      (c.firstProblem? a = none → c.leftFaults a ≠ [] → c.inputs a = .error (.faults (c.leftFaults a)) ∧
        ∀ w, (outcome (c.handle a) w).1 = .error (.faults (c.leftFaults a))) ∧
      (c.Decides a ↔ (c.firstProblem? a = none →
        (∃ name : String, c.groupName a = name) ∧ a.root ≠ .empty ∧ a.application ≠ .empty)) ∧
      ∀ segment f, Schema.parseField segment = .ok f →
        Field.ofValues (.text f.name) (.text f.type.word) (f.modifiers.map Modifier.values) = .ok f := by
  refine ⟨fun _ => refused_of_firstProblem?, fun h => (inputs_of_no_problem hflags h).1, fun h hfaults => ?_, ?_,
    fun _ _ => Field.ofValues_of_parseField⟩
  · have hinputs := (inputs_of_no_problem hflags h).2 hfaults
    exact ⟨hinputs, handle_of_faults hinputs⟩
  · rw [← leftFaults_eq_nil_iff]
    constructor
    · intro hdecides h
      by_contra hfaults
      obtain ⟨i, hi⟩ := hdecides.made h
      cases hi.symm.trans ((inputs_of_no_problem hflags h).2 hfaults)
    · exact fun hleft => ⟨fun _ => refused_of_firstProblem?, fun h => (inputs_of_no_problem hflags h).1 (hleft h)⟩

/-- A keyword with a group that is not known and a schema that cannot be read, and a model that passes. -/
theorem checks_decide_of_keyword :
    let c : Command := ⟨.fallback, .standard, reservedWords⟩
    let flags : List (String × Bool) := [("all", true), ("soft_delete", true), ("soft-delete", false)]
    c.Refused (.ofTexts "Class" (some "title") flags (some "admin") none none) (.reservedName "Class") ∧
      c.Decides (.ofTexts "Post" (some "title:string") flags none (some "out") none) := by
  intro c flags
  have hflags : ∀ flag ∈ flags, Choice.IsOptionName flag.1 := by
    have hall : ∀ flag ∈ flags, ∃ o ∈ Choice.options, flag.1 = o.name ∨ flag.1 = o.key := by decide
    exact hall
  have hrefused := (checks_decide c (.ofTexts "Class" (some "title") flags (some "admin") none none) hflags).1
  have hdecides :=
    (checks_decide c (.ofTexts "Post" (some "title:string") flags none (some "out") none) hflags).2.2.2.1
  exact ⟨hrefused _ (by decide +kernel), hdecides.2 fun _ => ⟨⟨"default", rfl⟩, nofun, nofun⟩⟩

/-- The name of a group that settings have may be half a character, and two hyphens stand for no text. -/
theorem not_decides_of_surrogate :
    let name : Text.Symbols := [.surrogate 0xdcff]
    let groups : List (Scalar × Value) := [(.text "default", .mapping []), (.ofSymbols name, .mapping [])]
    let s : Settings := ⟨Settings.fallbackGenerates, "default", [("default", ⟨none, none⟩), (name, ⟨none, none⟩)]⟩
    let c : Command := ⟨s, .standard, reservedWords⟩
    let named : Arguments := ⟨"Post", none, [], some name, .absent, .absent⟩
    let unsaid : Arguments := ⟨"Post", none, [], none, .empty, .absent⟩
    (Settings.check (.mapping [(.text "groups", .mapping groups)])).toOption = some s ∧
      (c.inputs named = .error (.faults [.field "path_group" .undecodable]) ∧ ¬ c.Decides named) ∧
      c.inputs unsaid = .error (.faults [.field "plugin_path" .notText]) ∧ ¬ c.Decides unsaid := by
  intro name groups s c named unsaid
  have hfails {a : Arguments} {f : Fault} (hflags : a.flags = []) (hfirst : c.firstProblem? a = none)
      (hleft : c.leftFaults a = [f]) : c.inputs a = .error (.faults [f]) ∧ ¬ c.Decides a := by
    have hinputs := (inputs_of_no_problem (by simp [hflags]) hfirst).2 (by simp [hleft])
    rw [hleft] at hinputs
    refine ⟨hinputs, fun hdecides => ?_⟩
    obtain ⟨i, hi⟩ := hdecides.made hfirst
    cases hi.symm.trans hinputs
  have hdefault : Symbol.string? (c.groupName unsaid) = some "default" := Symbol.string?_ofString "default"
  exact ⟨by decide +kernel, hfails rfl (by decide +kernel) rfl,
    hfails rfl (by decide +kernel) (by simp [leftFaults, hdefault, unsaid])⟩

end Command

end CrudScaffold
