import CrudScaffold.Proofs.Naming
import CrudScaffold.Proofs.Schema.Fields
import CrudScaffold.Proofs.Value
import CrudScaffold.Run.Command

/-!
# The request of a run

What the checks make of arguments that are texts, and what is known of the model's name once it has passed them.
-/

namespace CrudScaffold

open Text (Symbol)

/-! ### Fields that are read pass the checks for fields -/

/-- The values that a modifier is made of. -/
def Modifier.values (m : Modifier) : Value × Value :=
  (.text m.kind.word, m.argument.elim .null .text)

private theorem checkModifier_values (m : Modifier) : Field.checkModifier m.values.1 m.values.2 = .ok m := by
  obtain ⟨kind, argument⟩ := m
  have hkind : Field.checkWord ModifierKind.ofWord? "kind" (.text kind.word) = .ok kind := by
    cases kind <;> rfl
  cases argument with
  | none =>
    simp only [Field.checkModifier, Modifier.values, hkind]
    rfl
  | some argument =>
    simp only [Field.checkModifier, Modifier.values, hkind, Option.elim_some, Value.checkText_text]
    rfl

private theorem checkModifiers_values (ms : List Modifier) (n : Nat) :
    Checked.all (fun p : (Value × Value) × Nat => Checked.under (.index p.2) (Field.checkModifier p.1.1 p.1.2))
      ((ms.map Modifier.values).zipIdx n) = .ok ms := by
  induction ms generalizing n with
  | nil => rfl
  | cons m ms ih =>
    rw [List.map_cons, List.zipIdx_cons, Checked.all, ih, checkModifier_values]
    rfl

/-- A field with a name that identifiers have, and that is no reserved word, passes. -/
theorem Field.ofValues_of_name {f : Field} (hident : isIdentifier f.name = true)
    (hreserved : isReserved reservedWords f.name = false) :
    Field.ofValues (.text f.name) (.text f.type.word) (f.modifiers.map Modifier.values) = .ok f := by
  obtain ⟨name, type, modifiers⟩ := f
  have hname : name ≠ "" := by
    rintro rfl
    simp only at hident
    exact absurd hident (by decide)
  have hcheck : Field.checkName (.text name) = .ok name := by
    simp only at hident hreserved
    simp [Field.checkName, Value.checkNonemptyText_text hname, hident, hreserved]
  have htype : Field.checkWord FieldType.ofWord? "field_type" (.text type.word) = .ok type := by
    cases type <;> rfl
  simp only [Field.ofValues, hcheck, htype, checkModifiers_values]
  rfl

/-- A field that the parser reads passes. -/
theorem Field.ofValues_of_parseField {segment : List Char} {f : Field} (h : Schema.parseField segment = .ok f) :
    Field.ofValues (.text f.name) (.text f.type.word) (f.modifiers.map Modifier.values) = .ok f := by
  have hfault := nameFault?_of_parseField h
  unfold Schema.nameFault? at hfault
  split at hfault
  · cases hfault
  split at hfault
  · cases hfault
  rename_i hident
  split at hfault
  · cases hfault
  rename_i hreserved
  exact ofValues_of_name (by simpa using hident) (by simpa using hreserved)

/-! ### Names of models -/

theorem isAlpha_toUpper {c : Char} (h : c.isAlpha = true) : c.toUpper.isAlpha = true :=
  Bool.or_eq_true_iff.2 (Or.inl (Text.isUpper_toUpper h))

private theorem isIdentStart_of_withoutFinalBreak {c : Char} {rest : List Char}
    (h : isIdentChars (withoutFinalBreak (c :: rest)) = true) : Text.isIdentStart c = true := by
  unfold withoutFinalBreak at h
  split at h
  · cases rest with
    | nil => simp [isIdentChars] at h
    | cons d rest =>
      simp only [List.dropLast_cons_cons, isIdentChars, Bool.and_eq_true] at h
      exact h.1
  · simp only [isIdentChars, Bool.and_eq_true] at h
    exact h.1

/-- A name that passes the checks begins with a letter, which the model's name has in upper case. -/
theorem modelName_cons {words : List String} {name model : String} (h : modelName words name = .ok model) :
    ∃ c rest, name.toList = c :: rest ∧ isIdentChars (withoutFinalBreak (c :: rest)) = true ∧ c.isAlpha = true ∧
      model.toList = c.toUpper :: rest := by
  unfold modelName at h
  split at h
  · cases h
  split at h
  · cases h
  rename_i hname
  rw [Bool.not_eq_true', Bool.not_eq_false] at hname
  obtain rfl := Except.ok.inj h
  simp only [isModelName, isIdentifier, Bool.and_eq_true, Bool.not_eq_true', Text.startsWith] at hname
  obtain ⟨hident, hstart⟩ := hname
  cases hcs : name.toList with
  | nil => simp [hcs, withoutFinalBreak, isIdentChars] at hident
  | cons c rest =>
    have hchar : Text.isIdentStart c = true := isIdentStart_of_withoutFinalBreak (hcs ▸ hident)
    have halpha : c.isAlpha = true := by
      have hc : c ≠ '_' := by
        rintro rfl
        simp [hcs] at hstart
      simpa [Text.isIdentStart, hc] using hchar
    have hascii : c.toNat < 0x80 := by
      have := toNat_of_isIdentChar (isIdentChar_of_isIdentStart hchar)
      omega
    refine ⟨c, rest, rfl, hcs ▸ hident, halpha, ?_⟩
    simp [Naming.upperFirst, hcs, Text.upperFirst, Text.upperChar, hascii]

/-- The name of a model begins with a letter. -/
theorem head_of_modelName {words : List String} {name model : String} (h : modelName words name = .ok model) :
    ∃ c rest, model.toList = c :: rest ∧ c.isAlpha = true := by
  obtain ⟨c, rest, -, -, hc, hmodel⟩ := modelName_cons h
  exact ⟨c.toUpper, rest, hmodel, isAlpha_toUpper hc⟩

/-- The name of a model begins with a capital letter. -/
theorem isUpper_head_of_modelName {words : List String} {name model : String} (h : modelName words name = .ok model) :
    model.toList.head?.any Char.isUpper = true := by
  obtain ⟨c, rest, -, -, hc, hmodel⟩ := modelName_cons h
  rw [hmodel]
  exact Text.isUpper_toUpper hc

/-- There is no blank in the name of a model. -/
theorem blank_not_mem_of_modelName {words : List String} {name model : String} (h : modelName words name = .ok model) :
    ' ' ∉ model.toList := by
  obtain ⟨c, rest, -, hident, hc, hmodel⟩ := modelName_cons h
  have hplain : ' ' ∉ withoutFinalBreak (c :: rest) := fun hmem => absurd (forall_isIdentChar hident _ hmem) (by decide)
  have hname : ' ' ∉ c :: rest := by
    unfold withoutFinalBreak at hplain
    split at hplain
    · rename_i hlast
      obtain ⟨front, hfront⟩ := List.getLast?_eq_some_iff.1 hlast
      rw [hfront] at hplain ⊢
      simpa using hplain
    · exact hplain
  rw [hmodel]
  intro hmem
  rcases List.mem_cons.1 hmem with hfirst | hmem
  · have hupper := Text.isUpper_toUpper hc
    rw [← hfirst] at hupper
    exact absurd hupper (by decide)
  · exact hname (List.mem_cons_of_mem _ hmem)

/-- A name that passes the checks has no characters but those of identifiers, unless there is a line break. -/
theorem isPlain_of_modelName {words : List String} {name model : String} (h : modelName words name = .ok model)
    (hbreak : '\n' ∉ name.toList) : Naming.IsPlain model.toList := by
  obtain ⟨c, rest, hname, hident, hc, hmodel⟩ := modelName_cons h
  have hlast : (c :: rest).getLast? ≠ some '\n' := fun hlast => hbreak (hname ▸ List.mem_of_getLast? hlast)
  rw [withoutFinalBreak, if_neg hlast] at hident
  have hupper : Text.isIdentChar c.toUpper = true := by
    simp [Text.isIdentChar, Char.isAlphanum, isAlpha_toUpper hc]
  intro d hd
  rw [hmodel] at hd
  rcases List.mem_cons.1 hd with rfl | hd
  · exact hupper
  · exact forall_isIdentChar hident d (List.mem_cons_of_mem _ hd)

/-- A model that has passed the checks has a name in snake case. -/
theorem snake_ne_empty {words : List String} {name : String} {r : Request} (h : modelName words name = .ok r.model) :
    r.snake ≠ "" := by
  obtain ⟨c, rest, hmodel, hc⟩ := head_of_modelName h
  have hne := Naming.snakeChars_ne_nil (c := c) (by simp [Char.isAlphanum, hc]) rest
  intro hempty
  rw [Request.snake, Naming.snake, hmodel] at hempty
  exact hne (by simpa using congrArg String.toList hempty)

theorem ne_empty_of_modelName {words : List String} {name model : String} (h : modelName words name = .ok model) :
    model ≠ "" := by
  obtain ⟨c, rest, hmodel, -⟩ := head_of_modelName h
  rintro rfl
  cases hmodel

/-! ### Inputs that are made -/

theorem Inputs.ofValues_eq_ok_iff {model group root application : Value} {selection : Selection} {schema : Schema}
    {i : Inputs} :
    Inputs.ofValues model group root application selection schema = .ok i ↔
      ((model.text? = some i.model ∧ i.model ≠ "") ∧ group.text? = some i.group ∧ i.group ≠ "") ∧
        (root.word? = some i.root ∧ application.word? = some i.application) ∧
          selection = i.selection ∧ schema = i.schema := by
  simp only [Inputs.ofValues, map_eq_ok_iff, both_eq_ok_iff, mapError_eq_ok_iff, Value.checkNonemptyText_eq_ok_iff,
    Value.checkSymbols_eq_ok_iff]
  constructor
  · rintro ⟨_, ⟨hnames, hplaces⟩, rfl⟩
    exact ⟨hnames, hplaces, rfl, rfl⟩
  · rintro ⟨hnames, hplaces, rfl, rfl⟩
    exact ⟨⟨⟨i.model, i.group⟩, i.root, i.application⟩, ⟨hnames, hplaces⟩, rfl⟩

theorem Inputs.request?_eq_some_iff {i : Inputs} {r : Request} : i.request? = some r ↔ i = r.inputs := by
  simp only [request?, Option.bind_eq_bind, Option.bind_eq_some_iff, Symbol.string?_eq_some_iff]
  constructor
  · rintro ⟨root, hroot, application, happlication, heq⟩
    obtain rfl := Option.some.inj heq
    rw [Request.inputs, ← hroot, ← happlication]
  · rintro rfl
    exact ⟨r.root, rfl, r.application, rfl, rfl⟩

namespace Command

variable {c : Command} {a : Arguments} {i : Inputs} {r : Request}

/-- What every check has made of the arguments. -/
structure Makes (c : Command) (a : Arguments) (i : Inputs) : Prop where
  model : modelName c.reserved a.model = .ok i.model
  group : c.group a = .ok (Symbol.ofString i.group)
  schema : Schema.parse a.schema = .ok i.schema
  selection : c.selection a = .ok i.selection
  root : (c.root a i.group).word? = some i.root
  application : (c.application a i.group).word? = some i.application

/-- The group of a run is the one that was named, or else the default one, if files may be written for it. -/
theorem group_eq_ok_iff {name : Text.Symbols} :
    c.group a = .ok name ↔ name = c.groupName a ∧ c.settings.hasGroup name = true := by
  change (if c.settings.hasGroup (c.groupName a) then _ else _) = _ ↔ _
  constructor
  · intro h
    split at h
    · obtain rfl := Except.ok.inj h
      exact ⟨rfl, ‹_›⟩
    · cases h
  · rintro ⟨rfl, hknown⟩
    exact if_pos hknown

theorem ne_nil_of_group {name : Text.Symbols} (h : c.group a = .ok name) : name ≠ [] := by
  obtain ⟨-, hknown⟩ := group_eq_ok_iff.1 h
  rintro rfl
  simp [Settings.hasGroup] at hknown

/-- Inputs are made when every check has made its part of them. -/
theorem inputs_eq_ok_iff : c.inputs a = .ok i ↔ c.Makes a i := by
  have hname {symbols : Text.Symbols} {s : String} :
      (Value.symbols symbols).text? = some s ↔ symbols = Symbol.ofString s := by
    rw [Value.text?_eq, Value.word?_symbols, Option.bind_some, Symbol.string?_eq_some_iff]
  simp only [inputs, bind_eq_ok_iff, mapError_eq_ok_iff, Inputs.ofValues_eq_ok_iff, hname]
  constructor
  · rintro ⟨model, hmodel, group, hgroup, schema, hschema, selection, hselection, ⟨⟨hsame, -⟩, rfl, -⟩,
      ⟨hroot, happlication⟩, rfl, rfl⟩
    obtain rfl : model = i.model := Option.some.inj hsame
    exact ⟨hmodel, hgroup, hschema, hselection, hroot, happlication⟩
  · intro h
    refine ⟨_, h.model, _, h.group, _, h.schema, _, h.selection, ⟨⟨rfl, ne_empty_of_modelName h.model⟩, rfl, ?_⟩,
      ⟨h.root, h.application⟩, rfl, rfl⟩
    exact mt Symbol.ofString_eq_nil_iff.2 (ne_nil_of_group h.group)

/-- A request is made of inputs whose places have characters only. -/
theorem request_eq_ok_iff : c.request a = .ok r ↔ c.inputs a = .ok r.inputs := by
  simp only [request, bind_eq_ok_iff]
  constructor
  · rintro ⟨i, hi, h⟩
    split at h
    · rename_i r' hr'
      obtain rfl : r' = r := Except.ok.inj h
      rw [hi, Inputs.request?_eq_some_iff.1 hr']
    · cases h
  · intro h
    refine ⟨_, h, ?_⟩
    rw [Inputs.request?_eq_some_iff.2 rfl]
    rfl

/-- Without inputs there is no request, for the same failure. -/
theorem request_of_inputs_eq_error {f : Failure} (h : c.inputs a = .error f) : c.request a = .error f := by
  rw [request, h]
  rfl

/-- Problems are those of inputs. -/
theorem inputs_of_request_eq_problem {p : Problem} (h : c.request a = .error (.problem p)) :
    c.inputs a = .error (.problem p) := by
  rcases bind_eq_error_iff.1 h with hinputs | ⟨i, -, hplaces⟩
  · exact hinputs
  · split at hplaces <;> cases hplaces

theorem makes_of_request (h : c.request a = .ok r) : c.Makes a r.inputs :=
  inputs_eq_ok_iff.1 (request_eq_ok_iff.1 h)

theorem model_of_request (h : c.request a = .ok r) : modelName c.reserved a.model = .ok r.model :=
  (makes_of_request h).model

end Command

/-- Flags make a selection in which the derived choices have been made. -/
theorem Selection.exists_derive_of_build {flags : List (String × Bool)} {defaults : List String} {s : Selection}
    (h : Selection.build flags defaults = .ok s) : ∃ given : Selection, s = given.derive := by
  unfold Selection.build at h
  split at h
  · cases h
  dsimp only at h
  split at h
  · rename_i given _
    exact ⟨given, (Except.ok.inj h).symm⟩
  · cases h

theorem Command.selection_of_request {c : Command} {a : Arguments} {r : Request} (h : c.request a = .ok r) :
    Selection.build a.flags c.defaults = .ok r.selection := by
  have hselection : c.selection a = .ok r.selection := (makes_of_request h).selection
  unfold Command.selection at hselection
  split at hselection
  · rename_i s hs
    rw [hs, Except.ok.inj hselection]
  · cases hselection
  · cases hselection

/-- The model is always written, and the two bodies are written together. -/
theorem Command.derived_of_request {c : Command} {a : Arguments} {r : Request} (h : c.request a = .ok r) :
    r.isChosen .model = true ∧ r.isChosen .updateRequest = r.isChosen .createRequest := by
  obtain ⟨given, hgiven⟩ := Selection.exists_derive_of_build (Command.selection_of_request h)
  unfold Request.isChosen
  rw [hgiven]
  exact ⟨rfl, rfl⟩

end CrudScaffold
