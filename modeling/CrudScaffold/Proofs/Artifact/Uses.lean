import CrudScaffold.Artifact.Kind
import CrudScaffold.Proofs.Artifact.ModelUses

/-!
# Names that files use

What the code of a file refers to is read off the text of its lines.  The bodies and the resource refer to types where
they name those of the fields, and the factory where sample data needs a time zone; all of these are imported, and the
model's file imports nothing that its class does not refer to (`Request.takes_iff_references`).
-/

namespace CrudScaffold

open Naming (IsPlain)
open Source (Arguments Expr Imports Member SourceFile Statement headName isReference lineReferences)

/-- The names that types and sample data refer to. -/
def typeNames : List String :=
  ["Optional", "dt", "decimal", "uuid", "timezone"]

/-! ### Bodies -/

namespace Field

variable {f : Field}

/-- The type of a field refers to nothing that is not imported. -/
private theorem binds_of_mem_hint {imports : Imports} {optional : Bool} {name : String}
    (htype : ∀ origin, Source.typeModules.lookup f.type.valueType = some origin →
      origin ∈ imports.keys ∧ imports.namesOf origin = [])
    (hoptional : optional = true → "Optional" ∈ imports.namesOf "typing") (hname : name ∈ typeNames)
    (h : name ∈ (if optional then ["Optional"] else []) ++ [headName f.type.valueType]) :
    ∃ origin, imports.Binds origin name := by
  have hmodule (t : FieldType) (hhead : headName t.valueType ∈ typeNames) :
      (Source.typeModules.lookup t.valueType).isSome = true := by
    cases t <;> first | rfl | exact absurd hhead (by decide)
  rcases List.mem_append.1 h with h | h
  · split at h
    · rename_i hopt
      obtain rfl := List.mem_singleton.1 h
      exact ⟨"typing", Imports.binds_of_mem_namesOf (hoptional hopt) (by decide)⟩
    · cases h
  · obtain rfl := List.mem_singleton.1 h
    obtain ⟨origin, horigin⟩ := Option.isSome_iff_exists.1 (hmodule f.type hname)
    obtain ⟨hkey, hnone⟩ := htype origin horigin
    exact ⟨origin, Imports.binds_of_mem_keys hkey hnone (by rw [(of_lookup_typeModules horigin).2]; simp)⟩

/-- The module of a type is none of those that the imports of types share with others. -/
private theorem ne_of_lookup_typeModules {t : FieldType} {origin : String}
    (h : Source.typeModules.lookup t.valueType = some origin) : origin ≠ "pydantic" ∧ origin ≠ "typing" := by
  have hmodules : (Source.typeModules.lookup t.valueType).all (fun origin =>
      decide (origin ≠ "pydantic" ∧ origin ≠ "typing")) = true := by
    cases t <;> decide
  rw [h] at hmodules
  exact of_decide_eq_true hmodules

private theorem isClear_title (name : String) : (Expr.quoted (Naming.title name)).isClear = true := by
  have hupper (c : Char) : Text.isIdentChar c.toUpper = Text.isIdentChar c := by
    rw [← Text.isIdentChar_toLower, Text.toLower_toUpper, Text.isIdentChar_toLower]
  refine Source.isClear_quoted fun c hc => ?_
  rw [Naming.title, String.toList_ofList] at hc
  rcases Naming.mem_joined hc with hc | ⟨word, hword, hc⟩
  · exact Or.inr (Or.inl (List.mem_singleton.1 hc))
  · left
    obtain ⟨small, hsmall, rfl⟩ := List.mem_map.1 hword
    have hplain := (Naming.isPlain_of_words hsmall).1
    cases small with
    | nil => cases hc
    | cons d small =>
      rcases List.mem_cons.1 hc with rfl | hc
      · rw [hupper]
        exact hplain d List.mem_cons_self
      · exact hplain c (List.mem_cons_of_mem _ hc)

/-- The limits of a field's value are numbers. -/
private theorem isClear_limits (f : Field) {p : String × Expr}
    (h : p ∈ (if f.type = .string then [("max_length", Expr.literal "255")] else []) ++
      if f.type = .foreignId then [("gt", Expr.literal "0")]
      else if f.has .unsigned then [("ge", Expr.literal "0")] else []) :
    (Source.isWord p.1 && p.2.isClear) = true ∧ p.2.names = [] := by
  rcases List.mem_append.1 h with h | h
  · split at h
    · rw [List.mem_singleton.1 h]
      decide
    · cases h
  · split at h
    · rw [List.mem_singleton.1 h]
      decide
    split at h
    · rw [List.mem_singleton.1 h]
      decide
    · cases h

private theorem isClear_rules {default : Option String} (h : ∀ code ∈ default, Source.Reads code.toList []) (f : Field) :
    (f.rules default).isClear = true ∧ (f.rules default).names = ["Field"] := by
  have hcallee : isReference "Field" = true ∧ headName "Field" = "Field" := by decide
  have hdefault : ∀ p ∈ default.toList.map fun code => ("default", Expr.literal code),
      (Source.isWord p.1 && p.2.isClear) = true ∧ p.2.names = [] := by
    intro p hp
    obtain ⟨code, hcode, rfl⟩ := List.mem_map.1 hp
    have hword : Source.isWord "default" = true := by decide
    exact ⟨by simp [hword, Expr.isClear, h code (Option.mem_toList.1 hcode)], rfl⟩
  have htitle : (Source.isWord "description" && (Expr.quoted (Naming.title f.name)).isClear) = true := by
    rw [isClear_title]
    decide
  have hsettings (p : String × Expr) (hp : p ∈ (default.toList.map fun code => ("default", Expr.literal code)) ++
      ((if f.type = .string then [("max_length", Expr.literal "255")] else []) ++
        if f.type = .foreignId then [("gt", Expr.literal "0")]
        else if f.has .unsigned then [("ge", Expr.literal "0")] else []) ++
      [("description", .quoted (Naming.title f.name))]) :
      (Source.isWord p.1 && p.2.isClear) = true ∧ p.2.names = [] := by
    rcases List.mem_append.1 hp with hp | hp
    · exact (List.mem_append.1 hp).elim (hdefault p) (isClear_limits f)
    · rw [List.mem_singleton.1 hp]
      exact ⟨htitle, rfl⟩
  unfold rules
  rw [(Source.clear_call hcallee _).1, (Source.clear_call hcallee _).2, Arguments.isClear_ofKeywords,
    Arguments.names_ofKeywords, List.all_eq_true.2 fun p hp => (hsettings p hp).1,
    List.flatMap_eq_nil_iff.2 fun p hp => (hsettings p hp).2]
  exact ⟨rfl, rfl⟩

private theorem reads_createDefault (f : Field) : ∀ code ∈ f.createDefault?, Source.Reads code.toList [] := by
  have hnone : Source.Reads "None".toList [] := by decide
  intro code hcode
  unfold createDefault? at hcode
  split at hcode
  · rename_i value hvalue
    obtain rfl := Option.some.inj hcode
    exact reads_defaultLiteral hvalue
  split at hcode
  · exact Option.some.inj hcode ▸ hnone
  · cases hcode

/-- The attribute of a body refers to the type of the field. -/
private theorem references_bodyMember (h : f.WellFormed) (action : BodyAction) :
    (f.bodyMember action).lines.flatMap lineReferences =
      (if action == .update || f.isNullable then ["Optional"] else []) ++ [headName f.type.valueType] ++ ["Field"] := by
  cases action with
  | create =>
    obtain ⟨hclear, hnames⟩ := isClear_rules f.reads_createDefault f
    rw [bodyMember, Member.field, Member.references_attribute h.identifier (Or.inl (by simp))]
    · simp [Member.names, names_hint, hnames]
    · simp [f.isClear_hint, hclear]
  | update =>
    have hdefault : ∀ code ∈ some "None", Source.Reads code.toList [] := by simpa using (by decide : Source.Reads _ _)
    obtain ⟨hclear, hnames⟩ := isClear_rules hdefault f
    rw [bodyMember, Member.field, Member.references_attribute h.identifier (Or.inl (by simp))]
    · simp [Member.names, names_optional, hnames]
    · simp [(isClear_valueType f.type).2, hclear]

end Field

namespace Request

variable {r : Request} {name : String}

private theorem isIdentChars_className (hmodel : isIdentChars r.model.toList = true) (before after : String)
    (hbefore : before = "" ∨ isIdentChars before.toList = true) (hafter : after.toList.all Text.isIdentChar = true) :
    isIdentChars (r.className before after).toList = true := by
  have hplain : isIdentChars (r.model.toList ++ after.toList) = true :=
    (isIdentChars_append_iff (ne_nil_of_isIdentChars hmodel)).2 ⟨hmodel, List.all_eq_true.1 hafter⟩
  rw [className, String.toList_append, String.toList_append, List.append_assoc]
  rcases hbefore with rfl | hbefore
  · exact hplain
  · exact (isIdentChars_append_iff (ne_nil_of_isIdentChars hbefore)).2 ⟨hbefore, forall_isIdentChar hplain⟩

private theorem baseModel : (some "BaseModel").all isReference = true ∧
    (some "BaseModel").toList.map headName = ["BaseModel"] := by
  decide

/-- The names of types in a body are those in the types of the fields. -/
private theorem references_body (hschema : r.schema.WellFormed) (hmodel : isIdentChars r.model.toList = true)
    {action : BodyAction} (h : name ∈ (Artifact.body action r).source.references) (hname : name ∈ typeNames) :
    ∃ f ∈ r.fields,
      name ∈ (if action == .update || f.isNullable then ["Optional"] else []) ++ [headName f.type.valueType] := by
  have hother : ∀ other ∈ ["BaseModel", "ConfigDict", "Field"], other ∉ typeNames := by decide
  have hclass : isIdentChars (r.bodyName action).toList = true :=
    isIdentChars_className hmodel _ _ (Or.inr (by cases action <;> decide)) (by decide)
  have hconfig : (Member.value "model_config" (.call "ConfigDict" (.ofKeywords
      [("str_strip_whitespace", .true), ("extra", .quoted "forbid")]))).lines.flatMap lineReferences = ["ConfigDict"] := by
    decide
  have hmembers : (r.bodyClass action).groups.flatten ⊆ .value "model_config" (.call "ConfigDict" (.ofKeywords
      [("str_strip_whitespace", .true), ("extra", .quoted "forbid")])) :: r.fields.map (·.bodyMember action) := by
    unfold bodyClass
    split <;> simp
  rcases SourceFile.mem_references_iff.1 h with ⟨a, ha, -⟩ | ⟨d, hd, hline⟩
  · cases ha
  obtain rfl := List.mem_singleton.1 hd
  rcases (Source.ClassBody.exists_lines_iff (c := r.bodyClass action) hclass baseModel.1).1 hline with hbase | hbody
  · obtain rfl : name = "BaseModel" := List.mem_singleton.1 (baseModel.2 ▸ hbase)
    exact absurd hname (by decide)
  · obtain ⟨m, hm, hmember⟩ := Source.ClassBody.mem_references_iff.1 hbody
    rcases List.mem_cons.1 (hmembers hm) with rfl | hm
    · rw [hconfig] at hmember
      exact absurd hname (hother name (List.mem_cons_of_mem _ (List.mem_append_left ["Field"] hmember)))
    · obtain ⟨f, hf, rfl⟩ := List.mem_map.1 hm
      rw [Field.references_bodyMember (hschema.fields f hf)] at hmember
      rcases List.mem_append.1 hmember with hmember | hmember
      · exact ⟨f, hf, hmember⟩
      · exact absurd hname (hother name (List.mem_cons_of_mem _ (List.mem_cons_of_mem _ hmember)))

private theorem takes_body (hschema : r.schema.WellFormed) (hmodel : isIdentChars r.model.toList = true)
    {action : BodyAction} (h : name ∈ (Artifact.body action r).source.references) (hname : name ∈ typeNames) :
    ∃ origin, (Artifact.body action r).source.Takes origin name := by
  have hbinds : ∃ origin, (r.bodyImports action).Binds origin name := by
    obtain ⟨f, hf, hhint⟩ := references_body hschema hmodel h hname
    refine Field.binds_of_mem_hint (fun origin horigin => ?_) (fun hoptional => ?_) hname hhint
    · obtain ⟨hpydantic, htyping⟩ := Field.ne_of_lookup_typeModules horigin
      refine ⟨Imports.mem_keys_set.2 (Or.inl (Imports.mem_keys_typeImports.2 ⟨f, hf, Or.inl horigin⟩)), ?_⟩
      refine List.eq_nil_iff_forall_not_mem.2 fun other hother => ?_
      rw [bodyImports, Imports.mem_namesOf_set, if_neg hpydantic, Imports.mem_namesOf_typeImports] at hother
      obtain ⟨-, -, -, hother, -⟩ := hother
      exact htyping hother
    · rw [bodyImports, Imports.mem_namesOf_set, if_neg (by decide), Imports.mem_namesOf_typeImports]
      exact ⟨f, hf, hoptional, rfl, rfl⟩
  obtain ⟨origin, hbinds⟩ := hbinds
  exact ⟨origin, (SourceFile.takes_iff (r := r) rfl (within_bodyImports r action).keys).2 (Or.inr hbinds)⟩

/-! ### The resource -/

/-- The name of the resource's class is neither the name of a type nor a keyword. -/
private theorem resourceName_new (r : Request) : r.resourceName ∉ typeNames ++ Source.keywords := by
  have hends : ∀ word ∈ typeNames ++ Source.keywords, Text.endsWith "Resource" word = false := by decide
  intro hmem
  have hend : Text.endsWith "Resource" r.resourceName = true := Text.endsWith_append _ _
  rw [hends _ hmem] at hend
  cases hend

private theorem references_items (hmodel : isIdentChars r.model.toList = true) :
    (Member.field "items" (.of "List" (.path r.resourceName))
      (.call "Field" (.ofKeywords [("default_factory", .path "list")]))).lines.flatMap lineReferences =
        ["List", r.resourceName, "Field", "list"] := by
  have hkeyword : r.resourceName ∉ Source.keywords := fun hmem => r.resourceName_new (List.mem_append_right _ hmem)
  obtain ⟨hclear, hhead⟩ := Source.isReference_of_isIdentChars
    (isIdentChars_className hmodel "" "Resource" (Or.inl rfl) (by decide)) hkeyword
  have hlist : isReference "List" = true ∧ headName "List" = "List" := by decide
  have hhint : (Expr.of "List" (.path r.resourceName)).isClear = true ∧
      (Expr.of "List" (.path r.resourceName)).names = ["List", r.resourceName] := by
    simp [Source.clear_of hlist, Expr.isClear, Expr.names, resourceName, hclear, hhead]
  have hvalue : (Expr.call "Field" (.ofKeywords [("default_factory", .path "list")])).isClear = true ∧
      (Expr.call "Field" (.ofKeywords [("default_factory", .path "list")])).names = ["Field", "list"] := by decide
  rw [Member.field, Member.references_attribute (by decide) (Or.inl (by simp))]
  · simp [Member.names, hhint, hvalue]
  · simp [hhint, hvalue]

/-- The page of rows refers to no name of a type. -/
private theorem references_collectionClass (hmodel : isIdentChars r.model.toList = true)
    (h : name ∈ r.collectionClass.references) : name ∉ typeNames := by
  have htotal : (Member.field "total" (.path "int") (.call "Field" (.ofKeywords
      [("default", .literal "0"), ("description", .quoted "Total number of records.")]))).lines.flatMap lineReferences =
      ["int", "Field"] := by
    decide
  have hothers : ∀ other ∈ ["List", "Field", "list", "int"], other ∉ typeNames := by decide
  obtain ⟨m, hm, hname⟩ := Source.ClassBody.mem_references_iff.1 h
  simp only [collectionClass, List.flatten_singleton, List.mem_cons, List.not_mem_nil, or_false] at hm
  rcases hm with rfl | rfl
  · rw [references_items hmodel] at hname
    rcases List.mem_cons.1 hname with rfl | hname
    · exact hothers _ (by decide)
    rcases List.mem_cons.1 hname with rfl | hname
    · exact fun hmem => r.resourceName_new (List.mem_append_left _ hmem)
    · exact hothers name (List.mem_cons_of_mem _ (List.mem_append_left ["int"] hname))
  · rw [htotal, List.mem_cons, List.mem_singleton] at hname
    rcases hname with rfl | rfl <;> exact hothers _ (by decide)

private theorem references_resourceClass (hschema : r.schema.WellFormed) (h : name ∈ r.resourceClass.references)
    (hname : name ∈ typeNames) :
    name = "dt" ∨ r.softDelete = true ∧ name = "Optional" ∨ ∃ f ∈ r.fields, name ∈ f.hint.names := by
  have hconfig : (Member.value "model_config" (.call "ConfigDict" (.ofKeywords
      [("from_attributes", .true)]))).lines.flatMap lineReferences = ["ConfigDict"] := by decide
  have hid : (Member.typed "id" (.path "int")).lines.flatMap lineReferences = ["int"] := by decide
  have htimes : ∀ column ∈ ["created_at", "updated_at"],
      (Member.typed column Source.momentHint).lines.flatMap lineReferences = ["dt"] := by decide
  have hdeleted : (Member.field "deleted_at" (.optional Source.momentHint) .none).lines.flatMap lineReferences =
      ["Optional", "dt"] := by
    decide
  have hfield {f : Field} (hf : f ∈ r.fields) :
      (Member.typed f.name f.hint).lines.flatMap lineReferences = f.hint.names := by
    rw [Member.typed, Member.references_attribute (hschema.fields f hf).identifier (Or.inl (by simp))]
    · simp [Member.names]
    · simp [f.isClear_hint]
  obtain ⟨m, hm, hmember⟩ := Source.ClassBody.mem_references_iff.1 h
  simp only [resourceClass, List.flatten_cons, List.flatten_nil, List.append_nil, List.cons_append, List.nil_append,
    List.mem_cons, List.mem_append, List.not_mem_nil, or_false, List.mem_map] at hm
  rcases hm with rfl | rfl | (⟨f, hf, rfl⟩ | rfl | rfl) | hm
  · rw [hconfig, List.mem_singleton] at hmember
    exact absurd hname (hmember ▸ by decide)
  · rw [hid, List.mem_singleton] at hmember
    exact absurd hname (hmember ▸ by decide)
  · rw [hfield hf] at hmember
    exact Or.inr (Or.inr ⟨f, hf, hmember⟩)
  · rw [htimes _ (by decide)] at hmember
    exact Or.inl (List.mem_singleton.1 hmember)
  · rw [htimes _ (by decide)] at hmember
    exact Or.inl (List.mem_singleton.1 hmember)
  · split at hm
    · rename_i hsoft
      rw [List.mem_singleton.1 hm, hdeleted, List.mem_cons, List.mem_singleton] at hmember
      exact hmember.elim (fun heq => Or.inr (Or.inl ⟨hsoft, heq⟩)) Or.inl
    · cases hm

/-- The names of types in the resource are those in the types of the fields and of the columns that all rows have. -/
private theorem references_resource (hschema : r.schema.WellFormed) (hmodel : isIdentChars r.model.toList = true)
    (h : name ∈ (Artifact.resource r).source.references) (hname : name ∈ typeNames) :
    name = "dt" ∨ r.softDelete = true ∧ name = "Optional" ∨ ∃ f ∈ r.fields, name ∈ f.hint.names := by
  have hclasses : ∀ after ∈ ["Resource", "Collection"], isIdentChars (r.className "" after).toList = true := by
    have hafter : ∀ after ∈ ["Resource", "Collection"], after.toList.all Text.isIdentChar = true := by decide
    exact fun after hmem => isIdentChars_className hmodel _ _ (Or.inl rfl) (hafter after hmem)
  have hbase (hbase : name ∈ (some "BaseModel").toList.map headName) : False := by
    obtain rfl : name = "BaseModel" := List.mem_singleton.1 (baseModel.2 ▸ hbase)
    exact absurd hname (by decide)
  rcases SourceFile.mem_references_iff.1 h with ⟨a, ha, -⟩ | ⟨d, hd, hline⟩
  · cases ha
  have hd : d = .classBody r.resourceClass ∨ d = .classBody r.collectionClass := by simpa [Artifact.resource] using hd
  rcases hd with rfl | rfl
  · have hclass := hclasses "Resource" (by decide)
    rcases (Source.ClassBody.exists_lines_iff (c := r.resourceClass) hclass baseModel.1).1 hline with hhead | hbody
    · exact (hbase hhead).elim
    · exact references_resourceClass hschema hbody hname
  · have hclass := hclasses "Collection" (by decide)
    rcases (Source.ClassBody.exists_lines_iff (c := r.collectionClass) hclass baseModel.1).1 hline with hhead | hbody
    · exact (hbase hhead).elim
    · exact absurd hname (references_collectionClass hmodel hbody)

/-- The imports of the resource on top of those of the fields' types. -/
private theorem mem_namesOf_resourceImports {origin : String} (hpydantic : origin ≠ "pydantic") :
    name ∈ r.resourceImports.namesOf origin ↔ origin = "typing" ∧
      (name = "List" ∨ name = "Optional" ∧ (r.softDelete = true ∨ ∃ f ∈ r.fields, f.isNullable = true)) := by
  have htypes : name ∈ (Imports.set Source.timeModule [] (Source.typeImports false r.fields)).namesOf origin ↔
      origin = "typing" ∧ name = "Optional" ∧ ∃ f ∈ r.fields, f.isNullable = true := by
    rw [Imports.mem_namesOf_set, Imports.mem_namesOf_typeImports]
    split
    · rename_i htime
      simp [htime, Source.timeModule]
    · simp only [Bool.false_or]
      constructor
      · rintro ⟨f, hf, hnullable, horigin, hname⟩
        exact ⟨horigin, hname, f, hf, hnullable⟩
      · rintro ⟨horigin, hname, f, hf, hnullable⟩
        exact ⟨f, hf, hnullable, horigin, hname⟩
  rw [resourceImports, Imports.mem_namesOf_set, if_neg hpydantic]
  cases hsoft : r.softDelete
  · simp only [Bool.false_eq_true, if_false, Imports.mem_namesOf_add, htypes, false_or]
    rw [← and_or_left, or_comm]
  · simp only [if_true, Imports.mem_namesOf_add, htypes, true_or, and_true]
    rw [← and_or_left, ← and_or_left]
    refine and_congr_right fun _ => ?_
    constructor
    · rintro ((⟨hname, -⟩ | hname) | hname)
      · exact Or.inr hname
      · exact Or.inl hname
      · exact Or.inr hname
    · rintro (hname | hname)
      · exact Or.inl (Or.inr hname)
      · exact Or.inr hname

private theorem mem_keys_resourceImports {origin : String} (h : origin ∈ (Source.typeImports false r.fields).keys ∨
    origin = Source.timeModule) : origin ∈ r.resourceImports.keys := by
  have htime : origin ∈ (Imports.set Source.timeModule [] (Source.typeImports false r.fields)).keys :=
    Imports.mem_keys_set.2 h
  have hlist : origin ∈ (Imports.add "typing" "List"
      (Imports.set Source.timeModule [] (Source.typeImports false r.fields))).keys :=
    Imports.mem_keys_add.2 (Or.inl htime)
  refine Imports.mem_keys_set.2 (Or.inl ?_)
  split
  · exact Imports.mem_keys_add.2 (Or.inl hlist)
  · exact hlist

private theorem takes_resource (hschema : r.schema.WellFormed) (hmodel : isIdentChars r.model.toList = true)
    (h : name ∈ (Artifact.resource r).source.references) (hname : name ∈ typeNames) :
    ∃ origin, (Artifact.resource r).source.Takes origin name := by
  have hnone {origin : String} (hpydantic : origin ≠ "pydantic") (htyping : origin ≠ "typing") :
      r.resourceImports.namesOf origin = [] :=
    List.eq_nil_iff_forall_not_mem.2 fun other hother =>
      htyping ((mem_namesOf_resourceImports hpydantic).1 hother).1
  have hoptional (hsome : r.softDelete = true ∨ ∃ f ∈ r.fields, f.isNullable = true) :
      "Optional" ∈ r.resourceImports.namesOf "typing" :=
    (mem_namesOf_resourceImports (by decide)).2 ⟨rfl, Or.inr ⟨rfl, hsome⟩⟩
  have hbinds : ∃ origin, r.resourceImports.Binds origin name := by
    rcases references_resource hschema hmodel h hname with rfl | ⟨hsoft, rfl⟩ | ⟨f, hf, hhint⟩
    · exact ⟨Source.timeModule, Imports.binds_of_mem_keys (mem_keys_resourceImports (Or.inr rfl))
        (hnone (by decide) (by decide)) (by decide)⟩
    · exact ⟨"typing", Imports.binds_of_mem_namesOf (hoptional (Or.inl hsoft)) (by decide)⟩
    · rw [Field.names_hint] at hhint
      refine Field.binds_of_mem_hint (fun origin horigin => ?_)
        (fun hnullable => hoptional (Or.inr ⟨f, hf, hnullable⟩)) hname hhint
      obtain ⟨hpydantic, htyping⟩ := Field.ne_of_lookup_typeModules horigin
      exact ⟨mem_keys_resourceImports (Or.inl (Imports.mem_keys_typeImports.2 ⟨f, hf, Or.inl horigin⟩)),
        hnone hpydantic htyping⟩
  obtain ⟨origin, hbinds⟩ := hbinds
  exact ⟨origin, (SourceFile.takes_iff (r := r) rfl (within_resourceImports r).keys).2 (Or.inr hbinds)⟩

/-! ### The factory -/

/-- The sample data of a field refers to a time zone where a moment is asked for, and to no other name of a type. -/
private theorem isClear_fakeValue (f : Field) : f.fakeValue.isClear = true ∧
    ∀ name ∈ f.fakeValue.names, name ∈ typeNames → name = "timezone" ∧ f.type = .timestamp := by
  have htypes (t : FieldType) : t.fakeValue.isClear = true ∧
      ∀ name ∈ t.fakeValue.names, name ∈ typeNames → name = "timezone" ∧ t = .timestamp := by
    cases t <;> decide
  have hnames : ∀ p ∈ fakeValuesByName, p.2.isClear = true ∧ ∀ name ∈ p.2.names, name ∉ typeNames := by decide
  unfold Field.fakeValue
  split
  · cases hlookup : fakeValuesByName.lookup (Text.lowercase f.name) with
    | none => exact htypes f.type
    | some e =>
      obtain ⟨before, after, hsplit, -⟩ := List.lookup_eq_some_iff.1 hlookup
      obtain ⟨hclear, hother⟩ := hnames (_, e) (hsplit ▸ List.mem_append_right _ List.mem_cons_self)
      exact ⟨hclear, fun name hname htype => absurd htype (hother name hname)⟩
  · exact htypes f.type

private theorem members_factoryClass (r : Request) : r.factoryClass.groups.flatten =
    [.doc ("Builds unsaved " ++ r.model ++ " instances filled with fake data."), .value "model" (.path r.model),
      .method ⟨["@staticmethod"], "definition", [], false, some "Dict[str, Any]",
        Source.Statement.mapping "return " (r.fields.map fun f => (f.name, f.fakeValue))⟩,
      .method ⟨["@classmethod"], "make", ["cls", "**overrides: Any"], false, some r.model,
        [.code 0 "attributes = \x7b**cls.definition(), **overrides\x7d", .code 0 "return cls.model(**attributes)"]⟩,
      .method ⟨["@classmethod"], "make_many", ["cls", "count: int", "**overrides: Any"], false,
        some ("List[" ++ r.model ++ "]"), [.code 0 "return [cls.make(**overrides) for _ in range(count)]"]⟩] :=
  rfl

private theorem mem_wordNames (hmodel : isIdentChars r.model.toList = true)
    (h : name ∈ Source.wordNames r.model.toList) : name = r.model := by
  rw [Source.wordNames_of_isIdentChars hmodel] at h
  split at h
  · cases h
  · exact List.mem_singleton.1 h

/-- What the summary of the class says is text. -/
private theorem references_factoryDoc (hmodel : isIdentChars r.model.toList = true) :
    (Member.doc ("Builds unsaved " ++ r.model ++ " instances filled with fake data.")).lines.flatMap lineReferences =
      [] := by
  refine Member.references_doc (Source.isClear_quoted fun c hc => ?_)
  have hall : (("Builds unsaved ".toList ++ " instances filled with fake data.".toList).all fun c =>
      decide (Text.isIdentChar c = true ∨ c = ' ' ∨ c = '.')) = true := by decide
  have hfixed {c : Char} (hc : c ∈ "Builds unsaved ".toList ++ " instances filled with fake data.".toList) :
      Text.isIdentChar c = true ∨ c = ' ' ∨ c = '.' :=
    of_decide_eq_true (List.all_eq_true.1 hall c hc)
  rw [String.toList_append, String.toList_append, List.mem_append, List.mem_append] at hc
  rcases hc with (hc | hc) | hc
  · exact hfixed (List.mem_append_left _ hc)
  · exact Or.inl (forall_isIdentChar hmodel c hc)
  · exact hfixed (List.mem_append_right _ hc)

private theorem references_modelValue (hmodel : isIdentChars r.model.toList = true)
    (h : name ∈ (Member.value "model" (.path r.model)).lines.flatMap lineReferences) : name = r.model := by
  have hread := ((Source.reads_word (Source.isWordPart_of_isIdentChars hmodel)).cons
    (by decide : Source.isBreak ' ' = true)).cons (by decide : Source.isBreak '=' = true)
  have hafter := hread.cons (by decide : Source.isBreak ' ' = true)
  have htext : (" = " ++ r.model).toList = ' ' :: '=' :: ' ' :: r.model.toList := by simp
  have hline := Source.lineReferences_defined (by decide : isIdentChars "model".toList = true) (" = " ++ r.model)
    (Or.inl (by rw [String.toList_append]; exact List.prefix_append _ _))
  rw [htext, hafter.codeNames_eq] at hline
  have hlines : (Member.value "model" (.path r.model)).lines = [Source.indented 1 ("model" ++ (" = " ++ r.model))] := by
    simp [Member.value, Member.lines, Expr.render]
  rw [hlines, List.flatMap_singleton, Source.lineReferences_indented, hline] at h
  exact mem_wordNames hmodel h

/-- A mapping from names of fields refers to what the values refer to. -/
private theorem references_mapping {items : List (String × Expr)}
    (hitems : ∀ e ∈ items, (Expr.quoted e.1).isClear = true ∧ e.2.isClear = true)
    (h : ∃ s ∈ Statement.mapping "return " items, name ∈ lineReferences (s.line 0)) :
    ∃ e ∈ items, name ∈ e.2.names := by
  have hfixed : ∀ text ∈ ["return \x7b\x7d", "return \x7b", "\x7d"],
      lineReferences ((Statement.code 0 text).line 0) = [] := by decide
  obtain ⟨s, hs, hname⟩ := h
  have hcode (text : String) (hmem : text ∈ ["return \x7b\x7d", "return \x7b", "\x7d"]) (heq : s = .code 0 text) :
      ∃ e ∈ items, name ∈ e.2.names := by
    rw [heq, hfixed text hmem] at hname
    cases hname
  unfold Statement.mapping at hs
  split at hs
  · exact hcode _ (by decide) (List.mem_singleton.1 hs)
  · rw [List.mem_append, List.mem_append, List.mem_singleton, List.mem_singleton] at hs
    rcases hs with (hs | hs) | hs
    · exact hcode _ (by decide) hs
    · obtain ⟨e, he, rfl⟩ := List.mem_map.1 hs
      rw [Source.references_entry (hitems e he).1 (hitems e he).2] at hname
      exact ⟨e, he, hname⟩
    · exact hcode _ (by decide) hs

private theorem references_definition (hschema : r.schema.WellFormed)
    (h : name ∈ (Member.method ⟨["@staticmethod"], "definition", [], false, some "Dict[str, Any]",
      Statement.mapping "return " (r.fields.map fun f => (f.name, f.fakeValue))⟩).lines.flatMap lineReferences)
    (hname : name ∈ typeNames) : name = "timezone" ∧ r.needsTimezone = true := by
  have hmethod : isIdentChars "definition".toList = true := by decide
  have hparameters : Source.Reads (", ".intercalate []).toList [] := by decide
  have hresult : Source.Reads "Dict[str, Any]".toList ["Dict", "str", "Any"] := by decide
  have hothers : ∀ name ∈ ["@staticmethod"].flatMap lineReferences ++ ["Dict", "str", "Any"], name ∉ typeNames := by
    decide
  have hitems : ∀ e ∈ r.fields.map fun f => (f.name, f.fakeValue),
      (Expr.quoted e.1).isClear = true ∧ e.2.isClear = true := by
    intro e he
    obtain ⟨f, hf, rfl⟩ := List.mem_map.1 he
    exact ⟨Source.isClear_quoted fun c hc => Or.inl (forall_isIdentChar (hschema.fields f hf).identifier c hc),
      (isClear_fakeValue f).1⟩
  rcases (Source.Function.mem_references_iff (f := ⟨["@staticmethod"], "definition", [], false, some "Dict[str, Any]", _⟩)
    rfl hmethod hparameters rfl hresult 1).1 h with h | h | h | h
  · exact absurd hname (hothers name (List.mem_append_left _ h))
  · cases h
  · exact absurd hname (hothers name (List.mem_append_right _ h))
  · obtain ⟨e, he, hvalue⟩ := references_mapping hitems h
    obtain ⟨f, hf, rfl⟩ := List.mem_map.1 he
    obtain ⟨hzone, htype⟩ := (isClear_fakeValue f).2 name hvalue hname
    exact ⟨hzone, List.any_eq_true.2 ⟨f, hf, decide_eq_true htype⟩⟩

/-- A method that makes objects of the model: the one name of a type in it is that of the model. -/
private theorem references_maker {method result : String} {parameters others results : List String}
    {body : List Statement} (hmodel : isIdentChars r.model.toList = true) (hmethod : isIdentChars method.toList = true)
    (hparameters : Source.Reads (", ".intercalate parameters).toList others)
    (hresult : Source.Reads result.toList (results ++ Source.wordNames r.model.toList))
    (hothers : ∀ name ∈ others ++ results, name ∉ typeNames)
    (hbody : ∀ s ∈ body, ∀ name ∈ lineReferences (s.line 0), name ∉ typeNames)
    (h : name ∈ (Member.method ⟨["@classmethod"], method, parameters, false, some result, body⟩).lines.flatMap
      lineReferences) (hname : name ∈ typeNames) : name = r.model := by
  have hdecorator : ∀ name ∈ ["@classmethod"].flatMap lineReferences, name ∉ typeNames := by decide
  rcases (Source.Function.mem_references_iff (f := ⟨["@classmethod"], method, parameters, false, some result, body⟩) rfl
    hmethod hparameters rfl hresult 1).1 h with h | h | h | ⟨s, hs, h⟩
  · exact absurd hname (hdecorator name h)
  · exact absurd hname (hothers name (List.mem_append_left _ h))
  · rcases List.mem_append.1 h with h | h
    · exact absurd hname (hothers name (List.mem_append_right _ h))
    · exact mem_wordNames hmodel h
  · exact absurd hname (hbody s hs name h)

private theorem references_make (hmodel : isIdentChars r.model.toList = true)
    (h : name ∈ (Member.method ⟨["@classmethod"], "make", ["cls", "**overrides: Any"], false, some r.model,
      [.code 0 "attributes = \x7b**cls.definition(), **overrides\x7d",
        .code 0 "return cls.model(**attributes)"]⟩).lines.flatMap lineReferences) (hname : name ∈ typeNames) :
    name = r.model := by
  have hparameters : Source.Reads (", ".intercalate ["cls", "**overrides: Any"]).toList ["cls", "overrides", "Any"] := by
    decide
  have hresult : Source.Reads r.model.toList ([] ++ Source.wordNames r.model.toList) :=
    Source.reads_word (Source.isWordPart_of_isIdentChars hmodel)
  refine references_maker hmodel (by decide) hparameters hresult (by decide) ?_ h hname
  simp only [List.forall_mem_cons]
  decide

private theorem references_makeMany (hmodel : isIdentChars r.model.toList = true)
    (h : name ∈ (Member.method ⟨["@classmethod"], "make_many", ["cls", "count: int", "**overrides: Any"], false,
      some ("List[" ++ r.model ++ "]"),
      [.code 0 "return [cls.make(**overrides) for _ in range(count)]"]⟩).lines.flatMap lineReferences)
    (hname : name ∈ typeNames) : name = r.model := by
  have hparameters : Source.Reads (", ".intercalate ["cls", "count: int", "**overrides: Any"]).toList
      ["cls", "count", "int", "overrides", "Any"] := by
    decide
  have hlist : Source.Reads "List".toList ["List"] := by decide
  have hresult := hlist.append ((Source.reads_word (Source.isWordPart_of_isIdentChars hmodel)).enclosed
    (by decide : Source.isBreak '[' = true) (by decide : (Source.isBreak ']' && ']' != '=') = true))
    (Source.isBroken_cons (by decide) _)
  have htext : ("List[" ++ r.model ++ "]").toList = "List".toList ++ '[' :: (r.model.toList ++ [']']) := by simp
  rw [← htext] at hresult
  refine references_maker hmodel (by decide) hparameters hresult (by decide) ?_ h hname
  simp only [List.forall_mem_cons]
  decide

/-- The names of types in the factory are that of the model, and the time zone of the sample data. -/
private theorem references_factory (hschema : r.schema.WellFormed) (hmodel : isIdentChars r.model.toList = true)
    (h : name ∈ (Artifact.factory r).source.references) (hname : name ∈ typeNames) :
    name = r.model ∨ name = "timezone" ∧ r.needsTimezone = true := by
  have hassigned : ∀ name ∈ lineReferences ("fake" ++ " = " ++ (Expr.call "Faker" .nil).render), name ∉ typeNames := by
    decide
  have hclass : isIdentChars (r.className "" "Factory").toList = true :=
    isIdentChars_className hmodel _ _ (Or.inl rfl) (by decide)
  rcases SourceFile.mem_references_iff.1 h with ⟨a, ha, hline⟩ | ⟨d, hd, hline⟩
  · obtain rfl := List.mem_singleton.1 ha
    exact absurd hname (hassigned name hline)
  obtain rfl := List.mem_singleton.1 hd
  rcases (Source.ClassBody.exists_lines_iff (c := r.factoryClass) hclass rfl).1 hline with hhead | hbody
  · cases hhead
  obtain ⟨m, hm, hmember⟩ := Source.ClassBody.mem_references_iff.1 hbody
  rw [members_factoryClass] at hm
  simp only [List.mem_cons, List.not_mem_nil, or_false] at hm
  rcases hm with rfl | rfl | rfl | rfl | rfl
  · rw [references_factoryDoc hmodel] at hmember
    cases hmember
  · exact Or.inl (references_modelValue hmodel hmember)
  · exact Or.inr (references_definition hschema hmember hname)
  · exact Or.inl (references_make hmodel hmember hname)
  · exact Or.inl (references_makeMany hmodel hmember hname)

private theorem takes_factory (hschema : r.schema.WellFormed) (hmodel : isIdentChars r.model.toList = true)
    (h : name ∈ (Artifact.factory r).source.references) (hname : name ∈ typeNames) :
    ∃ origin, (Artifact.factory r).source.Takes origin name := by
  rcases references_factory hschema hmodel h hname with rfl | ⟨rfl, hzone⟩
  · have hunnamed : ∀ name ∈ [r.model], Source.Import.alias? name = none := by
      have hblank : ' ' ∉ r.model.toList :=
        fun hmem => absurd (forall_isIdentChar hmodel ' ' hmem) (by decide)
      exact List.forall_mem_singleton.2 (alias?_eq_none hblank)
    refine ⟨_, r.modelImport, ?_, rfl, ?_⟩
    · simp [Artifact.factory, factoryImports]
    · rw [modelImport, Source.Import.binds_of_names (by simp) hunnamed]
      exact List.mem_singleton_self _
  · refine ⟨"datetime", ⟨"datetime", ["timezone"]⟩, ?_, rfl, by decide⟩
    simp [Artifact.factory, factoryImports, hzone]

end Request

/-! ### Every file -/

open ArtifactKind

/-- What the file of the model takes from the standard library, from `typing` and from the library for the database is
what its class refers to, apart from built-in names.  It takes fixed names from these modules, and everything else comes
from the module of the database and from the line that puts off the evaluation of type hints.  The other files that are
written from the types of the fields take every type that they refer to. -/
theorem Request.takes_iff_references {raw : Option String} {words : List String} {given : String} {r : Request}
    (hschema : Schema.parse raw = .ok r.schema) (hname : modelName words given = .ok r.model)
    (hplain : IsPlain given.toList) (stamp : String) :
    (∀ name, (∃ origin ∈ modelLibraries, (ArtifactKind.model.artifact stamp r).source.Takes origin name) ↔
      name ∈ r.modelClass.references ∧ name ∉ builtinNames) ∧
    (∀ origin name, (ArtifactKind.model.artifact stamp r).source.Takes origin name →
      (name, origin) ∈ modelNames ∨ origin = "__future__" ∨ origin = r.databaseModule) ∧
    ∀ k ∈ [createRequest, updateRequest, resource, factory], ∀ name ∈ typeNames,
      name ∈ (k.artifact stamp r).source.references → ∃ origin, (k.artifact stamp r).source.Takes origin name := by
  have hwell := wellFormed_of_parse hschema
  have hbreak : '\n' ∉ given.toList := fun hmem => absurd (hplain _ hmem) (by decide)
  have hmodel := isPlain_of_modelName hname hbreak
  have hident : isIdentChars r.model.toList = true := by
    obtain ⟨c, rest, hcons, hc⟩ := head_of_modelName hname
    rw [hcons, isIdentChars, Bool.and_eq_true, List.all_eq_true]
    exact ⟨by simp [Text.isIdentStart, hc], fun d hd => hmodel d (hcons ▸ List.mem_cons_of_mem c hd)⟩
  refine ⟨fun name => takes_model_iff hwell hmodel, fun origin name => mem_modelNames_of_takes, ?_⟩
  intro k hk name htype href
  simp only [List.mem_cons, List.not_mem_nil, or_false] at hk
  rcases hk with rfl | rfl | rfl | rfl
  · exact takes_body hwell hident href htype
  · exact takes_body hwell hident href htype
  · exact takes_resource hwell hident href htype
  · exact takes_factory hwell hident href htype

/-- A moment that may be missing, and a price. -/
theorem Request.takes_iff_references_of_task :
    let given := some "due:timestamp:nullable, price:decimal"
    ∃ r : Request, Schema.parse given = .ok r.schema ∧ modelName reservedWords "Task" = .ok r.model ∧
      IsPlain "Task".toList ∧
      (∀ name ∈ ["dt", "decimal", "Optional"], ∃ origin ∈ modelLibraries,
        (ArtifactKind.model.artifact "" r).source.Takes origin name) ∧
      (¬ ∃ origin ∈ modelLibraries, (ArtifactKind.model.artifact "" r).source.Takes origin "uuid") ∧
      ∃ origin, (factory.artifact "" r).source.Takes origin "timezone" := by
  intro given
  have hname : modelName reservedWords "Task" = .ok "Task" := by decide +kernel
  have hplain : IsPlain "Task".toList := Naming.isPlain_of_all (by decide)
  have hrefers : (Schema.parse given).toOption.any (fun s =>
      let r : Request := ⟨"Task", ⟨fun _ => false⟩, s, "default", "out", "app"⟩
      decide ((∀ name ∈ ["dt", "decimal", "Optional"],
        name ∈ r.modelClass.references ∧ name ∉ builtinNames) ∧ "uuid" ∉ r.modelClass.references ∧
          "timezone" ∈ (factory.artifact "" r).source.references)) = true := by
    decide +kernel
  cases hparse : Schema.parse given with
  | error e => simp [hparse, Except.toOption] at hrefers
  | ok s =>
    simp only [hparse, Except.toOption, Option.any_some, decide_eq_true_eq] at hrefers
    obtain ⟨hmodel, huuid, hzone⟩ := hrefers
    have hall := Request.takes_iff_references (r := ⟨"Task", ⟨fun _ => false⟩, s, "default", "out", "app"⟩) hparse hname
      hplain ""
    refine ⟨_, rfl, hname, hplain, fun name hmem => (hall.1 name).2 (hmodel name hmem), ?_, ?_⟩
    · exact fun htaken => huuid ((hall.1 "uuid").1 htaken).1
    · exact hall.2.2 factory (by decide) "timezone" (by decide) hzone

end CrudScaffold
