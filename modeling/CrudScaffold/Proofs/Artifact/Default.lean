import CrudScaffold.Proofs.Artifact.Columns
import CrudScaffold.Proofs.Source.Literal
import CrudScaffold.Proofs.Text.Affix
import CrudScaffold.Proofs.Text.Trim
import Mathlib.Data.List.Nodup

/-!
# Default values in the files

The class of the model, the body of a request that creates a row, and the migration all write the default value of a
field.  Each writes one literal for it (`Request.defaults_model`, `Request.defaults_create`,
`Request.defaults_migration`).  For text it is the same one in all three, and it stands for the text that the schema
gives (`Request.text_defaults_agree`); of the other values some are not written as literals at all
(`Request.defaults_isLiteral_iff`).
-/

namespace CrudScaffold

open Source (Arguments Definition Expr IsForeignNumeral IsLiteral Member Statement)
open Text (Symbol)
open Text.Quoted (evaluate)

/-! ### What a file says of defaults -/

namespace Source

/-- The default that an attribute is given by the call that makes it. -/
def Member.default? : Member → Option (String × Expr)
  | .attribute name _ (some (.call _ arguments)) => (arguments.keyword? "default").map (name, ·)
  | _ => none

/-- The defaults of the attributes of a class. -/
def Definition.defaults : Definition → List (String × Expr)
  | .function _ => []
  | .classBody c => c.groups.flatten.filterMap Member.default?

def SourceFile.defaults (f : SourceFile) : List (String × Expr) :=
  f.definitions.flatMap Definition.defaults

/-- The default of a column of a table that is being created. -/
def Expr.serverDefault? : Expr → Option (String × Expr)
  | .call "sa.Column" (.positional (.quoted name) arguments) => (arguments.keyword? "server_default").map (name, ·)
  | _ => Option.none

theorem Arguments.keyword?_ofKeywords (name : String) (settings : List (String × Expr)) :
    (ofKeywords settings).keyword? name = settings.lookup name := by
  induction settings with
  | nil => rfl
  | cons setting settings ih =>
    obtain ⟨other, e⟩ := setting
    rw [ofKeywords, keyword?, List.lookup_cons, ih]
    by_cases h : name = other
    · rw [if_pos h, beq_iff_eq.2 h]
    · rw [if_neg h, beq_eq_false_iff_ne.2 h]

end Source

namespace Field

variable (f : Field)

private theorem keyword?_modelColumn :
    (f.modelColumn.arguments "ForeignKey").keyword? "default" = f.defaultLiteral?.map .literal := by
  rw [Column.arguments, Arguments.keyword?_ofValues_append, Arguments.keyword?_ofKeywords]
  unfold modelColumn
  generalize f.isNullable = nullable
  generalize f.isUnique = unique
  generalize f.isIndexed = indexed
  generalize f.defaultLiteral? = code
  cases nullable <;> cases unique <;> cases indexed <;> cases code <;> rfl

private theorem keyword?_migrationColumn :
    (f.migrationColumn.arguments "sa.ForeignKey").keyword? "server_default" = f.defaultLiteral?.map serverDefault := by
  rw [Column.arguments, Arguments.keyword?_ofValues_append, Arguments.keyword?_ofKeywords]
  unfold migrationColumn
  generalize f.isNullable = nullable
  generalize f.isUnique = unique
  generalize f.defaultLiteral? = code
  cases nullable <;> cases unique <;> cases code <;> rfl

private theorem default?_bodyMember :
    (f.bodyMember .create).default? = f.createDefault?.map fun code => (f.name, .literal code) := by
  have hrules (default : Option String) : ∃ arguments, f.rules default = .call "Field" arguments ∧
      arguments.keyword? "default" = default.map .literal := by
    refine ⟨_, rfl, ?_⟩
    rw [Arguments.keyword?_ofKeywords]
    cases default with
    | some code => rfl
    | none => split_ifs <;> rfl
  obtain ⟨arguments, hcall, hkeyword⟩ := hrules f.createDefault?
  rw [bodyMember, hcall]
  change (arguments.keyword? "default").map (f.name, ·) = _
  rw [hkeyword, Option.map_map]
  rfl

/-- The migration writes the literal of a text as it is. -/
private theorem serverDefault_textLiteral (value : String) :
    serverDefault (Source.textLiteral value) = .literal (Source.textLiteral value) := by
  generalize hcode : Source.textLiteral value = code
  have hquote := Text.Quoted.quoteFor_cases (Text.unquote (Text.trim value.toList))
  have htext : code.toList = Text.Quoted.encode (Text.unquote (Text.trim value.toList)) := by
    rw [← hcode, Source.textLiteral, Text.quoted, String.toList_ofList, String.toList_ofList]
  rw [Text.Quoted.encode, List.cons_append] at htext
  generalize Text.Quoted.quoteFor (Text.unquote (Text.trim value.toList)) = quote at hquote htext
  have hne {word : String} (h : word.toList.head? ≠ some '\'' ∧ word.toList.head? ≠ some '"') : code ≠ word := by
    rintro rfl
    rw [htext] at h
    rcases hquote with rfl | rfl
    · exact h.1 rfl
    · exact h.2 rfl
  have hstart : Text.startsWith "'" code ∨ Text.startsWith "\"" code := by
    rw [Text.startsWith_iff, Text.startsWith_iff, htext]
    rcases hquote with rfl | rfl
    · exact Or.inl (List.prefix_append ['\''] _)
    · exact Or.inr (List.prefix_append ['"'] _)
  rw [serverDefault, if_neg (not_or.2 ⟨hne (by decide), hne (by decide)⟩), if_neg (hne (by decide)), if_pos hstart]

end Field

/-! ### The defaults of each file -/

namespace Request

variable (r : Request) (stamp : String)

/-- What is said of defaults by things made of the fields, with one before them that has no default. -/
private theorem filterMap_fields {α : Type} {read : α → Option (String × Expr)} {make : Field → α}
    {default : Field → Option Expr} {first : α} {last : List α} {defaults : List (String × Expr)}
    (hfirst : read first = none) (hmake : ∀ f, read (make f) = (default f).map (f.name, ·))
    (hlast : last.filterMap read = defaults) (fields : List Field) :
    (first :: (fields.map make ++ last)).filterMap read =
      (fields.filterMap fun f => (default f).map (f.name, ·)) ++ defaults := by
  have hfields : (fields.map make).filterMap read = fields.filterMap fun f => (default f).map (f.name, ·) := by
    rw [List.filterMap_map]
    exact List.filterMap_congr fun f _ => hmake f
  rw [List.filterMap_cons_none hfirst, List.filterMap_append, hfields, hlast]

theorem defaults_model : (ArtifactKind.model.artifact stamp r).source.defaults =
    (r.fields.filterMap fun f => (f.defaultLiteral?.map .literal).map (f.name, ·)) ++
      if r.softDelete then [("deleted_at", .none)] else [] := by
  have hcolumn (f : Field) : (Member.default? ∘ ColumnAttribute.member) ⟨f.hint, f.modelColumn⟩ =
      (f.defaultLiteral?.map .literal).map (f.name, ·) := by
    rw [← f.keyword?_modelColumn]
    rfl
  have hcolumns : (r.modelColumns.filterMap (Member.default? ∘ ColumnAttribute.member)) =
      (r.fields.filterMap fun f => (f.defaultLiteral?.map .literal).map (f.name, ·)) ++
        if r.softDelete then [("deleted_at", .none)] else [] := by
    rw [modelColumns, List.append_assoc, List.cons_append]
    refine filterMap_fields ?_ hcolumn ?_ r.fields
    · rfl
    · cases r.softDelete <;> rfl
  change [Definition.classBody r.modelClass].flatMap Definition.defaults = _
  rw [List.flatMap_singleton, Definition.defaults, filterMap_modelClass rfl (fun _ _ => rfl) fun _ => rfl, hcolumns]

theorem defaults_create : (ArtifactKind.createRequest.artifact stamp r).source.defaults =
    r.fields.filterMap fun f => (f.createDefault?.map .literal).map (f.name, ·) := by
  have hmember (f : Field) : (f.bodyMember .create).default? = (f.createDefault?.map .literal).map (f.name, ·) := by
    rw [f.default?_bodyMember, Option.map_map]
    rfl
  have hgroups : (r.bodyClass .create).groups.flatten =
      .value "model_config" (.call "ConfigDict" (.ofKeywords
        [("str_strip_whitespace", .true), ("extra", .quoted "forbid")])) ::
          (r.fields.map (·.bodyMember .create) ++ []) := by
    unfold bodyClass
    cases r.fields <;> simp
  change [Definition.classBody (r.bodyClass .create)].flatMap Definition.defaults = _
  rw [List.flatMap_singleton, Definition.defaults, hgroups]
  exact (filterMap_fields rfl hmember rfl r.fields).trans (List.append_nil _)

/-- The defaults of the columns that the migration creates. -/
def createdDefaults : List (String × Expr) :=
  (r.migrationColumns.map Column.declaration).filterMap Expr.serverDefault?

theorem createdDefaults_eq : r.createdDefaults =
    (r.fields.filterMap fun f => (f.defaultLiteral?.map Field.serverDefault).map (f.name, ·)) ++
      [("created_at", .call "sa.func.now" .nil), ("updated_at", .call "sa.func.now" .nil)] := by
  have hcolumn (f : Field) : (Expr.serverDefault? ∘ Column.declaration) f.migrationColumn =
      (f.defaultLiteral?.map Field.serverDefault).map (f.name, ·) := by
    rw [← f.keyword?_migrationColumn]
    rfl
  rw [createdDefaults, List.filterMap_map, migrationColumns, List.append_assoc, List.cons_append]
  refine filterMap_fields ?_ hcolumn ?_ r.fields
  · rfl
  · cases r.softDelete <;> rfl

end Request

/-! ### Defaults that are literals -/

/-- The default of the field is a numeral that the language does not know, and it is not written as text. -/
def Field.HasForeignDefault (f : Field) : Prop :=
  f.type.valueType ≠ "str" ∧ ∃ argument, f.default? = some argument ∧ IsForeignNumeral (Text.trim argument.toList)

section Literals

variable (named : String → Option Char)

private theorem isLiteral_none : IsLiteral named Expr.none.render.toList :=
  .constant (by decide)

private theorem Field.isLiteral_defaultLiteral_iff {f : Field} {code : String} (h : f.defaultLiteral? = some code) :
    IsLiteral named code.toList ↔ ¬ f.HasForeignDefault := by
  obtain ⟨argument, hargument, rfl⟩ := Option.map_eq_some_iff.1 h
  unfold HasForeignDefault
  split
  · rename_i htext
    exact ⟨fun _ hforeign => hforeign.1 htext, fun _ => Source.isLiteral_textLiteral named argument⟩
  · rename_i htext
    rw [Source.isLiteral_literal_iff]
    refine ⟨fun hplain hforeign => ?_, fun hnone hforeign => hnone ⟨htext, argument, hargument, hforeign⟩⟩
    obtain ⟨-, argument', hargument', hforeign⟩ := hforeign
    rw [hargument] at hargument'
    exact hplain (Option.some.inj hargument' ▸ hforeign)

/-- A value is written as a literal if and only if it is no numeral that the language does not know.  So all defaults
in the model and in the body of a request that creates a row are literals if and only if there is no such numeral
among those of the fields that do not hold text. -/
theorem Request.defaults_isLiteral_iff (stamp : String) :
    (∀ value, IsLiteral named (Source.literal value).toList ↔ ¬ IsForeignNumeral (Text.trim value.toList)) ∧
      ∀ r : Request,
        (∀ d ∈ (ArtifactKind.model.artifact stamp r).source.defaults ++
            (ArtifactKind.createRequest.artifact stamp r).source.defaults, IsLiteral named d.2.render.toList) ↔
          ∀ f ∈ r.fields, ¬ f.HasForeignDefault := by
  refine ⟨Source.isLiteral_literal_iff named, fun r => ⟨fun h f hf hforeign => ?_, fun h d hd => ?_⟩⟩
  · obtain ⟨-, argument, hargument, -⟩ := id hforeign
    obtain ⟨code, hcode⟩ : ∃ code, f.defaultLiteral? = some code := ⟨_, Option.map_eq_some_iff.2 ⟨_, hargument, rfl⟩⟩
    have hmem : (f.name, .literal code) ∈ (ArtifactKind.model.artifact stamp r).source.defaults := by
      rw [r.defaults_model]
      exact List.mem_append_left _ (List.mem_filterMap.2 ⟨f, hf, by rw [hcode]; rfl⟩)
    exact (f.isLiteral_defaultLiteral_iff named hcode).1 (h _ (List.mem_append_left _ hmem)) hforeign
  · have hfield {f : Field} {code : String} (hf : f ∈ r.fields) (hcode : f.defaultLiteral? = some code) :
        IsLiteral named (Expr.literal code).render.toList :=
      (f.isLiteral_defaultLiteral_iff named hcode).2 (h f hf)
    rw [r.defaults_model, r.defaults_create, List.append_assoc, List.mem_append, List.mem_append] at hd
    rcases hd with hd | hd | hd
    · obtain ⟨f, hf, hd⟩ := List.mem_filterMap.1 hd
      obtain ⟨e, he, rfl⟩ := Option.map_eq_some_iff.1 hd
      obtain ⟨code, hcode, rfl⟩ := Option.map_eq_some_iff.1 he
      exact hfield hf hcode
    · split at hd
      · obtain rfl := List.mem_singleton.1 hd
        exact isLiteral_none named
      · cases hd
    · obtain ⟨f, hf, hd⟩ := List.mem_filterMap.1 hd
      obtain ⟨e, he, rfl⟩ := Option.map_eq_some_iff.1 hd
      obtain ⟨code, hcode, rfl⟩ := Option.map_eq_some_iff.1 he
      unfold Field.createDefault? at hcode
      split at hcode
      · rename_i hliteral
        exact hfield hf (hliteral.trans hcode)
      · split at hcode
        · obtain rfl := Option.some.inj hcode
          exact isLiteral_none named
        · cases hcode

theorem Request.defaults_isLiteral_of_twelve :
    let count : Field := ⟨"count", .integer, [⟨.default, some "12"⟩]⟩
    let r : Request := ⟨"Post", ⟨fun _ => true⟩, ⟨[count]⟩, "default", "out", "app"⟩
    Schema.parse (some "count:integer:default(12)") = .ok r.schema ∧
      ∀ d ∈ (ArtifactKind.model.artifact "2024_05_01_123045" r).source.defaults ++
          (ArtifactKind.createRequest.artifact "2024_05_01_123045" r).source.defaults,
        IsLiteral (fun _ => none) d.2.render.toList := by
  intro count r
  have hparse : Schema.parse (some "count:integer:default(12)") = .ok r.schema := by decide +kernel
  obtain ⟨hvalues, hfiles⟩ := defaults_isLiteral_iff (fun _ => none) "2024_05_01_123045"
  have htwelve : IsLiteral (fun _ => none) (Source.literal "12").toList :=
    .number (Or.inl (.decimal (by decide) (.next rfl (.last rfl))))
  refine ⟨hparse, (hfiles r).2 fun f hf hforeign => ?_⟩
  obtain rfl := List.mem_singleton.1 hf
  obtain ⟨-, argument, hargument, hforeign⟩ := hforeign
  obtain rfl : "12" = argument := Option.some.inj hargument
  exact (hvalues "12").1 htwelve hforeign

/-- Zeros in front of a number are written as they are. -/
theorem Request.not_isLiteral_of_zeros :
    let count : Field := ⟨"count", .integer, [⟨.default, some "007"⟩]⟩
    let r : Request := ⟨"Post", ⟨fun _ => true⟩, ⟨[count]⟩, "default", "out", "app"⟩
    Schema.parse (some "count:integer:default(007)") = .ok r.schema ∧
      ("count", .literal "007") ∈ (ArtifactKind.model.artifact "2024_05_01_123045" r).source.defaults ∧
        ("count", .literal "007") ∈ (ArtifactKind.createRequest.artifact "2024_05_01_123045" r).source.defaults ∧
          Source.literal "007" = "007" ∧ ∀ named, ¬ IsLiteral named "007".toList := by
  intro count r
  have hparse : Schema.parse (some "count:integer:default(007)") = .ok r.schema := by decide +kernel
  have hliteral : Source.literal "007" = "007" := by decide +kernel
  have hcode : count.defaultLiteral? = some "007" := congrArg some hliteral
  refine ⟨hparse, ?_, ?_, hliteral, fun named => Source.not_isLiteral_of_foreign ?_⟩
  · rw [r.defaults_model]
    exact List.mem_append_left _ (List.mem_filterMap.2 ⟨count, List.mem_cons_self, by rw [hcode]; rfl⟩)
  · rw [r.defaults_create]
    exact List.mem_filterMap.2 ⟨count, List.mem_cons_self, by rw [Field.createDefault?, hcode]; rfl⟩
  · have hzero : IsForeignNumeral ([] ++ '0' :: "07".toList) :=
      .zero (by decide) (List.all_eq_true.1 (by decide)) (show '7' ∈ "07".toList by decide) (by decide)
    exact hzero

end Literals

/-! ### Defaults that are texts -/

/-- What is between two equal quotes, or the whole text when it is not quoted so. -/
inductive Unquotes : List Char → List Char → Prop
  | quoted {quote : Char} {text : List Char} (h : quote ∈ ['\'', '"']) : Unquotes (quote :: (text ++ [quote])) text
  | bare {text : List Char} (h : ∀ quote ∈ ['\'', '"'], ∀ inner, text ≠ quote :: (inner ++ [quote])) :
      Unquotes text text

private theorem unquotes_unquote (cs : List Char) : Unquotes cs (Text.unquote cs) := by
  cases cs with
  | nil => exact .bare fun quote _ inner h => by cases h
  | cons c cs =>
    simp only [Text.unquote]
    split
    · rename_i h
      obtain ⟨hquote, hlast⟩ := h
      obtain ⟨inner, rfl⟩ := List.getLast?_eq_some_iff.1 hlast
      rw [List.dropLast_concat]
      exact .quoted (by simpa using hquote)
    · rename_i h
      refine .bare fun quote hquote inner heq => h ?_
      obtain ⟨rfl, rfl⟩ := List.cons.inj heq
      exact ⟨by simpa using hquote, by simp⟩

/-- A text is written as a literal that stands for it. -/
private theorem evaluate_textLiteral (named : String → Option Char) (value : String) :
    ∃ text, Unquotes (Text.trim value.toList) text ∧
      evaluate named (Source.textLiteral value).toList = some (Symbol.ofChars text) := by
  refine ⟨_, unquotes_unquote _, ?_⟩
  rw [Source.textLiteral, Text.quoted, String.toList_ofList, String.toList_ofList, Text.Quoted.evaluate_encode]

/-- Of the fields of a schema without repeated names, one has the name. -/
private theorem Schema.mem_defaults_iff {s : Schema} (hnames : s.names.Nodup) {f : Field} (hf : f ∈ s.fields)
    {default : Field → Option Expr} {e : Expr} :
    (f.name, e) ∈ s.fields.filterMap (fun g => (default g).map (g.name, ·)) ↔ default f = some e := by
  constructor
  · intro h
    obtain ⟨g, hg, hdefault⟩ := List.mem_filterMap.1 h
    obtain ⟨d, hd, heq⟩ := Option.map_eq_some_iff.1 hdefault
    obtain ⟨hname, rfl⟩ := Prod.mk.inj heq
    obtain rfl := List.inj_on_of_nodup_map hnames hg hf hname
    exact hd
  · intro h
    exact List.mem_filterMap.2 ⟨f, hf, by rw [h]; rfl⟩

/-- The model, the body of a request that creates a row, and the migration write one literal for the default of a
field, and nothing else. -/
structure Request.WritesDefault (r : Request) (stamp : String) (f : Field) (code : String) : Prop where
  model : ∀ e, (f.name, e) ∈ (ArtifactKind.model.artifact stamp r).source.defaults ↔ e = .literal code
  create : ∀ e, (f.name, e) ∈ (ArtifactKind.createRequest.artifact stamp r).source.defaults ↔ e = .literal code
  migration : ∀ e, (f.name, e) ∈ r.createdDefaults ↔ e = .literal code
  /-- The migration's first function declares these columns. -/
  declares : ∃ upgrade downgrade,
    (ArtifactKind.migration.artifact stamp r).source.definitions = [.function upgrade, .function downgrade] ∧
      upgrade.name = "upgrade" ∧
      Statement.creating r.table (r.migrationColumns.map Column.declaration) <+: upgrade.body

/-- No field has the name of a column that every table has. -/
private theorem Field.WellFormed.name_ne {f : Field} (h : f.WellFormed) {name : String}
    (hname : Text.lowercase name ∈ Schema.implicitColumns) : f.name ≠ name := by
  rintro rfl
  exact h.explicit hname

section Parsed

variable {raw : Option String} {r : Request} (h : Schema.parse raw = .ok r.schema) (stamp : String) {f : Field}
  (hf : f ∈ r.fields) {e : Expr}

include h hf

/-- The body of a request that creates a row has the default that the field has there. -/
theorem Request.mem_defaults_create_iff :
    (f.name, e) ∈ (ArtifactKind.createRequest.artifact stamp r).source.defaults ↔
      f.createDefault?.map .literal = some e := by
  rw [r.defaults_create]
  exact Schema.mem_defaults_iff (wellFormed_of_parse h).names hf

/-- The migration has the default that the database takes for the field's own. -/
theorem Request.mem_createdDefaults_iff :
    (f.name, e) ∈ r.createdDefaults ↔ f.defaultLiteral?.map Field.serverDefault = some e := by
  have hwell := wellFormed_of_parse h
  have hname {name : String} (hname : Text.lowercase name ∈ Schema.implicitColumns) : f.name ≠ name :=
    (hwell.fields f hf).name_ne hname
  rw [r.createdDefaults_eq, List.mem_append, or_iff_left]
  · exact Schema.mem_defaults_iff hwell.names hf
  · intro hmem
    rcases List.mem_cons.1 hmem with heq | hmem
    · exact hname (by decide) (Prod.mk.inj heq).1
    · exact hname (by decide) (Prod.mk.inj (List.mem_singleton.1 hmem)).1

/-- The files write the literal of a field's default if the database takes the same one. -/
private theorem Request.writesDefault {code : String} (hcode : f.defaultLiteral? = some code)
    (hserver : Field.serverDefault code = .literal code) : r.WritesDefault stamp f code := by
  have hwell := wellFormed_of_parse h
  have hliteral {e : Expr} : some (Expr.literal code) = some e ↔ e = .literal code := by
    rw [Option.some.injEq, eq_comm]
  have hdeleted (e : Expr) : (f.name, e) ∉ if r.softDelete then [("deleted_at", Expr.none)] else [] := by
    split
    · intro hmem
      exact (hwell.fields f hf).name_ne (by decide) (Prod.mk.inj (List.mem_singleton.1 hmem)).1
    · exact List.not_mem_nil
  refine ⟨fun e => ?_, fun e => ?_, fun e => ?_, _, _, rfl, rfl, ?_⟩
  · rw [r.defaults_model, List.mem_append, or_iff_left (hdeleted e), Request.fields,
      Schema.mem_defaults_iff hwell.names hf, hcode]
    exact hliteral
  · rw [Request.mem_defaults_create_iff h stamp hf, Field.createDefault?, hcode]
    exact hliteral
  · rw [Request.mem_createdDefaults_iff h hf, hcode, Option.map_some, hserver]
    exact hliteral
  · rw [Statement.creating, List.map_map]
    exact List.prefix_append _ _

end Parsed

/-- Every text is written as a literal of one line that stands for it.  So the files of a schema that was read write
one literal for the default of a field that holds text, and it stands for what the schema says: the argument without
the blanks at its ends, and without the quotes around it. -/
theorem Request.text_defaults_agree (named : String → Option Char) (stamp : String) :
    (∀ text : String, evaluate named (Text.quoted text).toList = some (Symbol.ofChars text.toList) ∧
      ∀ c ∈ Text.Quoted.lineEnds, c ∉ (Text.quoted text).toList) ∧
      ∀ (raw : Option String) (r : Request), Schema.parse raw = .ok r.schema →
        ∀ f ∈ r.fields, f.type.valueType = "str" → ∀ argument, f.default? = some argument →
          ∃ code core text, r.WritesDefault stamp f code ∧ Text.Trimmed core ∧ Text.Padded core argument.toList ∧
            Unquotes core text ∧ evaluate named code.toList = some (Symbol.ofChars text) := by
  refine ⟨fun text => ?_, fun raw r h f hf htext argument hdefault => ?_⟩
  · rw [Text.quoted, String.toList_ofList]
    exact ⟨Text.Quoted.evaluate_encode named text.toList, fun c hc => Text.Quoted.not_mem_encode_of_mem_lineEnds hc _⟩
  · have hcode : f.defaultLiteral? = some (Source.textLiteral argument) := by
      rw [Field.defaultLiteral?, hdefault, Option.map_some, if_pos htext]
    obtain ⟨text, hunquotes, hvalue⟩ := evaluate_textLiteral named argument
    exact ⟨_, _, text, r.writesDefault h stamp hf hcode (Field.serverDefault_textLiteral argument),
      Text.trimmed_trim _, Text.padded_trim _, hunquotes, hvalue⟩

theorem Request.text_defaults_agree_of_quoted :
    let title : Field := ⟨"title", .string, [⟨.default, some "'New'"⟩]⟩
    let r : Request := ⟨"Post", ⟨fun _ => true⟩, ⟨[title]⟩, "default", "out", "app"⟩
    Schema.parse (some "title:string:default( 'New' )") = .ok r.schema ∧
      ∃ code core text, r.WritesDefault "2024_05_01_123045" title code ∧ Text.Trimmed core ∧
        Text.Padded core "'New'".toList ∧ Unquotes core text ∧
          evaluate (fun _ => none) code.toList = some (Symbol.ofChars text) := by
  intro title r
  have hparse : Schema.parse (some "title:string:default( 'New' )") = .ok r.schema := by decide +kernel
  exact ⟨hparse, (text_defaults_agree (fun _ => none) "2024_05_01_123045").2 _ r hparse title List.mem_cons_self rfl _
    rfl⟩

end CrudScaffold
