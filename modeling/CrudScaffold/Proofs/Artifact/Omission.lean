import CrudScaffold.Proofs.Artifact.Attributes
import CrudScaffold.Proofs.Artifact.Default

/-!
# Values that a client may leave out

A client that creates a row may leave out what has a default in the body of the request, and the table takes a row
without a value where the column may be null or the database fills one in.  Both files mean the same fields, save
those whose default is written as nothing at all though the column must not be null (`Request.omissionAgrees_iff`).
-/

namespace CrudScaffold

open Source (Statement)

/-! ### Nothing as a default -/

namespace Source

/-- The words for nothing, in lower case. -/
def nothings : List String :=
  ["null", "none"]

/-- What is in quotes is a text, whatever it says. -/
theorem quoted_ne_none (text : String) : Text.quoted text ≠ "None" := by
  intro h
  have hchars := congrArg String.toList h
  rw [Text.quoted, String.toList_ofList, Text.Quoted.encode, List.cons_append] at hchars
  have hhead := (List.cons.inj hchars).1
  rcases Text.Quoted.quoteFor_cases text.toList with hquote | hquote <;> rw [hquote] at hhead <;>
    exact absurd hhead (by decide)

theorem literal_eq_none_iff {value : String} :
    literal value = "None" ↔ Text.lowercase (Text.strip value) ∈ nothings := by
  have hconstants : ∀ e ∈ constants, e.2 = "None" ↔ e.1 ∈ nothings := by decide
  dsimp only [literal]
  generalize Text.strip value = core
  cases hlookup : constants.lookup (Text.lowercase core) with
  | some code =>
    obtain ⟨before, after, hsplit, -⟩ := List.lookup_eq_some_iff.1 hlookup
    exact hconstants (Text.lowercase core, code) (hsplit ▸ List.mem_append_right _ List.mem_cons_self)
  | none =>
    have hother : Text.lowercase core ∉ nothings := by
      intro hmem
      have hknown : ∀ word ∈ nothings, constants.lookup word ≠ none := by decide
      exact hknown _ hmem hlookup
    refine iff_of_false ?_ hother
    dsimp only
    split
    · -- the word itself would have been found
      rintro rfl
      exact hother (by decide)
    · exact quoted_ne_none _

end Source

namespace Field

variable {f : Field} {code : String}

/-- The default of the field is written as nothing, and not as a text that says so. -/
def HasNullDefault (f : Field) : Prop :=
  f.type.valueType ≠ "str" ∧ ∃ argument, f.default? = some argument ∧
    Text.lowercase (Text.strip argument) ∈ Source.nothings

theorem defaultLiteral?_eq_none_iff : f.defaultLiteral? = some "None" ↔ f.HasNullDefault := by
  unfold defaultLiteral? HasNullDefault
  split
  · rename_i htext
    refine iff_of_false (fun h => ?_) fun h => h.1 htext
    obtain ⟨argument, -, hcode⟩ := Option.map_eq_some_iff.1 h
    exact Source.quoted_ne_none _ hcode
  · rename_i htext
    rw [Option.map_eq_some_iff, and_iff_right htext]
    exact exists_congr fun argument => and_congr_right fun _ => Source.literal_eq_none_iff

/-- The database is told of no default for nothing, and for nothing else. -/
theorem render_serverDefault_eq_none_iff : (serverDefault code).render = "None" ↔ code = "None" := by
  unfold serverDefault
  split
  · rename_i hbool
    rcases hbool with rfl | rfl <;> decide +kernel
  split
  · rename_i hnone
    exact iff_of_true rfl hnone
  · rename_i hnone
    refine iff_of_false ?_ hnone
    split
    · exact hnone
    · exact Source.quoted_ne_none code

/-- A field has a default in the body of a request if it has one of its own or may be null. -/
theorem isSome_createDefault? : f.createDefault?.isSome = (f.defaultLiteral?.isSome || f.isNullable) := by
  unfold createDefault?
  cases f.defaultLiteral? <;> cases f.isNullable <;> rfl

theorem createDefault?_of_required (h : f.isNullable = false) : f.createDefault? = f.defaultLiteral? := by
  unfold createDefault?
  rw [h]
  cases f.defaultLiteral? <;> rfl

end Field

/-! ### Both files -/

namespace Request

variable {r : Request} {stamp : String} {f : Field}

/-- The body of a request that creates a row gives the field this default. -/
def Omits (r : Request) (stamp name code : String) : Prop :=
  ∃ e, (name, e) ∈ (ArtifactKind.createRequest.artifact stamp r).source.defaults ∧ e.render = code

/-- The migration's table takes a row without a value for the column: it may be null, or the database fills in a
default that is not nothing. -/
def TakesOmission (r : Request) (name : String) : Prop :=
  (∃ c ∈ r.createdColumns, c.name = name ∧ c.nullable = true) ∨
    ∃ e, (name, e) ∈ r.createdDefaults ∧ e.render ≠ "None"

/-- A client may leave out a field just where the table takes it, and as nothing only where it may be null. -/
structure OmissionAgrees (r : Request) (stamp : String) (f : Field) : Prop where
  nothing : r.Omits stamp f.name "None" → f.isNullable = true
  taken : (∃ code, r.Omits stamp f.name code) ↔ r.TakesOmission f.name

section Parsed

variable {raw : Option String} (h : Schema.parse raw = .ok r.schema) (hf : f ∈ r.fields)

include h hf

theorem omits_iff {code : String} : r.Omits stamp f.name code ↔ f.createDefault? = some code := by
  unfold Omits
  simp only [mem_defaults_create_iff h stamp hf]
  constructor
  · rintro ⟨e, he, rfl⟩
    obtain ⟨code, hcode, rfl⟩ := Option.map_eq_some_iff.1 he
    exact hcode
  · exact fun hcode => ⟨.literal code, by rw [hcode]; rfl, rfl⟩

theorem takesOmission_iff :
    r.TakesOmission f.name ↔ f.isNullable = true ∨ ∃ code, f.defaultLiteral? = some code ∧ code ≠ "None" := by
  unfold TakesOmission
  refine or_congr ?_ ?_
  · have hnames : (r.createdColumns.map (·.name)).Nodup := by
      rw [r.isTable_createdColumns.names]
      exact nodup_columnNames (wellFormed_of_parse h)
    have hcolumn : f.tableColumn ∈ r.createdColumns := r.isTable_createdColumns.mem_field hf
    constructor
    · rintro ⟨c, hc, hname, hnullable⟩
      obtain rfl := List.inj_on_of_nodup_map hnames hc hcolumn hname
      exact hnullable
    · exact fun hnullable => ⟨_, hcolumn, rfl, hnullable⟩
  · simp only [mem_createdDefaults_iff h hf]
    constructor
    · rintro ⟨e, he, hrender⟩
      obtain ⟨code, hcode, rfl⟩ := Option.map_eq_some_iff.1 he
      exact ⟨code, hcode, mt Field.render_serverDefault_eq_none_iff.2 hrender⟩
    · rintro ⟨code, hcode, hne⟩
      exact ⟨Field.serverDefault code, by rw [hcode]; rfl, mt Field.render_serverDefault_eq_none_iff.1 hne⟩

/-- A field is left out as nothing only where it may be null, unless nothing is its own default. -/
theorem omits_none_iff : (r.Omits stamp f.name "None" → f.isNullable = true) ↔
    ¬ (f.HasNullDefault ∧ f.isNullable = false) := by
  rw [omits_iff h hf, ← Field.defaultLiteral?_eq_none_iff]
  cases hnullable : f.isNullable with
  | true => simp
  | false => simp [Field.createDefault?_of_required hnullable]

theorem omits_iff_takesOmission : ((∃ code, r.Omits stamp f.name code) ↔ r.TakesOmission f.name) ↔
    ¬ (f.HasNullDefault ∧ f.isNullable = false) := by
  simp only [omits_iff h hf, takesOmission_iff h hf, ← Field.defaultLiteral?_eq_none_iff]
  rw [← Option.isSome_iff_exists, Field.isSome_createDefault?]
  cases hnullable : f.isNullable with
  | true => simp
  | false => cases f.defaultLiteral? <;> simp

end Parsed

/-- For every schema that is read, the body of a request lets a client leave out just what the table can do without,
if and only if no field that must not be null has nothing as its default. -/
theorem omissionAgrees_iff {raw : Option String} {r : Request} (h : Schema.parse raw = .ok r.schema) (stamp : String) :
    (∃ upgrade downgrade,
      (ArtifactKind.migration.artifact stamp r).source.definitions = [.function upgrade, .function downgrade] ∧
        upgrade.name = "upgrade" ∧
          Statement.creating r.table (r.migrationColumns.map Column.declaration) <+: upgrade.body) ∧
      ∀ f ∈ r.fields,
        (r.OmissionAgrees stamp f ↔ ¬ (f.HasNullDefault ∧ f.isNullable = false)) ∧
          (f.HasNullDefault ∧ f.isNullable = false →
            r.Omits stamp f.name "None" ∧ ¬ r.TakesOmission f.name) := by
  obtain ⟨upgrade, downgrade, indexes, hdefinitions, hname, hbody, -⟩ := (tablesWritten_of_parse h stamp).created
  refine ⟨⟨upgrade, downgrade, hdefinitions, hname, hbody ▸ List.prefix_append _ _⟩, fun f hf => ⟨?_, ?_⟩⟩
  · constructor
    · exact fun hagree => (omits_none_iff h hf).1 hagree.nothing
    · exact fun hother => ⟨(omits_none_iff h hf).2 hother, (omits_iff_takesOmission h hf).2 hother⟩
  · rintro ⟨hnull, hrequired⟩
    have hcode := Field.defaultLiteral?_eq_none_iff.2 hnull
    rw [omits_iff h hf, takesOmission_iff h hf, Field.createDefault?_of_required hrequired, hcode, hrequired]
    simp

/-- One field for each way to have a default: none, its own, nothing where it may be null, and the word as a text. -/
theorem omissionAgrees_of_four :
    let views : Field := ⟨"views", .integer, []⟩
    let rank : Field := ⟨"rank", .integer, [⟨.default, some "1"⟩]⟩
    let score : Field := ⟨"score", .float, [⟨.nullable, none⟩, ⟨.default, some "NULL"⟩]⟩
    let label : Field := ⟨"label", .string, [⟨.default, some "none"⟩]⟩
    let r : Request := ⟨"Post", ⟨fun _ => true⟩, ⟨[views, rank, score, label]⟩, "default", "out", "app"⟩
    Schema.parse (some "views:int,rank:int:default(1),score:float:nullable:default(NULL),label:str:default(none)") =
        .ok r.schema ∧
      ∀ f ∈ r.fields, r.OmissionAgrees "2024_05_01_123045" f := by
  intro views rank score label r
  have hparse : Schema.parse
      (some "views:int,rank:int:default(1),score:float:nullable:default(NULL),label:str:default(none)") =
        .ok r.schema := by
    decide +kernel
  refine ⟨hparse, fun f hf => (((omissionAgrees_iff hparse _).2 f hf).1).2 ?_⟩
  rintro ⟨⟨htype, argument, hargument, hnothing⟩, hrequired⟩
  have hfields : r.fields = [views, rank, score, label] := rfl
  simp only [hfields, List.mem_cons, List.not_mem_nil, or_false] at hf
  rcases hf with rfl | rfl | rfl | rfl
  · cases hargument
  · obtain rfl : "1" = argument := Option.some.inj hargument
    exact absurd hnothing (by decide +kernel)
  · exact absurd hrequired (by decide)
  · exact htype rfl

/-- A column that must not be null is left out as nothing. -/
theorem not_omissionAgrees_of_null :
    ¬ ∀ (raw : Option String) (r : Request) (stamp : String), Schema.parse raw = .ok r.schema →
      ∀ f ∈ r.fields, r.OmissionAgrees stamp f := by
  intro h
  let age : Field := ⟨"age", .integer, [⟨.default, some "null"⟩]⟩
  let r : Request := ⟨"Post", ⟨fun _ => true⟩, ⟨[age]⟩, "default", "out", "app"⟩
  have hparse : Schema.parse (some "age:integer:default(null)") = .ok r.schema := by decide +kernel
  have hage : age ∈ r.fields := List.mem_cons_self
  have hagree := h _ r "2024_05_01_123045" hparse age hage
  exact (omits_none_iff hparse hage).1 hagree.nothing ⟨⟨by decide, "null", rfl, by decide +kernel⟩, rfl⟩

end Request
end CrudScaffold
