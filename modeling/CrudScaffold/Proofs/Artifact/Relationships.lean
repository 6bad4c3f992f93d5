import CrudScaffold.Proofs.Artifact.Attributes
import CrudScaffold.Proofs.Request
import CrudScaffold.Proofs.Schema.Reference

/-!
# References in generated files

For every reference the model's class has a relationship, and its table a column that says where the reference leads.
The relationship passes the checks for the names of fields unless it is a word that the checks look for, with `_id`
behind it in the name of the field (`relationNames_of_parse`).  The texts that the column and the relationship are
written with are made of identifiers unless nothing is left of the field's name, or a digit begins the name of the class
(`refers_of_parse`).  The class is that of the model whose table is referred to exactly if the model's name comes back
from its snake-case form, or from its plural without the last letter (`relatedModel?_eq_iff`).
-/

namespace CrudScaffold

open Source (Member)

namespace Request

variable {r : Request}

/-! ### Names of relationships -/

/-- Of a schema that is read, every relationship is called by an identifier.  The checks for the names of fields would
pass it exactly if the field is not called by a word that they look for with `_id` behind it. -/
theorem relationNames_of_parse {raw : Option String} (h : Schema.parse raw = .ok r.schema) :
    r.modelClass.attributes = "__tablename__" :: (r.columnNames ++ (r.relationNames ++ ["__repr__"])) ∧
      ∀ f ∈ r.schema.foreignKeys, isIdentChars f.relationName.toList = true ∧
        (Schema.nameFault? f.relationName = none ↔ ∀ word, f.name = word ++ "_id" → ¬ Schema.IsGuarded word) := by
  have hwell := wellFormed_of_parse h
  refine ⟨modelClass_attributes hwell, fun f hf => ?_⟩
  have hfield := hwell.fields f (List.mem_filter.1 hf).1
  exact ⟨hfield.isIdentChars_relationName, hfield.nameFault?_relationName_iff⟩

theorem relationNames_of_owner :
    let owner : Field := ⟨"user_id", .foreignId, []⟩
    let r : Request := ⟨"Post", ⟨fun _ => false⟩, ⟨[owner]⟩, "default", "out", "app"⟩
    Schema.parse (some "user_id:foreign_id") = .ok r.schema ∧ r.relationNames = ["user"] ∧
      Schema.nameFault? "user" = none := by
  intro owner r
  have hparse : Schema.parse (some "user_id:foreign_id") = .ok r.schema := by decide +kernel
  have hname : owner.relationName = "user" := by decide +kernel
  obtain ⟨-, hall⟩ := relationNames_of_parse hparse
  obtain ⟨-, hpasses⟩ := hall owner (by decide +kernel)
  refine ⟨hparse, by decide +kernel, hname ▸ hpasses.2 fun word hword => ?_⟩
  have hfree : ¬ Schema.IsGuarded "user" := by decide +kernel
  have hsplit : owner.name = "user" ++ "_id" := by decide +kernel
  rwa [(String.append_left_inj "_id").1 (hword.symm.trans hsplit)]

/-- A relationship may be called by a reserved word, by a column that every model has, and by a name that the class
itself refers to. -/
theorem not_nameFault?_relationNames :
    let r : Request := ⟨"Post", ⟨fun _ => false⟩, ⟨[⟨"class_id", .foreignId, []⟩, ⟨"id_id", .foreignId, []⟩,
      ⟨"func_id", .foreignId, []⟩]⟩, "default", "out", "app"⟩
    Schema.parse (some "class_id:foreign_id,id_id:foreign_id,func_id:foreign_id") = .ok r.schema ∧
      r.relationNames = ["class", "id", "func"] ∧
      (∀ name ∈ r.relationNames, name ∈ r.modelClass.attributes) ∧
      Schema.nameFault? "class" = some (.reservedName "class") ∧
      Schema.nameFault? "id" = some (.implicitName "id") ∧
      Schema.nameFault? "func" = some (.shadowingName "func") := by
  decide +kernel

/-! ### Texts of references -/

/-- Both files are written with the reference of a field: the column leads to the target, and the relationship holds
rows of the class. -/
structure Refers (r : Request) (f : Field) (target : Reference) (model : String) : Prop where
  mapped : f.tableColumn ∈ r.writtenColumns
  created : f.tableColumn ∈ r.createdColumns
  column : f.tableColumn.reference.map Prod.fst = some (target.table ++ "." ++ target.column)
  relationship : Member.field f.relationName (.of "Mapped" (.quoted model))
    (.call "relationship" (.ofValues [.quoted model])) ∈ r.relationships

private theorem refers_of_reference? {f : Field} (hf : f ∈ r.fields) {target : Reference}
    (htarget : f.reference? = some target) : r.Refers f target (Naming.pascal (f.noun target.table)) where
  mapped := r.isTable_writtenColumns.mem_field hf
  created := r.isTable_createdColumns.mem_field hf
  column := by
    unfold Field.tableColumn Field.foreignKey?
    rw [htarget]
    rfl
  relationship := by
    refine List.mem_filterMap.2 ⟨f, hf, ?_⟩
    rw [Field.relatedModel?_of_reference? htarget]
    rfl

/-- Of a schema that is read, every reference is written with a target and a class.  The column of the target is an
identifier, its table is one unless it is taken from the name `_id`, and the class is one exactly if a letter comes
first in what it is named after. -/
theorem refers_of_parse {raw : Option String} (h : Schema.parse raw = .ok r.schema) :
    ∀ f ∈ r.schema.foreignKeys, ∃ target model, f.reference? = some target ∧ f.relatedModel? = some model ∧
      r.Refers f target model ∧
      isIdentChars target.column.toList = true ∧
      (isIdentChars target.table.toList = true ↔ (f.name = "_id" → f.has .references = true)) ∧
      (isIdentChars model.toList = true ↔
        ((f.noun target.table).toList.find? Char.isAlphanum).any Char.isAlpha = true) := by
  intro f hf
  obtain ⟨hmem, hforeign⟩ := List.mem_filter.1 hf
  have hfield := (wellFormed_of_parse h).fields f hmem
  obtain ⟨target, htarget⟩ := Option.isSome_iff_exists.1 (hfield.isSome_reference?.trans hforeign)
  refine ⟨target, _, htarget, Field.relatedModel?_of_reference? htarget, refers_of_reference? hmem htarget,
    hfield.isIdentChars_column htarget, hfield.isIdentChars_table_iff htarget, ?_⟩
  rw [Naming.isIdentChars_pascal]

theorem refers_of_accounts :
    let owner : Field := ⟨"user_id", .foreignId, []⟩
    let payer : Field := ⟨"payer", .integer, [⟨.references, some "bank_accounts.code"⟩]⟩
    let r : Request := ⟨"Post", ⟨fun _ => false⟩, ⟨[owner, payer]⟩, "default", "out", "app"⟩
    Schema.parse (some "user_id:foreign_id,payer:integer:references(bank_accounts.code)") = .ok r.schema ∧
      (∃ target model, owner.reference? = some target ∧ owner.relatedModel? = some model ∧
        r.Refers owner target model ∧ target = ⟨"users", "id"⟩ ∧ isIdentChars model.toList = true) ∧
      ∃ target model, payer.reference? = some target ∧ payer.relatedModel? = some model ∧
        r.Refers payer target model ∧ target = ⟨"bank_accounts", "code"⟩ ∧ isIdentChars model.toList = true := by
  intro owner payer r
  have hparse : Schema.parse (some "user_id:foreign_id,payer:integer:references(bank_accounts.code)") =
      .ok r.schema := by
    decide +kernel
  have howner : owner.reference? = some ⟨"users", "id"⟩ := by decide +kernel
  have hpayer : payer.reference? = some ⟨"bank_accounts", "code"⟩ := by decide +kernel
  refine ⟨hparse, ?_, ?_⟩
  · obtain ⟨target, model, htarget, hmodel, hrefers, -, -, hclass⟩ :=
      refers_of_parse hparse owner (by decide +kernel)
    obtain rfl := Option.some.inj (htarget.symm.trans howner)
    exact ⟨_, model, htarget, hmodel, hrefers, rfl, hclass.2 (by decide +kernel)⟩
  · obtain ⟨target, model, htarget, hmodel, hrefers, -, -, hclass⟩ :=
      refers_of_parse hparse payer (by decide +kernel)
    obtain rfl := Option.some.inj (htarget.symm.trans hpayer)
    exact ⟨_, model, htarget, hmodel, hrefers, rfl, hclass.2 (by decide +kernel)⟩

/-- Nothing is left of `_id`, so that table and class have no name; and a class may be called by a number. -/
theorem not_isIdentChars_of_nothing :
    let bare : Field := ⟨"_id", .foreignId, []⟩
    let numbered : Field := ⟨"_1_id", .foreignId, []⟩
    let r : Request := ⟨"Post", ⟨fun _ => false⟩, ⟨[bare, numbered]⟩, "default", "out", "app"⟩
    Schema.parse (some "_id:foreign_id,_1_id:foreign_id") = .ok r.schema ∧ r.schema.foreignKeys = [bare, numbered] ∧
      (bare.reference? = some ⟨"", "id"⟩ ∧ bare.relatedModel? = some "" ∧ isIdentChars "".toList = false) ∧
      numbered.relatedModel? = some "1" ∧ isIdentChars "1".toList = false := by
  decide +kernel

/-! ### References from one model to another -/

/-- A reference to the table of another model, called after that model with `_id` behind it, names the model's class
exactly if the model's name is in pascal case.  If the reference is not called so, the table has to be called after the
model with an `s` behind it, too. -/
theorem relatedModel?_eq_iff {words : List String} {name : String} {f : Field} {target : Reference}
    (h : modelName words name = .ok r.model) (htarget : f.reference? = some target) (htable : target.table = r.table) :
    (f.name = r.snake ++ "_id" → (f.relatedModel? = some r.modelClass.name ↔ Naming.IsPascal r.model.toList)) ∧
      (Text.endsWith "_id" f.name = false →
        (f.relatedModel? = some r.modelClass.name ↔
          Naming.IsPascal r.model.toList ∧ r.table = r.snake ++ "s")) := by
  have hne := snake_ne_empty h
  have hmodel (noun : String) (hnoun : f.noun target.table = noun) :
      f.relatedModel? = some r.modelClass.name ↔ Naming.pascal noun = r.model := by
    rw [Field.relatedModel?_of_reference? htarget, hnoun, Option.some_inj]
    rfl
  constructor
  · intro hname
    have hstem : f.stem? = some r.snake := Field.stem?_eq_some_iff.2 ⟨hname, hne⟩
    rw [hmodel r.snake (by rw [Field.noun, hstem, Option.getD_some])]
    exact Naming.pascal_snake_eq_iff
  · intro hends
    have hstem : f.stem? = none := by
      rw [Field.stem?, Field.withoutId?, hends]
      rfl
    rw [hmodel (Naming.withoutS r.table) (by rw [Field.noun, hstem, htable, Option.getD_none])]
    exact Naming.pascal_withoutS_plural_iff hne

theorem relatedModel?_eq_of_blogPost :
    let r : Request := ⟨"BlogPost", ⟨fun _ => false⟩, ⟨[]⟩, "default", "out", "app"⟩
    let byName : Field := ⟨"blog_post_id", .foreignId, []⟩
    let written : Field := ⟨"parent", .integer, [⟨.references, some "blog_posts.id"⟩]⟩
    modelName reservedWords "blogPost" = .ok r.model ∧
      Schema.parse (some "blog_post_id:foreign_id,parent:integer:references(blog_posts.id)") =
        .ok ⟨[byName, written]⟩ ∧
      byName.relatedModel? = some r.modelClass.name ∧ written.relatedModel? = some r.modelClass.name := by
  intro r byName written
  have hmodel : modelName reservedWords "blogPost" = .ok r.model := by decide +kernel
  have hpascal : Naming.IsPascal r.model.toList := Naming.pascal_snake_eq_iff.1 (by decide +kernel)
  have htable : "blog_posts" = r.table := by decide +kernel
  have hbyName : byName.reference? = some ⟨"blog_posts", "id"⟩ := by decide +kernel
  have hwritten : written.reference? = some ⟨"blog_posts", "id"⟩ := by decide +kernel
  obtain ⟨hnamed, -⟩ := relatedModel?_eq_iff hmodel hbyName htable
  obtain ⟨-, hother⟩ := relatedModel?_eq_iff hmodel hwritten htable
  exact ⟨hmodel, by decide +kernel, (hnamed (by decide +kernel)).2 hpascal,
    (hother (by decide +kernel)).2 ⟨hpascal, by decide +kernel⟩⟩

/-- The class is named after a plural without its last letter, or after small words, and not after the model. -/
theorem not_relatedModel?_eq :
    let category : Request := ⟨"Category", ⟨fun _ => false⟩, ⟨[]⟩, "default", "out", "app"⟩
    let log : Request := ⟨"HTTPLog", ⟨fun _ => false⟩, ⟨[]⟩, "default", "out", "app"⟩
    let written : Field := ⟨"category", .integer, [⟨.references, some "categories"⟩]⟩
    let byName : Field := ⟨"http_log_id", .foreignId, []⟩
    Schema.parse (some "category:integer:references(categories),http_log_id:foreign_id") = .ok ⟨[written, byName]⟩ ∧
      (modelName reservedWords "Category" = .ok category.model ∧ written.reference? = some ⟨category.table, "id"⟩ ∧
        category.modelClass.name = "Category" ∧ written.relatedModel? = some "Categorie") ∧
      modelName reservedWords "HTTPLog" = .ok log.model ∧ byName.name = log.snake ++ "_id" ∧
        byName.reference? = some ⟨log.table, "id"⟩ ∧
        log.modelClass.name = "HTTPLog" ∧ byName.relatedModel? = some "HttpLog" := by
  decide +kernel

end Request

end CrudScaffold
